import Airdrop.Proofs.Json.Reader

/-!
# Proofs/Json/Exact — a reader reads what it took

A reader is *exact* if the tokens that it took off the front are a value, and it would have read
them as the same whatever followed (`Exact`).  **What a reader gave then says what was written**:
the readers of plain values are exact, arrays of exact readers are (`array_eq_ok_iff`), and an
object that was read has members that fill the record, each of them read exactly
(`record_eq_ok_iff`).
-/

namespace Airdrop.Json

open Reader

variable {α β ρ : Type} {ts rest : List Token}

/-- **A reader is exact**: it took a value off, and reads that value as what it gave. -/
def Exact (reader : Reader α) : Prop :=
  ∀ ⦃ts rest : List Token⦄ ⦃a : α⦄, reader ts = .ok (a, rest) →
    ∃ value, ts = value ++ rest ∧ Value value ∧ Reads reader value a

/-- **What an exact reader reads a value as** is what it gives if nothing follows. -/
theorem Exact.reads_iff {reader : Reader α} (h : Exact reader) {value : List Token} {a : α} :
    Reads reader value a ↔ reader value = .ok (a, []) := by
  constructor
  · intro hreads
    have hok := hreads.eq_ok []
    rwa [List.append_nil] at hok
  · intro hok
    obtain ⟨value', heq, -, hreads⟩ := h hok
    rw [List.append_nil] at heq
    exact heq ▸ hreads

/-- A reader that takes nothing, and does not look at the tokens. -/
def Idle (reader : Reader α) : Prop :=
  ∀ ⦃ts rest : List Token⦄ ⦃a : α⦄, reader ts = .ok (a, rest) →
    rest = ts ∧ ∀ ts', reader ts' = .ok (a, ts')

/-! ## One reader after another -/

theorem bind_eq_ok {reader : Reader α} {next : α → Reader β} {b : β}
    (h : (reader >>= next) ts = .ok (b, rest)) :
    ∃ a between, reader ts = .ok (a, between) ∧ next a between = .ok (b, rest) := by
  change (reader ts >>= fun read => next read.1 read.2) = _ at h
  match reader ts, h with
  | .ok (a, between), h => exact ⟨a, between, rfl, h⟩

theorem map_eq_ok {reader : Reader α} {f : α → β} {b : β} (h : (f <$> reader) ts = .ok (b, rest)) :
    ∃ a, reader ts = .ok (a, rest) ∧ f a = b := by
  change (reader ts >>= fun read => pure (f read.1, read.2)) = _ at h
  match reader ts, h with
  | .ok (a, _), h =>
    cases h
    exact ⟨a, rfl, rfl⟩

theorem idle_pure (a : α) : Idle (pure a : Reader α) := by
  intro ts rest b h
  cases h
  exact ⟨rfl, fun _ => rfl⟩

theorem idle_stop (detail : Option String) : Idle (stop detail : Reader α) := nofun

theorem Exact.bind {reader : Reader α} {next : α → Reader β} (h : Exact reader)
    (hnext : ∀ a, Idle (next a)) : Exact (reader >>= next) := by
  intro ts rest b hread
  obtain ⟨a, between, ha, hb⟩ := bind_eq_ok hread
  obtain ⟨rfl, hidle⟩ := hnext a hb
  obtain ⟨value, rfl, hvalue, hreads⟩ := h ha
  exact ⟨value, rfl, hvalue, hreads.bind hidle⟩

theorem Exact.map {reader : Reader α} (h : Exact reader) (f : α → β) : Exact (f <$> reader) := by
  intro ts rest b hread
  obtain ⟨a, ha, rfl⟩ := map_eq_ok hread
  obtain ⟨value, rfl, hvalue, hreads⟩ := h ha
  exact ⟨value, rfl, hvalue, hreads.map f⟩

/-- **What a value is read as** by one reader after another, the second of which takes nothing. -/
theorem reads_bind_iff {reader : Reader α} {next : α → Reader β} (h : Exact reader)
    (hnext : ∀ a, Idle (next a)) {value : List Token} {b : β} :
    Reads (reader >>= next) value b ↔
      ∃ a, Reads reader value a ∧ ∀ rest, next a rest = .ok (b, rest) := by
  refine ⟨fun hreads => ?_, fun ⟨a, hreads, hidle⟩ => hreads.bind hidle⟩
  obtain ⟨a, between, ha, hb⟩ := bind_eq_ok ((h.bind hnext).reads_iff.1 hreads)
  obtain ⟨rfl, hidle⟩ := hnext a hb
  exact ⟨a, h.reads_iff.2 ha, hidle⟩

theorem reads_map_iff {reader : Reader α} (h : Exact reader) {f : α → β} {value : List Token}
    {b : β} : Reads (f <$> reader) value b ↔ ∃ a, Reads reader value a ∧ f a = b := by
  refine ⟨fun hreads => ?_, fun ⟨a, hreads, hb⟩ => hb ▸ hreads.map f⟩
  obtain ⟨a, ha, hb⟩ := map_eq_ok ((h.map f).reads_iff.1 hreads)
  exact ⟨a, h.reads_iff.2 ha, hb⟩

/-- **A document is read as a value** if its tokens are, to the last one. -/
theorem read_eq_ok_iff {reader : Reader α} {document : List UInt8} {a : α} :
    read reader document = .ok a ↔ reader (tokens document) = .ok (a, []) := by
  have hrun : ∀ result, (do let value ← reader; done; return value) (tokens document) = .ok result →
      reader (tokens document) = .ok (result.1, []) := fun ⟨a, rest⟩ h => by
    obtain ⟨a, after, hread, hdone⟩ := bind_eq_ok h
    match after, hdone with
    | [], hdone =>
      cases hdone
      exact hread
  unfold read
  rw [StateT.run']
  constructor
  · intro h
    cases hok : (do let value ← reader; done; return value) (tokens document) with
    | error => rw [hok] at h; cases h
    | ok result =>
      rw [hok] at h
      cases h
      exact hrun result hok
  · intro h
    have hdone : (do let value ← reader; done; return value) (tokens document) = .ok (a, []) :=
      bind_of_ok h
    rw [hdone]
    rfl

/-! ## Plain values -/

theorem natural_eq_ok_iff {bound n : Nat} :
    natural bound ts = .ok (n, rest) ↔
      ∃ numeral, ts = .number numeral :: rest ∧ numeral.natural? = some n ∧ n < bound := by
  constructor
  · intro h
    obtain ⟨token, after, hnext, hmatch⟩ := bind_eq_ok h
    match ts, hnext with
    | token :: after, rfl =>
      match token, hmatch with
      | .number numeral, hmatch =>
        dsimp only at hmatch
        cases hm : numeral.natural? with
        | none =>
          rw [hm] at hmatch
          cases hmatch
        | some m =>
          rw [hm] at hmatch
          dsimp only at hmatch
          split at hmatch
          · next hlt =>
            cases hmatch
            exact ⟨numeral, rfl, hm, hlt⟩
          · cases hmatch
  · rintro ⟨numeral, rfl, hn, hlt⟩
    have hnext : next (.number numeral :: rest) = .ok (.number numeral, rest) := rfl
    rw [natural, bind_of_ok hnext]
    dsimp only
    rw [hn]
    dsimp only
    rw [if_pos hlt]
    rfl

theorem exact_natural (bound : Nat) : Exact (natural bound) := by
  intro ts rest n h
  obtain ⟨numeral, rfl, hn, hlt⟩ := natural_eq_ok_iff.1 h
  exact ⟨[.number numeral], rfl, .word rfl, nofun, fun rest =>
    natural_eq_ok_iff.2 ⟨numeral, rfl, hn, hlt⟩⟩

theorem reads_natural_iff {bound n : Nat} {value : List Token} :
    Reads (natural bound) value n ↔
      ∃ numeral, value = [.number numeral] ∧ numeral.natural? = some n ∧ n < bound :=
  (exact_natural bound).reads_iff.trans natural_eq_ok_iff

/-- **A word is read from the literal of its number**, and from no other. -/
theorem reads_word_iff {w : UInt64} {value : List Token} :
    Reads word value w ↔
      ∃ numeral, value = [.number numeral] ∧ numeral.natural? = some w.toNat := by
  refine (reads_map_iff (exact_natural _)).trans ⟨?_, ?_⟩
  · rintro ⟨n, hreads, rfl⟩
    obtain ⟨numeral, rfl, hn, hlt⟩ := reads_natural_iff.1 hreads
    exact ⟨numeral, rfl, by rw [hn, UInt64.toNat_ofNat_of_lt' hlt]⟩
  · rintro ⟨numeral, rfl, hn⟩
    exact ⟨w.toNat, reads_natural_iff.2 ⟨numeral, rfl, hn, w.toNat_lt⟩, UInt64.ofNat_toNat⟩

theorem exact_word : Exact word := (exact_natural _).map _

theorem text_eq_ok_iff {content : String} :
    text ts = .ok (content, rest) ↔ ts = Write.text content ++ rest := by
  constructor
  · intro h
    obtain ⟨token, after, hnext, hmatch⟩ := bind_eq_ok h
    match ts, hnext with
    | token :: after, rfl =>
      match token, hmatch with
      | .text (some characters), hmatch =>
        cases hmatch
        rw [Write.text, String.toList_ofList]
        rfl
  · rintro rfl
    exact (reads_text content).eq_ok rest

theorem exact_text : Exact text := by
  intro ts rest content h
  obtain rfl := text_eq_ok_iff.1 h
  exact ⟨_, rfl, .word rfl, reads_text content⟩

theorem reads_text_iff {content : String} {value : List Token} :
    Reads text value content ↔ value = Write.text content := by
  rw [exact_text.reads_iff, text_eq_ok_iff, List.append_nil]

theorem expect_eq_ok {token : Token} (h : expect token ts = .ok ((), rest)) :
    ts = token :: rest := by
  obtain ⟨found, after, hnext, hmatch⟩ := bind_eq_ok h
  match ts, hnext with
  | found :: after, rfl =>
    split at hmatch
    · next heq => cases hmatch; rw [heq]
    · cases hmatch

/-! ## Arrays -/

/-- The elements after the first one. -/
theorem moreElements_of_eq_ok {read : Reader α} (hread : Exact read) :
    ∀ {bound : List Token} {found as : List α} {ts rest : List Token},
      moreElements read bound found ts = .ok (as, rest) →
      ∃ (values : List (List Token)) (more : List α),
        ts = values.flatMap (.comma :: ·) ++ .closeArray :: rest ∧
        (∀ value ∈ values, Value value) ∧ List.Forall₂ (Reads read) values more ∧
        as = found.reverse ++ more
  | _ :: bound, found, as, ts, rest, h => by
      obtain ⟨token, after, hnext, hmatch⟩ := bind_eq_ok h
      match ts, hnext with
      | token :: after, rfl =>
        match token, hmatch with
        | .closeArray, rfl => exact ⟨[], [], rfl, nofun, .nil, (List.append_nil _).symm⟩
        | .comma, hmatch =>
          obtain ⟨a, between, hfirst, hmore⟩ := bind_eq_ok hmatch
          obtain ⟨value, rfl, hvalue, hreads⟩ := hread hfirst
          obtain ⟨values, more, rfl, hvalues, hall, rfl⟩ := moreElements_of_eq_ok hread hmore
          refine ⟨value :: values, a :: more, ?_, List.forall_mem_cons.2 ⟨hvalue, hvalues⟩,
            .cons hreads hall, ?_⟩
          · rw [List.flatMap_cons, List.append_assoc, List.cons_append]
          · rw [List.reverse_cons, List.append_assoc, List.singleton_append]

/-- **An array that was read is one of values that are each read.** -/
theorem array_eq_ok_iff {read : Reader α} (hread : Exact read) {as : List α} :
    Reader.array read ts = .ok (as, rest) ↔
      ∃ values, ts = Write.array values ++ rest ∧ (∀ value ∈ values, Value value) ∧
        List.Forall₂ (Reads read) values as := by
  constructor
  · intro h
    obtain ⟨⟨⟩, after, hopen, hbody⟩ := bind_eq_ok h
    obtain rfl := expect_eq_ok hopen
    by_cases hclose : ∃ more, after = .closeArray :: more
    · obtain ⟨more, rfl⟩ := hclose
      cases hbody
      exact ⟨[], rfl, nofun, .nil⟩
    · have hbody : (read >>= fun a => moreElements read after [a]) after = .ok (as, rest) := by
        match after, hbody with
        | [], hbody => exact hbody
        | token :: more, hbody =>
          cases token with
          | closeArray => exact absurd ⟨more, rfl⟩ hclose
          | _ => exact hbody
      obtain ⟨a, between, hfirst, hmore⟩ := bind_eq_ok hbody
      obtain ⟨value, hafter, hvalue, hreads⟩ := hread hfirst
      obtain ⟨values, more, rfl, hvalues, hall, rfl⟩ := moreElements_of_eq_ok hread hmore
      refine ⟨value :: values, ?_, List.forall_mem_cons.2 ⟨hvalue, hvalues⟩, .cons hreads hall⟩
      rw [hafter, Write.array, separated_cons, List.append_assoc, List.cons_append,
        List.append_assoc]
      rfl
  · rintro ⟨values, rfl, -, hall⟩
    exact (reads_array hall).eq_ok rest

theorem exact_array {read : Reader α} (hread : Exact read) : Exact (Reader.array read) := by
  intro ts rest as h
  obtain ⟨values, rfl, hvalues, hall⟩ := (array_eq_ok_iff hread).1 h
  exact ⟨_, rfl, value_array hvalues, reads_array hall⟩

/-- **What is read as an array is one**, and its values are read one by one. -/
theorem reads_array_iff {read : Reader α} (hread : Exact read) {value : List Token} {as : List α} :
    Reads (Reader.array read) value as ↔
      ∃ values, value = Write.array values ∧ List.Forall₂ (Reads read) values as := by
  refine ⟨fun hreads => ?_, fun ⟨values, hvalue, hall⟩ => hvalue ▸ reads_array hall⟩
  obtain ⟨values, hvalue, -, hall⟩ :=
    (array_eq_ok_iff hread).1 ((exact_array hread).reads_iff.1 hreads)
  rw [List.append_nil] at hvalue
  exact ⟨values, hvalue, hall⟩

/-! ## Records -/

section Records

variable {members : List (Member ρ)} (hexact : ∀ m ∈ members, ∀ record, Exact (m.read record))
include hexact

/-- A member that was read fills the record, or is none of its members. -/
theorem readMember_of_eq_ok {record record' : ρ}
    (h : readMember members record ts = .ok (record', rest)) :
    ∃ name value, ts = Write.member name value ++ rest ∧ Value value ∧
      ∀ {written last}, Fills members written record' last →
        Fills members ((name, value) :: written) record last := by
  obtain ⟨name, after, hname, hmember⟩ := bind_eq_ok h
  obtain rfl := text_eq_ok_iff.1 hname
  cases hfind : members.find? (·.name == name) with
  | none =>
    rw [hfind] at hmember
    obtain ⟨⟨⟩, between, hcolon, hskip⟩ := bind_eq_ok hmember
    obtain rfl := expect_eq_ok hcolon
    obtain ⟨⟨⟩, between, hskip, hdone⟩ := bind_eq_ok hskip
    cases hdone
    obtain ⟨value, rfl, hvalue⟩ := skip_eq_ok_iff.1 hskip
    exact ⟨name, value, by rw [Write.member, List.append_assoc, List.cons_append], hvalue,
      .other hfind hvalue⟩
  | some member =>
    rw [hfind] at hmember
    dsimp only at hmember
    split at hmember
    · cases hmember
    · next habsent =>
      obtain ⟨⟨⟩, between, hcolon, hread⟩ := bind_eq_ok hmember
      obtain rfl := expect_eq_ok hcolon
      obtain ⟨value, rfl, hvalue, hreads⟩ := hexact member (List.mem_of_find?_eq_some hfind) _ hread
      exact ⟨name, value, by rw [Write.member, List.append_assoc, List.cons_append], hvalue,
        .cons hfind (Bool.eq_false_iff.2 habsent) hreads⟩

omit hexact in
theorem finish_eq_ok_iff {record last : ρ} :
    finish members record ts = .ok (last, rest) ↔
      record = last ∧ ts = rest ∧ lacking members record = none := by
  unfold finish
  cases lacking members record with
  | none =>
    constructor
    · intro h
      cases h
      exact ⟨rfl, rfl, rfl⟩
    · rintro ⟨rfl, rfl, -⟩
      rfl
  | some name => exact ⟨nofun, fun h => nomatch h.2.2⟩

/-- The members after the first one. -/
theorem moreMembers_of_eq_ok :
    ∀ {bound : List Token} {record last : ρ} {ts rest : List Token},
      moreMembers members bound record ts = .ok (last, rest) →
      ∃ written : List (String × List Token),
        ts = (written.map fun m => Write.member m.1 m.2).flatMap (.comma :: ·) ++
          .closeObject :: rest ∧
        (∀ m ∈ written, Value m.2) ∧ Fills members written record last ∧
        lacking members last = none
  | _ :: bound, record, last, ts, rest, h => by
      obtain ⟨token, after, hnext, hmatch⟩ := bind_eq_ok h
      match ts, hnext with
      | token :: after, rfl =>
        match token, hmatch with
        | .closeObject, hmatch =>
          obtain ⟨rfl, rfl, hlacking⟩ := finish_eq_ok_iff.1 hmatch
          exact ⟨[], rfl, nofun, .nil _, hlacking⟩
        | .comma, hmatch =>
          obtain ⟨record', between, hfirst, hmore⟩ := bind_eq_ok hmatch
          obtain ⟨name, value, rfl, hvalue, hfills⟩ := readMember_of_eq_ok hexact hfirst
          obtain ⟨written, rfl, hvalues, hmore, hlacking⟩ := moreMembers_of_eq_ok hmore
          refine ⟨(name, value) :: written, ?_, List.forall_mem_cons.2 ⟨hvalue, hvalues⟩,
            hfills hmore, hlacking⟩
          rw [List.map_cons, List.flatMap_cons, List.append_assoc, List.cons_append]

/-- **An object that was read has members that fill the record**, and none is missing. -/
theorem record_eq_ok_iff {start last : ρ} :
    Reader.record members start (.openObject :: ts) = .ok (last, rest) ↔
      ∃ written, .openObject :: ts = Write.object written ++ rest ∧ (∀ m ∈ written, Value m.2) ∧
        Fills members written start last ∧ lacking members last = none := by
  constructor
  · intro h
    have hbody : membersOf members start ts = .ok (last, rest) := h
    by_cases hclose : ∃ more, ts = .closeObject :: more
    · obtain ⟨more, rfl⟩ := hclose
      obtain ⟨rfl, rfl, hlacking⟩ := finish_eq_ok_iff.1 hbody
      exact ⟨[], rfl, nofun, .nil _, hlacking⟩
    · have hbody : (readMember members start >>= moreMembers members ts) ts = .ok (last, rest) := by
        match ts, hbody with
        | [], hbody => exact hbody
        | token :: more, hbody =>
          cases token with
          | closeObject => exact absurd ⟨more, rfl⟩ hclose
          | _ => exact hbody
      obtain ⟨record, between, hfirst, hmore⟩ := bind_eq_ok hbody
      obtain ⟨name, value, hts, hvalue, hfills⟩ := readMember_of_eq_ok hexact hfirst
      obtain ⟨written, rfl, hvalues, hmore, hlacking⟩ := moreMembers_of_eq_ok hexact hmore
      refine ⟨(name, value) :: written, ?_, List.forall_mem_cons.2 ⟨hvalue, hvalues⟩,
        hfills hmore, hlacking⟩
      rw [hts, Write.object, List.map_cons, separated_cons, List.append_assoc, List.cons_append,
        List.append_assoc]
      rfl
  · rintro ⟨written, heq, -, hfills, hlacking⟩
    rw [heq]
    exact (reads_record hfills hlacking).eq_ok rest

end Records

/-! ## Members that are written once -/

/-- **A member is written once**, and as this value. -/
def Once (written : List (String × List Token)) (name : String) (value : List Token) : Prop :=
  written.filter (·.1 == name) = [(name, value)]

/-- What the members of one name make of a field that is read once. -/
def Gathers (name : String) (reader : Reader α) :
    List (String × List Token) → (before after : Option α) → Prop
  | [], before, after => before = after
  | (other, value) :: written, before, after =>
    if other = name then
      before = none ∧ ∃ a, Reads reader value a ∧ Gathers name reader written (some a) after
    else Gathers name reader written before after

theorem gathers_some_iff {name : String} {reader : Reader α} {a : α} {after : Option α} :
    ∀ {written : List (String × List Token)}, Gathers name reader written (some a) after ↔
      after = some a ∧ written.filter (·.1 == name) = []
  | [] => ⟨fun h => ⟨h.symm, rfl⟩, fun h => h.1.symm⟩
  | (other, value) :: written => by
      by_cases hname : other = name
      · rw [Gathers, if_pos hname, List.filter_cons_of_pos (by simpa using hname)]
        exact ⟨fun h => (nomatch h.1), fun h => (nomatch h.2)⟩
      · rw [Gathers, if_neg hname, List.filter_cons_of_neg (by simpa using hname)]
        exact gathers_some_iff

/-- **A field that was empty holds what its only member is read as.** -/
theorem gathers_none_some_iff {name : String} {reader : Reader α} {a : α} :
    ∀ {written : List (String × List Token)}, Gathers name reader written none (some a) ↔
      ∃ value, Once written name value ∧ Reads reader value a
  | [] => ⟨nofun, fun ⟨_, h, _⟩ => nomatch h⟩
  | (other, value) :: written => by
      unfold Once
      by_cases hname : other = name
      · subst hname
        rw [Gathers, if_pos rfl, List.filter_cons_of_pos (by simp)]
        constructor
        · rintro ⟨-, a', hreads, hmore⟩
          obtain ⟨hafter, hnone⟩ := gathers_some_iff.1 hmore
          cases hafter
          exact ⟨value, by rw [hnone], hreads⟩
        · rintro ⟨value', heq, hreads⟩
          obtain ⟨hvalue, hnone⟩ := List.cons.inj heq
          cases hvalue
          exact ⟨rfl, a, hreads, gathers_some_iff.2 ⟨rfl, hnone⟩⟩
      · rw [Gathers, if_neg hname, List.filter_cons_of_neg (by simpa using hname)]
        exact gathers_none_some_iff

/-- A member that has to be there fills its field, and leaves the others to the members after it. -/
theorem fills_required_iff {members : List (Member ρ)} {name : String} {get : ρ → Option α}
    {put : ρ → α → ρ} {reader : Reader α}
    (hfind : members.find? (·.name == name) = some (required name get put reader))
    (hexact : Exact reader) {value : List Token} {written : List (String × List Token)}
    {record last : ρ} :
    Fills members ((name, value) :: written) record last ↔
      get record = none ∧
        ∃ a, Reads reader value a ∧ Fills members written (put record a) last := by
  rw [fills_cons_iff, hfind]
  refine and_congr (Option.isSome_eq_false_iff.trans Option.isNone_iff_eq_none) ⟨?_, ?_⟩
  · rintro ⟨record', hmember, hfills⟩
    obtain ⟨a, hreads, rfl⟩ := (reads_map_iff hexact).1 hmember
    exact ⟨a, hreads, hfills⟩
  · rintro ⟨a, hreads, hfills⟩
    exact ⟨put record a, hreads.map _, hfills⟩

theorem Once.mem {written : List (String × List Token)} {name : String} {value : List Token}
    (h : Once written name value) : (name, value) ∈ written :=
  (List.mem_filter.1 (h ▸ List.mem_singleton_self _)).1

theorem Once.value_inj {written : List (String × List Token)} {name : String}
    {value value' : List Token} (h : Once written name value) (h' : Once written name value') :
    value = value' := by
  have heq := h.symm.trans h'
  exact (Prod.mk.inj (List.cons.inj heq).1).2

end Airdrop.Json
