import Airdrop.Proofs.Json.Value
import Mathlib.Algebra.Order.Ring.Nat
import Mathlib.Data.List.Forall2

/-!
# Proofs/Json/Reader — what readers make of what was written

A reader *reads* some tokens as a value if it takes just them off the front, whatever follows
(`Reads`).  Values are read one inside another: an array of values that are each read is read
(`reads_array`), and so is a record whose members are, **in whatever order they were written**
(`Fills`, `reads_record`).  Skipping takes a value off like reading it.
-/

namespace Airdrop.Json

variable {α β ρ : Type}

/-- Tokens that begin a value: there are some, and the first one does not end an array. -/
def Opens : List Token → Prop
  | [] => False
  | token :: _ => token ≠ .closeArray

/-- **A reader reads tokens as a value**: it takes them off the front, and nothing after them. -/
structure Reads (reader : Reader α) (value : List Token) (a : α) : Prop where
  opens : Opens value
  eq_ok : ∀ rest, reader (value ++ rest) = .ok (a, rest)

theorem Opens.append {value : List Token} (h : Opens value) (rest : List Token) :
    Opens (value ++ rest) := by
  match value, h with
  | _ :: _, h => exact h

namespace Reader

/-! ## One reader after another -/

theorem bind_of_ok {reader : Reader α} {next : α → Reader β} {ts rest : List Token} {a : α}
    (h : reader ts = .ok (a, rest)) : (reader >>= next) ts = next a rest := by
  change (reader ts >>= fun read => next read.1 read.2) = _
  rw [h]
  rfl

end Reader

open Reader

theorem Reads.bind {reader : Reader α} {value : List Token} {a : α} {next : α → Reader β} {b : β}
    (h : Reads reader value a) (hnext : ∀ rest, next a rest = .ok (b, rest)) :
    Reads (reader >>= next) value b :=
  ⟨h.opens, fun rest => (bind_of_ok (h.eq_ok rest)).trans (hnext rest)⟩

theorem Reads.map {reader : Reader α} {value : List Token} {a : α} (h : Reads reader value a)
    (f : α → β) : Reads (f <$> reader) value (f a) := by
  refine ⟨h.opens, fun rest => ?_⟩
  change (reader (value ++ rest) >>= fun read => pure (f read.1, read.2)) = _
  rw [h.eq_ok]
  rfl

/-- **A document that is a value is read as that value.** -/
theorem read_eq_ok {reader : Reader α} {value : List Token} {a : α} (h : Reads reader value a)
    {document : List UInt8} (htokens : tokens document = value) : read reader document = .ok a := by
  have hreader : reader value = .ok (a, []) := by
    have hvalue := h.eq_ok []
    rwa [List.append_nil] at hvalue
  have hdone : (do let value ← reader; done; return value) (tokens document) = .ok (a, []) := by
    rw [htokens]
    exact bind_of_ok hreader
  unfold read
  rw [StateT.run', hdone]
  rfl

/-! ## Plain values -/

theorem reads_natural {n bound : Nat} (h : n < bound) :
    Reads (Reader.natural bound) (Write.natural n) n := by
  refine ⟨nofun, fun rest => ?_⟩
  change (if n < bound then pure n else malformed : Reader Nat) rest = _
  rw [if_pos h]
  rfl

theorem reads_word (w : UInt64) : Reads Reader.word (Write.natural w.toNat) w := by
  have h := (reads_natural w.toNat_lt).map UInt64.ofNat
  rwa [UInt64.ofNat_toNat] at h

theorem reads_byte (b : UInt8) : Reads Reader.byte (Write.natural b.toNat) b := by
  have h := (reads_natural b.toNat_lt).map UInt8.ofNat
  rwa [UInt8.ofNat_toNat] at h

theorem reads_text (content : String) : Reads Reader.text (Write.text content) content := by
  refine ⟨nofun, fun rest => ?_⟩
  change Except.ok (String.ofList content.toList, rest) = _
  rw [String.ofList_toList]

/-! ## Arrays -/

/-- There are as many tokens as values behind commas, and more. -/
theorem length_lt_separated (values : List (List Token)) (front rest : List Token) (last : Token) :
    values.length < (front ++ (values.flatMap (.comma :: ·) ++ last :: rest)).length := by
  have hle : values.length ≤ (values.flatMap (.comma :: ·)).length := by
    induction values with
    | nil => exact Nat.le_refl 0
    | cons value values ih =>
      rw [List.flatMap_cons, List.length_append, List.length_cons, List.length_cons]
      omega
  rw [List.length_append, List.length_append, List.length_cons]
  omega

/-- The elements after the first one are read up to the bracket. -/
theorem moreElements_eq_ok {read : Reader α} {values : List (List Token)} {as : List α}
    (h : List.Forall₂ (Reads read) values as) :
    ∀ {bound : List Token} (found : List α) (rest : List Token), values.length < bound.length →
      moreElements read bound found (values.flatMap (.comma :: ·) ++ .closeArray :: rest) =
        .ok (found.reverse ++ as, rest) := by
  induction h with
  | nil =>
    intro bound found rest hlt
    match bound, hlt with
    | _ :: _, _ =>
      rw [List.append_nil]
      rfl
  | @cons value a values as hread _ ih =>
    intro bound found rest hlt
    match bound, hlt with
    | _ :: bound, hlt =>
      rw [List.flatMap_cons, List.append_assoc, List.cons_append]
      change (read >>= fun a => moreElements read bound (a :: found)) _ = _
      rw [bind_of_ok (hread.eq_ok _)]
      rw [ih (a :: found) rest (Nat.lt_of_succ_lt_succ hlt), List.reverse_cons, List.append_assoc]
      rfl

theorem array_of_opens {read : Reader α} {ts : List Token} (h : Opens ts) :
    Reader.array read (.openArray :: ts) =
      (read >>= fun a => moreElements read ts [a]) ts := by
  match ts, h with
  | token :: ts, h =>
    cases token with
    | closeArray => exact absurd rfl h
    | _ => rfl

/-- **An array is read element by element.** -/
theorem reads_array {read : Reader α} {values : List (List Token)} {as : List α}
    (h : List.Forall₂ (Reads read) values as) :
    Reads (Reader.array read) (Write.array values) as := by
  refine ⟨nofun, fun rest => ?_⟩
  match h with
  | .nil => rfl
  | .cons hread h =>
    rw [Write.array, separated_cons, List.cons_append, List.cons_append, List.append_assoc,
      List.append_assoc, List.singleton_append, array_of_opens (hread.opens.append _),
      bind_of_ok (hread.eq_ok _), moreElements_eq_ok h _ _ (length_lt_separated _ _ _ _)]
    rfl

/-! ## Skipping -/

namespace Numeral

theorem roundBits_of_lt {n : Nat} (h : n < 2 ^ 53) : roundBits n = n := by
  have hexcess : n.log2 + 1 - 53 = 0 := by
    rcases Nat.eq_zero_or_pos n with rfl | hpos
    · rfl
    · have hlog := (Nat.log2_lt (Nat.pos_iff_ne_zero.1 hpos)).2 h
      omega
  rw [roundBits]
  exact if_pos hexcess

/-- **A small number fits double precision.** -/
theorem isTooLarge_ofNat {n : Nat} (h : n < 2 ^ 53) : (ofNat n).isTooLarge = false := by
  have hleading : leading n = (n, 0) := by
    rw [leading, dif_pos (Nat.lt_trans h (by decide))]
  have hpower : roundBits (Nat.pow 10 ((0 : Int) + ((0 : Nat) : Int)).toNat) = 1 :=
    roundBits_of_lt (show 1 < 2 ^ 53 by decide)
  simp only [isTooLarge, ofNat, hleading]
  split
  · rfl
  · have hle : ∀ bits, 53 ≤ bits → n < 1 <<< bits := fun bits hbits => by
      rw [Nat.one_shiftLeft]
      exact Nat.lt_of_lt_of_le h (Nat.pow_le_pow_right Nat.two_pos hbits)
    rw [if_neg (by decide), hpower, Nat.mul_one, roundBits_of_lt h, roundBits_of_lt h,
      decide_eq_false_iff_not]
    exact Nat.not_le_of_lt (hle 1024 (by decide))

end Numeral

/-- **A value is skipped as one**, if the care that is taken allows it. -/
theorem Stands.reads {care : Reader.Care} {value : List Token} (h : Stands care .value [] value) :
    Reads (skip care) value () := by
  refine ⟨?_, fun rest => skip_eq_ok_iff.2 ⟨value, rfl, h⟩⟩
  obtain ⟨token, more, rfl, hclosing⟩ := h.exists_cons
  exact hclosing .array

/-! ## Records -/

/-- **Members as they were written fill a record**: each of them is one of the record's, is not
there yet, and is read, or it is none of them and a value. -/
inductive Fills (members : List (Member ρ)) : List (String × List Token) → ρ → ρ → Prop
  | nil (record : ρ) : Fills members [] record record
  | other {name : String} {value : List Token} {written : List (String × List Token)}
      {record last : ρ} (hfind : members.find? (·.name == name) = none) (hvalue : Value value)
      (h : Fills members written record last) : Fills members ((name, value) :: written) record last
  | cons {name : String} {value : List Token} {written : List (String × List Token)}
      {member : Member ρ} {record record' last : ρ}
      (hfind : members.find? (·.name == name) = some member)
      (habsent : member.isPresent record = false)
      (hread : Reads (member.read record) value record')
      (h : Fills members written record' last) :
      Fills members ((name, value) :: written) record last

variable {members : List (Member ρ)}

/-- What the first member that was written fills. -/
theorem fills_cons_iff {name : String} {value : List Token} {written : List (String × List Token)}
    {record last : ρ} :
    Fills members ((name, value) :: written) record last ↔
      match members.find? (·.name == name) with
      | none => Value value ∧ Fills members written record last
      | some member => member.isPresent record = false ∧
          ∃ record', Reads (member.read record) value record' ∧
            Fills members written record' last := by
  constructor
  · intro h
    cases h with
    | other hfind hvalue h => rw [hfind]; exact ⟨hvalue, h⟩
    | cons hfind habsent hread h => rw [hfind]; exact ⟨habsent, _, hread, h⟩
  · intro h
    cases hfind : members.find? (·.name == name) with
    | none => rw [hfind] at h; exact .other hfind h.1 h.2
    | some member =>
      rw [hfind] at h
      obtain ⟨habsent, record', hread, h⟩ := h
      exact .cons hfind habsent hread h

theorem readMember_eq_ok {name : String} {value : List Token} {member : Member ρ}
    {record record' : ρ} (hfind : members.find? (·.name == name) = some member)
    (habsent : member.isPresent record = false) (hread : Reads (member.read record) value record')
    (rest : List Token) :
    readMember members record (Write.member name value ++ rest) = .ok (record', rest) := by
  rw [Write.member, List.append_assoc, readMember, bind_of_ok ((reads_text name).eq_ok _), hfind]
  dsimp only
  rw [habsent]
  exact hread.eq_ok rest

theorem readMember_of_other {name : String} {value : List Token} {record : ρ}
    (hfind : members.find? (·.name == name) = none) (hvalue : Value value) (rest : List Token) :
    readMember members record (Write.member name value ++ rest) = .ok (record, rest) := by
  rw [Write.member, List.append_assoc, readMember, bind_of_ok ((reads_text name).eq_ok _), hfind]
  change (skip .form >>= fun _ => pure record) (value ++ rest) = _
  rw [bind_of_ok (hvalue.reads.eq_ok rest)]
  rfl

/-- A member that fills a record is read. -/
theorem Fills.exists_readMember {name : String} {value : List Token}
    {written : List (String × List Token)} {record last : ρ}
    (h : Fills members ((name, value) :: written) record last) : ∃ record',
      Fills members written record' last ∧
      ∀ rest, readMember members record (Write.member name value ++ rest) = .ok (record', rest) := by
  cases h with
  | other hfind hvalue h => exact ⟨record, h, readMember_of_other hfind hvalue⟩
  | cons hfind habsent hread h => exact ⟨_, h, readMember_eq_ok hfind habsent hread⟩

/-- The end of an object: nothing is missing. -/
theorem finish_eq_ok {record : ρ} (h : lacking members record = none) (rest : List Token) :
    finish members record rest = .ok (record, rest) := by
  rw [finish, h]
  rfl

theorem moreMembers_eq_ok {last : ρ} (hlast : lacking members last = none) (rest : List Token) :
    ∀ {written : List (String × List Token)} {record : ρ} {bound : List Token},
      Fills members written record last → written.length < bound.length →
      moreMembers members bound record
        ((written.map fun m => Write.member m.1 m.2).flatMap (.comma :: ·) ++ .closeObject :: rest) =
          .ok (last, rest)
  | [], _, _ :: _, .nil _, _ => finish_eq_ok hlast rest
  | (name, value) :: written, record, _ :: bound, h, hlt => by
      obtain ⟨record', hfills, hread⟩ := h.exists_readMember
      rw [List.map_cons, List.flatMap_cons, List.append_assoc, List.cons_append]
      change (readMember members record >>= fun r => moreMembers members bound r) _ = _
      rw [bind_of_ok (hread _)]
      exact moreMembers_eq_ok hlast rest hfills (Nat.lt_of_succ_lt_succ hlt)

theorem record_of_member (start : ρ) (name : String) (value ts : List Token) :
    Reader.record members start (.openObject :: (Write.member name value ++ ts)) =
      (readMember members start >>= moreMembers members (Write.member name value ++ ts))
        (Write.member name value ++ ts) := rfl

/-- **A record is read member by member**, if none is missing in the end. -/
theorem reads_record {written : List (String × List Token)} {start last : ρ}
    (h : Fills members written start last) (hlast : lacking members last = none) :
    Reads (Reader.record members start) (Write.object written) last := by
  refine ⟨nofun, fun rest => ?_⟩
  match written, h with
  | [], .nil _ => exact finish_eq_ok hlast rest
  | (name, value) :: written, h =>
    obtain ⟨record, hfills, hread⟩ := h.exists_readMember
    have hlt : written.length < (Write.member name value ++ ((written.map fun m =>
        Write.member m.1 m.2).flatMap (.comma :: ·) ++ .closeObject :: rest)).length := by
      have hlt := length_lt_separated (written.map fun m => Write.member m.1 m.2)
        (Write.member name value) rest .closeObject
      rwa [List.length_map] at hlt
    rw [Write.object, List.map_cons, separated_cons, List.cons_append, List.cons_append,
      List.append_assoc, List.append_assoc, List.singleton_append]
    rw [record_of_member, bind_of_ok (hread _)]
    exact moreMembers_eq_ok hlast rest hfills hlt

end Airdrop.Json
