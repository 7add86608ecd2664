import Airdrop.Json.Layout
import Airdrop.Json.Reader

/-!
# Proofs/Json/Value — which tokens are a value

A value is a word, or a bracket with items in it: values in an array, a key and a value each in an
object (`Stands`).  **Skipping a value takes exactly the tokens that are one** off the front, and
fails where none begins (`skip_eq_ok_iff`).  Since skipping has one outcome, a value can be told
from what follows it in one way only (`Value.append_inj`), and so can the items between two brackets
(`separated_inj`).
-/

namespace Airdrop.Json

open Reader

/-! ## Brackets and what stands in them -/

namespace Reader.Bracket

/-- The word that opens a bracket. -/
def opening : Bracket → Token
  | .array => .openArray
  | .object => .openObject

/-- …and the word that closes it. -/
def closing : Bracket → Token
  | .array => .closeArray
  | .object => .closeObject

/-- What may come just behind the opening bracket. -/
def first : Bracket → Place
  | .array => .firstElement
  | .object => .firstKey

/-- What has to come behind a comma. -/
def item : Bracket → Place
  | .array => .value
  | .object => .key

end Reader.Bracket

/-- **Tokens stand at a place**: a word or a bracket with its items where a value has to be, a key
with its value where a key has to be. -/
inductive Stands (care : Care) : Reader.Place → List Bracket → List Token → Prop
  | word {enclosing : List Bracket} {token : Token} (h : care.admits token = true) :
      Stands care .value enclosing [token]
  | group (bracket : Bracket) {enclosing : List Bracket} {items : List (List Token)}
      (hopen : care.admitsBracket enclosing = true)
      (h : ∀ item ∈ items, Stands care bracket.item (bracket :: enclosing) item) :
      Stands care .value enclosing
        (bracket.opening :: Write.separated items ++ [bracket.closing])
  | member {enclosing : List Bracket} {key : Option (List Char)} {value : List Token}
      (hkey : care.admits (.text key) = true) (h : Stands care .value enclosing value) :
      Stands care .key enclosing (.text key :: .colon :: value)

/-- **Tokens are a value**, however deep. -/
abbrev Value (value : List Token) : Prop := Stands .form .value [] value

/-- Who looks at the form only is content with everything. -/
theorem Stands.form {care : Care} {place : Reader.Place} {enclosing : List Bracket}
    {ts : List Token} (h : Stands care place enclosing ts) (enclosing' : List Bracket) :
    Stands .form place enclosing' ts := by
  induction h generalizing enclosing' with
  | @word enclosing token h =>
    refine .word ?_
    cases care <;> cases token <;> first | rfl | cases h
  | group bracket _ _ ih => exact .group bracket rfl fun item hitem => ih item hitem _
  | member _ _ ih => exact .member rfl (ih _)

theorem separated_cons (value : List Token) (values : List (List Token)) :
    Write.separated (value :: values) = value ++ values.flatMap (.comma :: ·) := by
  induction values generalizing value with
  | nil => rw [Write.separated, List.flatMap_nil, List.append_nil]
  | cons next values ih =>
    rw [Write.separated, ih, List.flatMap_cons, List.cons_append]
    exact nofun

namespace Reader

variable {care : Care} {bracket : Bracket} {enclosing : List Bracket}

/-! ## One step of skipping -/

theorem leave_cons (ts : List Token) :
    skipFrom.leave care (bracket :: enclosing) ts =
      skipFrom care .separator (bracket :: enclosing) ts := by
  rw [skipFrom.leave]
  rfl

/-- A word that may be skipped opens nothing and closes nothing. -/
theorem Care.ne_of_admits {token : Token} (h : care.admits token = true) (bracket : Bracket) :
    token ≠ bracket.opening ∧ token ≠ bracket.closing := by
  constructor
  all_goals
    rintro rfl
    cases care <;> cases bracket <;> cases h

theorem skipFrom_word {token : Token} (h : ∀ bracket : Bracket, token ≠ bracket.opening)
    (ts : List Token) :
    skipFrom care .value enclosing (token :: ts) =
      if care.admits token = true then skipFrom.leave care enclosing ts
      else .error ⟨none, ts.length⟩ := by
  rw [skipFrom]
  cases token with
  | openArray => exact absurd rfl (h .array)
  | openObject => exact absurd rfl (h .object)
  | _ => simp only [skipFrom.enter]

theorem skipFrom_opening (ts : List Token) :
    skipFrom care .value enclosing (bracket.opening :: ts) =
      if care.admitsBracket enclosing = true then
        skipFrom care bracket.first (bracket :: enclosing) ts
      else .error ⟨none, ts.length⟩ := by
  rw [skipFrom]
  cases bracket with
  | array | object => simp only [Bracket.opening, Bracket.first, skipFrom.enter]

theorem skipFrom_first_closing (ts : List Token) :
    skipFrom care bracket.first (bracket :: enclosing) (bracket.closing :: ts) =
      skipFrom.leave care enclosing ts := by
  cases bracket with
  | array => rw [Bracket.first, Bracket.closing, skipFrom, if_pos rfl, List.tail_cons]
  | object => rw [Bracket.first, Bracket.closing, skipFrom, List.tail_cons]

/-- The first item is skipped like any other. -/
theorem skipFrom_first {token : Token} (h : token ≠ bracket.closing) (ts : List Token) :
    skipFrom care bracket.first enclosing (token :: ts) =
      skipFrom care bracket.item enclosing (token :: ts) := by
  cases bracket with
  | array =>
    rw [Bracket.first, Bracket.item, skipFrom, skipFrom]
    exact if_neg h
  | object =>
    cases token with
    | closeObject => exact absurd rfl h
    | _ => simp only [Bracket.first, Bracket.item, skipFrom]

theorem skipFrom_comma (ts : List Token) :
    skipFrom care .separator (bracket :: enclosing) (.comma :: ts) =
      skipFrom care bracket.item (bracket :: enclosing) ts := by
  cases bracket <;> rw [skipFrom, Bracket.item]

theorem skipFrom_closing (ts : List Token) :
    skipFrom care .separator (bracket :: enclosing) (bracket.closing :: ts) =
      skipFrom.leave care enclosing ts := by
  cases bracket <;> rw [Bracket.closing, skipFrom]

theorem skipFrom_key (key : Option (List Char)) (ts : List Token) :
    skipFrom care .key enclosing (.text key :: ts) =
      if care.admits (.text key) = true then skipFrom care .colon enclosing ts
      else .error ⟨none, ts.length⟩ := by
  rw [skipFrom]

theorem skipFrom_colon (token : Token) (ts : List Token) :
    skipFrom care .colon enclosing (token :: ts) =
      if token = .colon then skipFrom care .value enclosing ts else .error ⟨none, ts.length⟩ := by
  rw [skipFrom]

theorem skipFrom_nil (place : Place) : skipFrom care place enclosing [] = .error ⟨none, 0⟩ := by
  rw [skipFrom]

/-! ## …and what a step says of the tokens -/

variable {ts : List Token} {skipped : Unit × List Token}

theorem skipFrom_value_cases (h : skipFrom care .value enclosing ts = .ok skipped) :
    (∃ token after, ts = token :: after ∧ care.admits token = true ∧
      skipFrom.leave care enclosing after = .ok skipped) ∨
    ∃ (bracket : Bracket) (after : List Token), ts = bracket.opening :: after ∧
      care.admitsBracket enclosing = true ∧
      skipFrom care bracket.first (bracket :: enclosing) after = .ok skipped := by
  match ts, h with
  | [], h => rw [skipFrom_nil] at h; cases h
  | token :: after, h =>
    by_cases hopening : ∃ bracket : Bracket, token = bracket.opening
    · obtain ⟨bracket, rfl⟩ := hopening
      rw [skipFrom_opening] at h
      split at h
      · next hopen => exact .inr ⟨bracket, after, rfl, hopen, h⟩
      · cases h
    · rw [skipFrom_word (not_exists.1 hopening)] at h
      split at h
      · next hadmits => exact .inl ⟨token, after, rfl, hadmits, h⟩
      · cases h

theorem skipFrom_first_cases
    (h : skipFrom care bracket.first (bracket :: enclosing) ts = .ok skipped) :
    (∃ after, ts = bracket.closing :: after ∧ skipFrom.leave care enclosing after = .ok skipped) ∨
    skipFrom care bracket.item (bracket :: enclosing) ts = .ok skipped := by
  match ts, h with
  | [], h => rw [skipFrom_nil] at h; cases h
  | token :: after, h =>
    by_cases hclosing : token = bracket.closing
    · subst hclosing
      rw [skipFrom_first_closing] at h
      exact .inl ⟨after, rfl, h⟩
    · rw [skipFrom_first hclosing] at h
      exact .inr h

theorem skipFrom_separator_cases
    (h : skipFrom care .separator (bracket :: enclosing) ts = .ok skipped) :
    (∃ after, ts = bracket.closing :: after ∧ skipFrom.leave care enclosing after = .ok skipped) ∨
    ∃ after, ts = .comma :: after ∧
      skipFrom care bracket.item (bracket :: enclosing) after = .ok skipped := by
  match ts, h with
  | [], h => rw [skipFrom_nil] at h; cases h
  | token :: after, h =>
    by_cases hclosing : token = bracket.closing
    · subst hclosing
      rw [skipFrom_closing] at h
      exact .inl ⟨after, rfl, h⟩
    · by_cases hcomma : token = .comma
      · subst hcomma
        rw [skipFrom_comma] at h
        exact .inr ⟨after, rfl, h⟩
      · cases bracket <;> cases token <;>
          first | exact absurd rfl hclosing | exact absurd rfl hcomma | (simp [skipFrom] at h)

theorem skipFrom_key_cases (h : skipFrom care .key enclosing ts = .ok skipped) :
    ∃ key after, ts = .text key :: .colon :: after ∧ care.admits (.text key) = true ∧
      skipFrom care .value enclosing after = .ok skipped := by
  match ts, h with
  | [], h => rw [skipFrom_nil] at h; cases h
  | token :: after, h =>
    cases token with
    | text key =>
      rw [skipFrom_key] at h
      split at h
      · next hkey =>
        match after, h with
        | [], h => rw [skipFrom_nil] at h; cases h
        | token :: after, h =>
          rw [skipFrom_colon] at h
          split at h
          · next hcolon => exact ⟨key, after, by rw [hcolon], hkey, h⟩
          · cases h
      · cases h
    | _ => simp [skipFrom] at h

end Reader

namespace Stands

variable {care : Care} {place : Reader.Place} {enclosing : List Bracket} {ts : List Token}

/-- What stands at a place does not begin with the word that would close it. -/
theorem exists_cons (h : Stands care place enclosing ts) :
    ∃ token more, ts = token :: more ∧ ∀ bracket : Bracket, token ≠ bracket.closing := by
  cases h with
  | word h => exact ⟨_, [], rfl, fun bracket => (Care.ne_of_admits h bracket).2⟩
  | group bracket =>
    refine ⟨bracket.opening, _, rfl, fun bracket' => ?_⟩
    cases bracket <;> cases bracket' <;> nofun
  | member => exact ⟨_, _, rfl, fun bracket => by cases bracket <;> nofun⟩

/-- Items that are each skipped are skipped one after another, up to the bracket. -/
theorem skipFrom_separator {bracket : Bracket} (rest : List Token) : ∀ {items : List (List Token)},
    (∀ item ∈ items, ∀ rest, skipFrom care bracket.item (bracket :: enclosing) (item ++ rest) =
      skipFrom.leave care (bracket :: enclosing) rest) →
    skipFrom care .separator (bracket :: enclosing)
        (items.flatMap (.comma :: ·) ++ bracket.closing :: rest) =
      skipFrom.leave care enclosing rest
  | [], _ => skipFrom_closing rest
  | item :: items, h => by
      obtain ⟨hitem, hitems⟩ := List.forall_mem_cons.1 h
      rw [List.flatMap_cons, List.append_assoc, List.cons_append, skipFrom_comma, hitem, leave_cons,
        skipFrom_separator rest hitems]

/-- **What stands at a place is skipped**, and nothing after it. -/
theorem skipFrom_append (h : Stands care place enclosing ts) (rest : List Token) :
    skipFrom care place enclosing (ts ++ rest) = skipFrom.leave care enclosing rest := by
  induction h generalizing rest with
  | word h =>
    rw [List.singleton_append, skipFrom_word fun bracket => (Care.ne_of_admits h bracket).1]
    exact if_pos h
  | @group bracket enclosing items hopen h ih =>
    rw [List.cons_append, List.cons_append, skipFrom_opening, if_pos hopen, List.append_assoc,
      List.singleton_append]
    match items, h, ih with
    | [], _, _ => exact skipFrom_first_closing rest
    | item :: items, h, ih =>
      obtain ⟨hitem, hitems⟩ := List.forall_mem_cons.1 ih
      obtain ⟨token, more, rfl, hclosing⟩ := (h _ List.mem_cons_self).exists_cons
      rw [separated_cons, List.append_assoc, List.cons_append, skipFrom_first (hclosing bracket),
        ← List.cons_append, hitem, leave_cons]
      exact skipFrom_separator rest hitems
  | member hkey _ ih =>
    rw [List.cons_append, List.cons_append, skipFrom_key, if_pos hkey, skipFrom_colon, if_pos rfl,
      ih]

/-! ## …and what is skipped stood there -/

/-- Tokens whose first part stands at a place, and the others are skipped as what encloses it is. -/
def Splits (care : Care) (place : Reader.Place) (enclosing : List Bracket)
    (ts rest : List Token) : Prop :=
  ∃ item after, ts = item ++ after ∧ Stands care place enclosing item ∧
    skipFrom.leave care enclosing after = .ok ((), rest)

/-- The items behind commas, if each of them is known to stand where it does. -/
theorem exists_items {bracket : Bracket} {rest : List Token} {n : Nat}
    (hitem : ∀ ts : List Token, ts.length < n →
      skipFrom care bracket.item (bracket :: enclosing) ts = .ok ((), rest) →
      Splits care bracket.item (bracket :: enclosing) ts rest) :
    ∀ ts : List Token, ts.length ≤ n →
      skipFrom care .separator (bracket :: enclosing) ts = .ok ((), rest) →
      ∃ (items : List (List Token)) (after : List Token),
        ts = items.flatMap (.comma :: ·) ++ bracket.closing :: after ∧
        (∀ item ∈ items, Stands care bracket.item (bracket :: enclosing) item) ∧
        skipFrom.leave care enclosing after = .ok ((), rest) := by
  intro ts
  induction hm : ts.length using Nat.strongRecOn generalizing ts with
  | ind m ih =>
  subst hm
  intro hlength h
  rcases skipFrom_separator_cases h with ⟨after, rfl, hafter⟩ | ⟨after, rfl, hafter⟩
  · exact ⟨[], after, rfl, nofun, hafter⟩
  · rw [List.length_cons] at hlength
    obtain ⟨item, after, rfl, hstands, hleave⟩ := hitem after hlength hafter
    rw [leave_cons] at hleave
    rw [List.length_append] at hlength
    obtain ⟨items, after, rfl, hitems, hleave⟩ := ih after.length
      (by rw [List.length_cons, List.length_append]; omega) after rfl (by omega) hleave
    refine ⟨item :: items, after, ?_, List.forall_mem_cons.2 ⟨hstands, hitems⟩, hleave⟩
    rw [List.flatMap_cons, List.append_assoc, List.cons_append]

/-- **What is skipped stood there.** -/
theorem splits_of_skipFrom (bracket : Bracket) {rest : List Token} : ∀ {ts : List Token},
    skipFrom care bracket.item enclosing ts = .ok ((), rest) →
      Splits care bracket.item enclosing ts rest := by
  intro ts
  induction hn : ts.length using Nat.strongRecOn generalizing bracket enclosing ts with
  | ind n ih =>
  subst hn
  intro h
  cases bracket with
  | object =>
    obtain ⟨key, after, rfl, hkey, hvalue⟩ := skipFrom_key_cases h
    obtain ⟨value, after, rfl, hstands, hleave⟩ :=
      ih after.length (by simp only [List.length_cons]; omega) .array rfl hvalue
    exact ⟨_, after, rfl, .member hkey hstands, hleave⟩
  | array =>
    rcases skipFrom_value_cases h with ⟨token, after, rfl, hadmits, hleave⟩ |
      ⟨bracket, after, rfl, hopen, hfirst⟩
    · exact ⟨[token], after, rfl, .word hadmits, hleave⟩
    · rcases skipFrom_first_cases hfirst with ⟨after, rfl, hleave⟩ | hitem
      · exact ⟨[bracket.opening, bracket.closing], after, rfl,
          @Stands.group _ bracket enclosing [] hopen nofun, hleave⟩
      · have hlt : after.length < (bracket.opening :: after).length := Nat.lt_succ_self _
        obtain ⟨item, after', rfl, hstands, hleave⟩ := ih after.length hlt bracket rfl hitem
        rw [leave_cons] at hleave
        obtain ⟨items, after, rfl, hitems, hleave⟩ := exists_items
          (fun ts hts hitem => ih ts.length hts bracket rfl hitem) after' (by
            simp only [List.length_cons, List.length_append]; omega) hleave
        have hall := List.forall_mem_cons.2 ⟨hstands, hitems⟩
        refine ⟨_, after, ?_, .group bracket hopen hall, hleave⟩
        rw [separated_cons, List.append_assoc, List.cons_append, List.append_assoc]
        rfl

end Stands

/-- **Skipping takes a value off the front**, and fails where none stands. -/
theorem skip_eq_ok_iff {care : Care} {ts rest : List Token} :
    skip care ts = .ok ((), rest) ↔ ∃ value, ts = value ++ rest ∧ Stands care .value [] value := by
  have hdone : ∀ after, skipFrom.leave care [] after = .ok ((), after) := fun after => by
    rw [skipFrom.leave]
    rfl
  constructor
  · intro h
    obtain ⟨value, after, rfl, hstands, hleave⟩ := Stands.splits_of_skipFrom .array h
    rw [hdone] at hleave
    cases hleave
    exact ⟨value, rfl, hstands⟩
  · rintro ⟨value, rfl, h⟩
    exact (h.skipFrom_append rest).trans (hdone rest)

/-! ## One way to tell values apart -/

theorem Stands.append_inj {care : Care} {place : Reader.Place} {ts ts' rest rest' : List Token}
    (h : Stands care place [] ts) (h' : Stands care place [] ts')
    (heq : ts ++ rest = ts' ++ rest') :
    ts = ts' ∧ rest = rest' := by
  have hskip := h.skipFrom_append rest
  rw [heq, h'.skipFrom_append rest', skipFrom.leave, skipFrom.leave] at hskip
  cases hskip
  exact ⟨List.append_cancel_right heq, rfl⟩

section Items

variable {bracket : Bracket} {rest rest' : List Token}

theorem flatMap_comma_inj : ∀ {items items' : List (List Token)},
    (∀ item ∈ items, Stands .form bracket.item [] item) →
    (∀ item ∈ items', Stands .form bracket.item [] item) →
    items.flatMap (.comma :: ·) ++ bracket.closing :: rest =
      items'.flatMap (.comma :: ·) ++ bracket.closing :: rest' → items = items'
  | [], [], _, _, _ => rfl
  | [], _ :: _, _, _, heq => by cases bracket <;> cases heq
  | _ :: _, [], _, _, heq => by cases bracket <;> cases heq
  | item :: items, item' :: items', h, h', heq => by
      obtain ⟨hitem, hitems⟩ := List.forall_mem_cons.1 h
      obtain ⟨hitem', hitems'⟩ := List.forall_mem_cons.1 h'
      simp only [List.flatMap_cons, List.append_assoc, List.cons_append, List.cons.injEq,
        true_and] at heq
      obtain ⟨rfl, hmore⟩ := hitem.append_inj hitem' heq
      rw [flatMap_comma_inj hitems hitems' hmore]

/-- **The items between two brackets are told apart in one way.** -/
theorem separated_inj (bracket : Bracket) {items items' : List (List Token)}
    (h : ∀ item ∈ items, Stands .form bracket.item [] item)
    (h' : ∀ item ∈ items', Stands .form bracket.item [] item)
    (heq : Write.separated items ++ bracket.closing :: rest =
      Write.separated items' ++ bracket.closing :: rest') : items = items' := by
  match items, items', h, h' with
  | [], [], _, _ => rfl
  | [], item :: items, _, h =>
    obtain ⟨token, more, rfl, hclosing⟩ := (h item List.mem_cons_self).exists_cons
    rw [separated_cons] at heq
    exact absurd (List.cons.inj heq).1.symm (hclosing bracket)
  | item :: items, [], h, _ =>
    obtain ⟨token, more, rfl, hclosing⟩ := (h item List.mem_cons_self).exists_cons
    rw [separated_cons] at heq
    exact absurd (List.cons.inj heq).1 (hclosing bracket)
  | item :: items, item' :: items', h, h' =>
    obtain ⟨hitem, hitems⟩ := List.forall_mem_cons.1 h
    obtain ⟨hitem', hitems'⟩ := List.forall_mem_cons.1 h'
    rw [separated_cons, separated_cons, List.append_assoc, List.append_assoc] at heq
    obtain ⟨rfl, hmore⟩ := hitem.append_inj hitem' heq
    rw [flatMap_comma_inj hitems hitems' hmore]

end Items

/-! ## Values as they are written -/

theorem value_array {values : List (List Token)} (h : ∀ value ∈ values, Value value) :
    Value (Write.array values) :=
  .group .array rfl fun value hvalue => (h value hvalue).form _

theorem stands_member (name : String) {value : List Token} (h : Value value) :
    Stands .form .key [] (Write.member name value) :=
  .member rfl h

theorem subset_separated {value : List Token} : ∀ {values : List (List Token)}, value ∈ values →
    value ⊆ Write.separated values
  | first :: values, h => by
      rw [separated_cons]
      rcases List.mem_cons.1 h with rfl | h
      · exact List.subset_append_left _ _
      · exact fun t ht => List.mem_append_right _
          (List.mem_flatMap.2 ⟨value, h, List.mem_cons_of_mem _ ht⟩)

theorem subset_array {value : List Token} {values : List (List Token)} (h : value ∈ values) :
    value ⊆ Write.array values := fun _ ht =>
  List.mem_cons_of_mem _ (List.mem_append_left _ (subset_separated h ht))

theorem subset_object {written : List (String × List Token)} {m : String × List Token}
    (h : m ∈ written) : m.2 ⊆ Write.object written := fun _ ht =>
  List.mem_cons_of_mem _ (List.mem_append_left _ (subset_separated (List.mem_map_of_mem h)
    (List.mem_cons_of_mem _ (List.mem_cons_of_mem _ ht))))

/-- **Arrays of other values are other tokens**, -/
theorem array_inj {values values' : List (List Token)} (h : ∀ value ∈ values, Value value)
    (h' : ∀ value ∈ values', Value value) (heq : Write.array values = Write.array values') :
    values = values' :=
  separated_inj .array h h' (List.cons.inj heq).2

/-- …and so are objects of other members. -/
theorem object_inj {written written' : List (String × List Token)} (h : ∀ m ∈ written, Value m.2)
    (h' : ∀ m ∈ written', Value m.2) (heq : Write.object written = Write.object written') :
    written = written' := by
  have hstands : ∀ {written : List (String × List Token)}, (∀ m ∈ written, Value m.2) →
      ∀ item ∈ written.map fun m => Write.member m.1 m.2, Stands .form .key [] item :=
    fun h => List.forall_mem_map.2 fun m hm => stands_member m.1 (h m hm)
  refine (List.map_inj_right fun {m m'} hm => ?_).1
    (separated_inj .object (hstands h) (hstands h') (List.cons.inj heq).2)
  have hname := Option.some.inj (Token.text.inj (List.cons.inj hm).1)
  exact Prod.ext (String.toList_inj.1 hname) (List.cons.inj (List.cons.inj hm).2).2

end Airdrop.Json
