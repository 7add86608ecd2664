import Mathlib.Data.List.Forall2

/-!
# Proofs/Result — results, taken apart

Most of the library works in `Except`.  **What was made of a result is there exactly if the result
was**; these lemmas say so once for each way of making something of it.
-/

namespace Airdrop

variable {ε ε' α β γ : Type}

theorem bind_eq_ok_iff {result : Except ε α} {next : α → Except ε β} {b : β} :
    result >>= next = .ok b ↔ ∃ a, result = .ok a ∧ next a = .ok b := by
  cases result <;> simp [bind, Except.bind]

theorem map_eq_ok_iff {result : Except ε α} {f : α → β} {b : β} :
    result.map f = .ok b ↔ ∃ a, result = .ok a ∧ f a = b := by
  cases result <;> simp [Except.map]

@[simp] theorem mapError_eq_ok_iff {result : Except ε α} {f : ε → ε'} {a : α} :
    result.mapError f = .ok a ↔ result = .ok a := by
  constructor
  · intro h
    cases result with
    | ok b =>
      have hb : b = a := Except.ok.inj h
      rw [hb]
    | error e => cases h
  · intro h
    rw [h]
    rfl

theorem toOption_eq_some_iff {result : Except ε α} {a : α} :
    result.toOption = some a ↔ result = .ok a := by
  cases result <;> simp [Except.toOption]

theorem bind_eq_error_iff {result : Except ε α} {next : α → Except ε β} {e : ε} :
    result >>= next = .error e ↔ result = .error e ∨ ∃ a, result = .ok a ∧ next a = .error e := by
  cases result <;> simp [bind, Except.bind]

/-! ## Lists of conversions -/

/-- **What a list of conversions gives stands beside what was converted.** -/
theorem mapM_eq_ok_iff {f : α → Except ε β} {as : List α} {bs : List β} :
    as.mapM f = .ok bs ↔ List.Forall₂ (fun a b => f a = .ok b) as bs := by
  induction as generalizing bs with
  | nil =>
    rw [List.mapM_nil, List.forall₂_nil_left_iff]
    exact ⟨fun h => (Except.ok.inj h).symm, fun h => h ▸ rfl⟩
  | cons a as ih =>
    simp only [List.mapM_cons, bind_eq_ok_iff, ih, List.forall₂_cons_left_iff]
    constructor
    · rintro ⟨b, hb, rest, hrest, h⟩
      exact ⟨b, rest, hb, hrest, (Except.ok.inj h).symm⟩
    · rintro ⟨b, rest, hb, hrest, rfl⟩
      exact ⟨b, hb, rest, hrest, rfl⟩

/-- …place by place. -/
theorem getElem?_of_mapM {f : α → Except ε β} {as : List α} {bs : List β}
    (h : as.mapM f = .ok bs) : bs.length = as.length ∧
      ∀ (i : Nat) a, as[i]? = some a → ∃ b, bs[i]? = some b ∧ f a = .ok b := by
  obtain ⟨hlength, hget⟩ := List.forall₂_iff_get.1 (mapM_eq_ok_iff.1 h)
  refine ⟨hlength.symm, fun i a hi => ?_⟩
  obtain ⟨hlt, rfl⟩ := List.getElem?_eq_some_iff.1 hi
  exact ⟨_, List.getElem?_eq_getElem (hlength ▸ hlt), hget i hlt (hlength ▸ hlt)⟩

/-- **The first conversion that fails is the one reported.** -/
theorem mapM_eq_error_iff {f : α → Except ε β} {as : List α} {e : ε} :
    as.mapM f = .error e ↔ ∃ (i : Nat) (a : α), as[i]? = some a ∧ f a = .error e ∧
      ∀ (j : Nat) (b : α), j < i → as[j]? = some b → ∃ c, f b = .ok c := by
  induction as with
  | nil =>
    rw [List.mapM_nil]
    exact ⟨nofun, fun ⟨i, a, hi, _⟩ => by simp at hi⟩
  | cons a as ih =>
    rw [List.mapM_cons, bind_eq_error_iff]
    constructor
    · rintro (h | ⟨b, hb, h⟩)
      · exact ⟨0, a, rfl, h, fun j b hj => absurd hj (Nat.not_lt_zero j)⟩
      · rcases bind_eq_error_iff.1 h with hrest | ⟨_, _, hpure⟩
        · obtain ⟨i, a', hi, ha', hearlier⟩ := ih.1 hrest
          refine ⟨i + 1, a', hi, ha', fun j c hj hc => ?_⟩
          match j, hc with
          | 0, rfl => exact ⟨b, hb⟩
          | j + 1, hc => exact hearlier j c (Nat.lt_of_succ_lt_succ hj) hc
        · cases hpure
    · rintro ⟨i, a', hi, ha', hearlier⟩
      match i, hi with
      | 0, rfl => exact .inl ha'
      | i + 1, hi =>
        obtain ⟨b, hb⟩ := hearlier 0 a (Nat.succ_pos i) rfl
        have hrest := ih.2 ⟨i, a', hi, ha', fun j c hj => hearlier (j + 1) c (Nat.succ_lt_succ hj)⟩
        exact .inr ⟨b, hb, bind_eq_error_iff.2 (.inl hrest)⟩

/-- **Two lists of conversions, one after the other**, are one list of both. -/
theorem exists_mapM_mapM_iff {f : α → Except ε β} {g : β → Except ε' γ} {as : List α}
    {cs : List γ} : (∃ bs, as.mapM f = .ok bs ∧ bs.mapM g = .ok cs) ↔
      List.Forall₂ (fun a c => ∃ b, f a = .ok b ∧ g b = .ok c) as cs := by
  simp only [mapM_eq_ok_iff]
  constructor
  · rintro ⟨bs, hf, hg⟩
    induction hf generalizing cs with
    | nil =>
      rw [List.forall₂_nil_left_iff.1 hg]
      exact .nil
    | cons hb _ ih =>
      obtain ⟨c, cs, hc, hrest, rfl⟩ := List.forall₂_cons_left_iff.1 hg
      exact .cons ⟨_, hb, hc⟩ (ih hrest)
  · intro h
    induction h with
    | nil => exact ⟨[], .nil, .nil⟩
    | cons hboth _ ih =>
      obtain ⟨b, hb, hc⟩ := hboth
      obtain ⟨bs, hf, hg⟩ := ih
      exact ⟨b :: bs, .cons hb hf, .cons hc hg⟩

/-- **All conversions succeed, or one of them fails.** -/
theorem exists_mapM_iff {f : α → Except ε β} {as : List α} :
    (∃ bs, as.mapM f = .ok bs) ↔ ∀ a ∈ as, ∃ b, f a = .ok b := by
  constructor
  · rintro ⟨bs, h⟩ a ha
    obtain ⟨i, hi⟩ := List.mem_iff_getElem?.1 ha
    obtain ⟨b, -, hb⟩ := (getElem?_of_mapM h).2 i a hi
    exact ⟨b, hb⟩
  · intro h
    rcases hresult : as.mapM f with e | bs
    · obtain ⟨i, a, hi, ha, -⟩ := mapM_eq_error_iff.1 hresult
      obtain ⟨b, hb⟩ := h a (List.mem_of_getElem? hi)
      rw [ha] at hb
      cases hb
    · exact ⟨bs, rfl⟩

/-- …and there is a list beside another if there is something beside each of its elements. -/
theorem exists_forall₂_iff {R : α → β → Prop} {as : List α} :
    (∃ bs, List.Forall₂ R as bs) ↔ ∀ a ∈ as, ∃ b, R a b := by
  induction as with
  | nil => simp
  | cons a as ih =>
    rw [List.forall_mem_cons, ← ih]
    simp only [List.forall₂_cons_left_iff]
    constructor
    · rintro ⟨_, b, bs, hb, hbs, -⟩
      exact ⟨⟨b, hb⟩, bs, hbs⟩
    · rintro ⟨⟨b, hb⟩, bs, hbs⟩
      exact ⟨b :: bs, b, bs, hb, hbs, rfl⟩

end Airdrop
