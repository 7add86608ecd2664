import Airdrop.Octets.Base58
import Airdrop.Proofs.Octets
import Mathlib.Data.List.Induction
import Mathlib.Data.List.TakeWhile

/-!
# Proofs/Octets/Base58 — digits and ones

A number has one row of digits that does not begin with a `1`, the digit for nothing: **reading
digits undoes writing them, and writing undoes reading** up to the ones in front
(`numberOfDigits?_eq_some_iff`).  Bytes that begin with zeros have the fewer digits, so the text of
bytes is never longer than it is for the greatest number of as many bytes.
-/

namespace Airdrop

/-! ## Most significant bytes first -/

namespace BigEndian

theorem valueOf_eq (bytes : List UInt8) : valueOf bytes = LittleEndian.valueOf bytes.reverse := by
  rw [← valueOf_reverse, List.reverse_reverse]

theorem valueOf_lt (bytes : List UInt8) : valueOf bytes < 256 ^ bytes.length := by
  have h := LittleEndian.valueOf_lt bytes.reverse
  rwa [List.length_reverse, ← valueOf_eq] at h

theorem valueOf_bytesOf_of_lt {width n : Nat} (h : n < 256 ^ width) :
    valueOf (bytesOf width n) = n :=
  (valueOf_bytesOf width n).trans (LittleEndian.valueOf_bytesOf_of_lt h)

/-- The bytes of the value of some bytes. -/
theorem bytesOf_valueOf (bytes : List UInt8) : bytesOf bytes.length (valueOf bytes) = bytes := by
  have h := LittleEndian.bytesOf_valueOf bytes.reverse
  rw [List.length_reverse, ← valueOf_eq] at h
  rw [bytesOf, h, List.reverse_reverse]

theorem valueOf_cons_zero (bytes : List UInt8) : valueOf (0 :: bytes) = valueOf bytes := rfl

/-- **Zeros in front make a number smaller.** -/
theorem valueOf_lt_of_zeros : ∀ bytes : List UInt8,
    valueOf bytes < 256 ^ (bytes.length - (bytes.takeWhile (· == 0)).length)
  | [] => Nat.one_pos
  | b :: bytes => by
      by_cases hb : b = 0
      · subst hb
        have h := valueOf_lt_of_zeros bytes
        rwa [valueOf_cons_zero, List.takeWhile_cons_of_pos (by rfl), List.length_cons,
          List.length_cons, Nat.add_sub_add_right]
      · rw [List.takeWhile_cons_of_neg (by simpa using hb)]
        exact valueOf_lt (b :: bytes)

end BigEndian

namespace Base58

variable {c : Char} {n : Nat} {text : List Char}

/-! ## Digits -/

theorem value?_digit : ∀ v : Fin 58, value? (digit v) = some v.val := by decide

/-- **A digit stands for one value.** -/
theorem value?_eq_some_iff {v : Nat} : value? c = some v ↔ v < 58 ∧ digit v = c := by
  constructor
  · intro h
    obtain ⟨hlt, hc, -⟩ := List.findIdx?_eq_some_iff_getElem.1 h
    have hlength : alphabet.length = 58 := by decide
    refine ⟨hlength ▸ hlt, ?_⟩
    rw [digit, List.getD_eq_getElem?_getD, List.getElem?_eq_getElem hlt]
    exact beq_iff_eq.1 hc
  · rintro ⟨hlt, rfl⟩
    exact value?_digit ⟨v, hlt⟩

theorem digit_eq_one_iff {v : Nat} (h : v < 58) : digit v = '1' ↔ v = 0 := by
  constructor
  · intro hone
    have hv := value?_digit ⟨v, h⟩
    rw [hone] at hv
    exact (Option.some.inj hv).symm
  · rintro rfl
    rfl

/-- All digits are ASCII. -/
theorem digit_lt : ∀ v : Fin 58, (digit v).toNat < 0x80 := by decide

/-! ## Writing numbers -/

theorem digitsBefore_eq (rest : List Char) (n : Nat) :
    digitsBefore rest n = digitsBefore [] n ++ rest := by
  induction n using Nat.strongRecOn generalizing rest with
  | ind n ih =>
    rw [digitsBefore.eq_def rest, digitsBefore.eq_def []]
    split
    · rfl
    · next hn =>
      have hlt : n / 58 < n := Nat.div_lt_self (Nat.pos_of_ne_zero hn) (by decide)
      rw [ih _ hlt (digit (n % 58) :: rest), ih _ hlt [digit (n % 58)], List.append_assoc]
      rfl

theorem digitsBefore_zero : digitsBefore [] 0 = [] := by rw [digitsBefore, dif_pos rfl]

/-- The last digit is written last. -/
theorem digitsBefore_of_ne_zero (h : n ≠ 0) :
    digitsBefore [] n = digitsBefore [] (n / 58) ++ [digit (n % 58)] := by
  rw [digitsBefore, dif_neg h, digitsBefore_eq]

/-- **A number is written digit by digit**: zero has none, and any other number has its last digit
behind those of the rest. -/
theorem digitsBefore_induction {motive : Nat → Prop} (zero : motive 0)
    (step : ∀ n, n ≠ 0 → motive (n / 58) → motive n) (n : Nat) : motive n := by
  induction n using Nat.strongRecOn with
  | ind n ih =>
    by_cases hn : n = 0
    · exact hn ▸ zero
    · exact step n hn (ih _ (Nat.div_lt_self (Nat.pos_of_ne_zero hn) (by decide)))

/-- Numbers do not begin with a one. -/
theorem head?_digitsBefore (n : Nat) : (digitsBefore [] n).head? ≠ some '1' := by
  induction n using digitsBefore_induction with
  | zero => simp [digitsBefore_zero]
  | step n hn ih =>
    rw [digitsBefore_of_ne_zero hn, List.head?_append]
    cases hhead : (digitsBefore [] (n / 58)).head? with
    | some c => rwa [Option.some_or, ← hhead]
    | none =>
      -- There is but one digit, and it is not that of zero.
      have hdiv : n / 58 = 0 := by
        by_contra hdiv
        rw [digitsBefore_of_ne_zero hdiv] at hhead
        simp at hhead
      rw [Option.none_or, List.head?_cons, ne_eq, Option.some.injEq,
        digit_eq_one_iff (Nat.mod_lt _ (by decide))]
      omega

theorem forall_mem_digitsBefore {p : Char → Prop} (h : ∀ v : Fin 58, p (digit v)) (n : Nat) :
    ∀ c ∈ digitsBefore [] n, p c := by
  induction n using digitsBefore_induction with
  | zero => simp [digitsBefore_zero]
  | step n hn ih =>
    rw [digitsBefore_of_ne_zero hn]
    intro c hc
    rcases List.mem_append.1 hc with hc | hc
    · exact ih c hc
    · rw [List.mem_singleton.1 hc]
      exact h ⟨n % 58, Nat.mod_lt _ (by decide)⟩

/-- **A small number has few digits.** -/
theorem length_digitsBefore_le {k : Nat} : ∀ {n : Nat}, n < 58 ^ k →
    (digitsBefore [] n).length ≤ k := by
  induction k with
  | zero =>
    intro n h
    obtain rfl : n = 0 := Nat.lt_one_iff.1 h
    simp [digitsBefore_zero]
  | succ k ih =>
    intro n h
    by_cases hn : n = 0
    · simp [hn, digitsBefore_zero]
    · have hlt : n / 58 < 58 ^ k := Nat.div_lt_of_lt_mul (by rwa [← Nat.pow_succ'])
      rw [digitsBefore_of_ne_zero hn, List.length_append, List.length_singleton]
      exact Nat.succ_le_succ (ih hlt)

/-! ## Reading numbers -/

theorem numberOfDigits?_concat (text : List Char) (c : Char) :
    numberOfDigits? (text ++ [c]) =
      (numberOfDigits? text).bind fun n => (value? c).map (n * 58 + ·) := by
  simp [numberOfDigits?, List.foldlM_append]

/-- Ones in front do not count. -/
theorem numberOfDigits?_ones (k : Nat) (text : List Char) :
    numberOfDigits? (List.replicate k '1' ++ text) = numberOfDigits? text := by
  induction k with
  | zero => rfl
  | succ k ih => exact ih

/-- **Reading digits undoes writing them**, -/
theorem numberOfDigits?_digitsBefore (n : Nat) : numberOfDigits? (digitsBefore [] n) = some n := by
  induction n using digitsBefore_induction with
  | zero => rw [digitsBefore_zero]; rfl
  | step n hn ih =>
    rw [digitsBefore_of_ne_zero hn, numberOfDigits?_concat, ih, Option.bind_some,
      value?_digit ⟨n % 58, Nat.mod_lt _ (by decide)⟩, Option.map_some, Nat.div_add_mod']

/-- …and writing undoes reading, if there is no one in front. -/
theorem eq_digitsBefore (h : numberOfDigits? text = some n) (hhead : text.head? ≠ some '1') :
    text = digitsBefore [] n := by
  induction text using List.reverseRecOn generalizing n with
  | nil =>
    obtain rfl : 0 = n := Option.some.inj h
    exact digitsBefore_zero.symm
  | append_singleton text c ih =>
    rw [numberOfDigits?_concat, Option.bind_eq_some_iff] at h
    obtain ⟨m, hm, hc⟩ := h
    obtain ⟨v, hv, rfl⟩ := Option.map_eq_some_iff.1 hc
    obtain ⟨hlt, rfl⟩ := value?_eq_some_iff.1 hv
    have htext : text = digitsBefore [] m := by
      refine ih hm fun hone => hhead ?_
      rw [List.head?_append, hone, Option.some_or]
    have hne : m * 58 + v ≠ 0 := by
      intro hzero
      obtain rfl : m = 0 := by omega
      obtain rfl : v = 0 := by omega
      rw [htext, digitsBefore_zero] at hhead
      exact hhead rfl
    have hdiv : (m * 58 + v) / 58 = m := by omega
    have hmod : (m * 58 + v) % 58 = v := by omega
    rw [digitsBefore_of_ne_zero hne, hdiv, hmod, ← htext]

/-- **A text denotes a number** exactly if it is the number's digits behind some ones. -/
theorem numberOfDigits?_eq_some_iff : numberOfDigits? text = some n ↔
    text = List.replicate (text.takeWhile (· == '1')).length '1' ++ digitsBefore [] n := by
  have hones : text.takeWhile (· == '1') =
      List.replicate (text.takeWhile (· == '1')).length '1' :=
    List.eq_replicate_of_mem fun c hc =>
      beq_iff_eq.1 (List.mem_takeWhile_imp (p := fun x => x == '1') hc)
  have hsplit : text = List.replicate (text.takeWhile (· == '1')).length '1' ++
      text.dropWhile (· == '1') := by
    rw [← hones, List.takeWhile_append_dropWhile]
  constructor
  · intro h
    rw [hsplit, numberOfDigits?_ones] at h
    have hhead : (text.dropWhile (· == '1')).head? ≠ some '1' := fun hone => by
      have hnot := List.head?_dropWhile_not (· == '1') text
      rw [hone] at hnot
      cases hnot
    rw [← eq_digitsBefore h hhead]
    exact hsplit
  · intro h
    rw [h, numberOfDigits?_ones, numberOfDigits?_digitsBefore]

end Base58

end Airdrop
