import Airdrop.Amount
import Mathlib.Algebra.Order.Floor.Semifield
import Mathlib.Data.List.Induction
import Mathlib.Data.Rat.Floor
import Mathlib.Tactic.FieldSimp
import Mathlib.Tactic.Ring

/-!
# Proofs/Amount — what scaling computes

A decimal is digits, perhaps with a dot among them (`IsDecimal`), and denotes an exact rational
number (`decimalValue`).  **`scale` is exact**: it accepts a text exactly if it is a decimal, and
gives the value times a power of ten, rounded down (`scale_eq_ok_iff`).  `Refused` tells when it gives
which reason instead.

The code never multiplies: it cuts the digits after the dot or pads them with zeros.  Both are one
division, because padding first and cutting then divides a number with `decimals` more digits.
-/

namespace Airdrop

namespace Text

theorem valueOfDigits_concat (digits : List Char) (c : Char) :
    valueOfDigits (digits ++ [c]) = 10 * valueOfDigits digits + (c.toNat - 48) := by
  simp [valueOfDigits, List.foldl_append]

/-- **Digits side by side.** -/
theorem valueOfDigits_append (a b : List Char) :
    valueOfDigits (a ++ b) = valueOfDigits a * 10 ^ b.length + valueOfDigits b := by
  induction b using List.reverseRecOn with
  | nil => simp [valueOfDigits]
  | append_singleton b c ih =>
    rw [← List.append_assoc, valueOfDigits_concat, ih, valueOfDigits_concat, List.length_append,
      List.length_singleton, pow_succ]
    ring

theorem valueOfDigits_zeros (n : Nat) : valueOfDigits (List.replicate n '0') = 0 := by
  induction n with
  | zero => rfl
  | succ n ih =>
    rw [List.replicate_succ', valueOfDigits_concat, ih]
    rfl

/-- A digit is worth less than ten. -/
theorem digit_lt {c : Char} (h : isDigit c = true) : c.toNat - 48 < 10 := by
  simp only [isDigit, Bool.and_eq_true, decide_eq_true_eq] at h
  have : c.toNat ≤ '9'.toNat := h.2
  have : '9'.toNat = 57 := rfl
  omega

theorem valueOfDigits_lt {digits : List Char} (h : digits.all isDigit = true) :
    valueOfDigits digits < 10 ^ digits.length := by
  induction digits using List.reverseRecOn with
  | nil => simp [valueOfDigits]
  | append_singleton digits c ih =>
    rw [List.all_append, Bool.and_eq_true] at h
    have hlt := ih h.1
    have hc := digit_lt (by simpa using h.2)
    rw [valueOfDigits_concat, List.length_append, List.length_singleton, pow_succ]
    omega

end Text

namespace Amount

open Text

/-! ## Decimals -/

/-- **A text is a decimal**: digits, or digits around a dot; a dot alone is none. -/
structure IsDecimal (text whole fraction : List Char) : Prop where
  digitsBefore : whole.all isDigit = true
  digitsAfter : fraction.all isDigit = true
  digits : ¬ (whole = [] ∧ fraction = [])
  shape : (text = whole ∧ fraction = []) ∨ text = whole ++ '.' :: fraction

/-- **The number that a decimal denotes.** -/
def decimalValue (whole fraction : List Char) : ℚ :=
  valueOfDigits whole + valueOfDigits fraction / 10 ^ fraction.length

/-- The parts of a text are around its dot. -/
theorem eq_of_splitDot : ∀ text : List Char,
    (text = (splitDot text).1 ∧ (splitDot text).2 = []) ∨
      text = (splitDot text).1 ++ '.' :: (splitDot text).2
  | [] => .inl ⟨rfl, rfl⟩
  | c :: rest => by
      unfold splitDot
      split
      · next hdot => exact .inr (by rw [hdot]; rfl)
      · rcases eq_of_splitDot rest with ⟨heq, hnil⟩ | heq
        · exact .inl ⟨congrArg (c :: ·) heq, hnil⟩
        · exact .inr (congrArg (c :: ·) heq)

/-- A dot is no digit. -/
theorem splitDot_of_digits : ∀ (whole rest : List Char), whole.all isDigit = true →
    splitDot (whole ++ rest) = (whole ++ (splitDot rest).1, (splitDot rest).2)
  | [], _, _ => rfl
  | c :: whole, rest, h => by
      rw [List.all_cons, Bool.and_eq_true] at h
      have hc : c ≠ '.' := by
        rintro rfl
        exact absurd h.1 (by decide)
      rw [List.cons_append, splitDot, if_neg hc, splitDot_of_digits whole rest h.2]
      rfl

/-- **The parts of a decimal are unique.** -/
theorem IsDecimal.splitDot_eq {text whole fraction : List Char}
    (h : IsDecimal text whole fraction) : splitDot text = (whole, fraction) := by
  rcases h.shape with ⟨rfl, rfl⟩ | rfl
  · have := splitDot_of_digits text [] h.digitsBefore
    rw [List.append_nil] at this
    rw [this]
    simp [splitDot]
  · rw [splitDot_of_digits whole _ h.digitsBefore]
    simp [splitDot]

/-- Without digits, a text is at most a dot. -/
theorem splitDot_eq_nil_iff {text : List Char} :
    splitDot text = ([], []) ↔ text = [] ∨ text = ['.'] := by
  constructor
  · intro h
    have hparts := eq_of_splitDot text
    rw [h] at hparts
    exact hparts.imp And.left id
  · rintro (rfl | rfl) <;> rfl

/-- A decimal has digits. -/
theorem IsDecimal.not_empty {text whole fraction : List Char} (h : IsDecimal text whole fraction) :
    ¬ (text = [] ∨ text = ['.']) := fun hempty => by
  obtain ⟨rfl, rfl⟩ := Prod.mk.inj (h.splitDot_eq.symm.trans (splitDot_eq_nil_iff.2 hempty))
  exact h.digits ⟨rfl, rfl⟩

theorem IsDecimal.parts_eq_iff {text whole fraction whole' fraction' : List Char}
    (h : IsDecimal text whole fraction) :
    IsDecimal text whole' fraction' ↔ whole' = whole ∧ fraction' = fraction := by
  constructor
  · exact fun h' => Prod.mk.inj (h'.splitDot_eq.symm.trans h.splitDot_eq)
  · rintro ⟨rfl, rfl⟩
    exact h

/-- A text whose parts are digits is a decimal. -/
theorem isDecimal_splitDot {text : List Char}
    (hempty : ((splitDot text).1.isEmpty && (splitDot text).2.isEmpty) = false)
    (hdigits : ((splitDot text).1.all isDigit && (splitDot text).2.all isDigit) = true) :
    IsDecimal text (splitDot text).1 (splitDot text).2 := by
  rw [Bool.and_eq_true] at hdigits
  refine ⟨hdigits.1, hdigits.2, ?_, eq_of_splitDot text⟩
  simpa using hempty

/-! ## Cutting and padding is dividing -/

/-- The digits kept are the value, with `decimals` zeros added, divided. -/
theorem valueOfDigits_fit {fraction : List Char} (h : fraction.all isDigit = true)
    (decimals : Nat) :
    valueOfDigits (fit decimals fraction) =
      valueOfDigits fraction * 10 ^ decimals / 10 ^ fraction.length := by
  -- The padded digits, cut after `decimals`; what is cut off is worth less than one.
  have hpadded : valueOfDigits (fraction ++ List.replicate decimals '0') =
      valueOfDigits fraction * 10 ^ decimals := by
    rw [valueOfDigits_append, valueOfDigits_zeros, List.length_replicate, Nat.add_zero]
  have hsplit := valueOfDigits_append ((fraction ++ List.replicate decimals '0').take decimals)
    ((fraction ++ List.replicate decimals '0').drop decimals)
  have hdigits : ((fraction ++ List.replicate decimals '0').drop decimals).all isDigit = true := by
    rw [List.all_eq_true]
    intro c hc
    rcases List.mem_append.1 (List.mem_of_mem_drop hc) with hc | hc
    · exact List.all_eq_true.1 h c hc
    · rw [List.eq_of_mem_replicate hc]
      rfl
  have hlength : ((fraction ++ List.replicate decimals '0').drop decimals).length =
      fraction.length := by simp
  have hlt := valueOfDigits_lt hdigits
  rw [List.take_append_drop, hpadded, hlength] at hsplit
  rw [hlength] at hlt
  rw [hsplit, Nat.add_comm, Nat.add_mul_div_right _ _ (Nat.pow_pos (by decide)),
    Nat.div_eq_of_lt hlt, Nat.zero_add]
  rfl

theorem length_fit (decimals : Nat) (fraction : List Char) :
    (fit decimals fraction).length = decimals := by simp [fit]

/-- **The digits side by side are the value, scaled and rounded down.** -/
theorem valueOfDigits_append_fit (whole : List Char) {fraction : List Char}
    (h : fraction.all isDigit = true) (decimals : Nat) :
    valueOfDigits (whole ++ fit decimals fraction) =
      ⌊decimalValue whole fraction * 10 ^ decimals⌋₊ := by
  have hpos : 0 < 10 ^ fraction.length := Nat.pow_pos (by decide)
  have hvalue : decimalValue whole fraction * 10 ^ decimals =
      ((valueOfDigits fraction * 10 ^ decimals +
        valueOfDigits whole * 10 ^ decimals * 10 ^ fraction.length : ℕ) : ℚ) /
        ((10 ^ fraction.length : ℕ) : ℚ) := by
    unfold decimalValue
    push_cast
    field_simp
    ring
  rw [hvalue, Nat.floor_div_eq_div, Nat.add_mul_div_right _ _ hpos, valueOfDigits_append,
    length_fit, valueOfDigits_fit h, Nat.add_comm]

/-! ## Scaling -/

/-- A guarded result: there is none if it overflows. -/
def guarded : Option UInt64 → Except Fault UInt64
  | none => .error .overflow
  | some word => .ok word

theorem guarded_ofNat?_eq_ok_iff {n : Nat} {units : UInt64} :
    guarded (Word.ofNat? n) = .ok units ↔ n = units.toNat := by
  rw [← Word.ofNat?_eq_some_iff]
  cases Word.ofNat? n <;> simp [guarded]

theorem guarded_ofNat?_eq_error_iff {n : Nat} {fault : Fault} :
    guarded (Word.ofNat? n) = .error fault ↔ fault = .overflow ∧ UInt64.size ≤ n := by
  rw [← Word.ofNat?_eq_none_iff]
  cases Word.ofNat? n <;> simp [guarded, eq_comm]

/-- **When an amount is refused**, by the reason that is given: the first that applies. -/
def Refused (text : List Char) (decimals : Nat) : Fault → Prop
  | .empty => text = [] ∨ text = ['.']
  | .notDecimal => ¬ (text = [] ∨ text = ['.']) ∧ ¬ ∃ whole fraction, IsDecimal text whole fraction
  | .tooManyDecimals => ∃ whole fraction, IsDecimal text whole fraction ∧ 19 < decimals
  | .overflow => ∃ whole fraction, IsDecimal text whole fraction ∧ decimals ≤ 19 ∧
      2 ^ 64 ≤ ⌊decimalValue whole fraction * 10 ^ decimals⌋₊

section

variable {text : String} {decimals : Nat} {whole fraction : List Char}

theorem scale_of_empty (h : trim text.toList = [] ∨ trim text.toList = ['.']) :
    scale text decimals = .error .empty := by
  rw [scale, splitDot_eq_nil_iff.2 h]
  rfl

theorem scale_of_not_isDecimal (hne : ¬ (trim text.toList = [] ∨ trim text.toList = ['.']))
    (hnot : ¬ ∃ whole fraction, IsDecimal (trim text.toList) whole fraction) :
    scale text decimals = .error .notDecimal := by
  have hparts : ((splitDot (trim text.toList)).1.isEmpty &&
      (splitDot (trim text.toList)).2.isEmpty) = false := by
    rw [← splitDot_eq_nil_iff] at hne
    by_contra hempty
    rw [Bool.not_eq_false, Bool.and_eq_true, List.isEmpty_iff, List.isEmpty_iff] at hempty
    exact hne (Prod.ext hempty.1 hempty.2)
  unfold scale
  dsimp only
  rw [hparts, if_neg Bool.false_ne_true, if_pos]
  rw [Bool.not_eq_true']
  by_contra hdigits
  exact hnot ⟨_, _, isDecimal_splitDot hparts ((Bool.not_eq_false _).mp hdigits)⟩

/-- **A decimal is scaled**, unless there are too many decimals or the result is too large. -/
theorem scale_of_isDecimal (h : IsDecimal (trim text.toList) whole fraction) :
    scale text decimals = if maxDecimals < decimals then .error .tooManyDecimals
      else guarded (Word.ofNat? ⌊decimalValue whole fraction * 10 ^ decimals⌋₊) := by
  have hempty : (whole.isEmpty && fraction.isEmpty) = false := by simpa using h.digits
  have hdigits : (whole.all isDigit && fraction.all isDigit) = true := by
    rw [h.digitsBefore, h.digitsAfter]
    rfl
  unfold scale
  rw [h.splitDot_eq]
  dsimp only
  rw [hempty, hdigits, if_neg Bool.false_ne_true, if_neg (by decide),
    valueOfDigits_append_fit _ h.digitsAfter]
  rfl

/-- **Scaling is exact**: a text has an amount exactly if, without the blanks around it, it is a
decimal, there are not too many decimals, and the amount is its value in units of `10 ^ -decimals`,
rounded down. -/
theorem scale_eq_ok_iff {units : UInt64} :
    scale text decimals = .ok units ↔ decimals ≤ maxDecimals ∧
      ∃ whole fraction, IsDecimal (trim text.toList) whole fraction ∧
        units.toNat = ⌊decimalValue whole fraction * 10 ^ decimals⌋₊ := by
  constructor
  · intro h
    by_cases hempty : trim text.toList = [] ∨ trim text.toList = ['.']
    · rw [scale_of_empty hempty] at h
      cases h
    · by_cases hdecimal : ∃ whole fraction, IsDecimal (trim text.toList) whole fraction
      · obtain ⟨whole, fraction, hdecimal⟩ := hdecimal
        rw [scale_of_isDecimal hdecimal] at h
        split at h
        · cases h
        · next hfew =>
          exact ⟨Nat.le_of_not_lt hfew, _, _, hdecimal, (guarded_ofNat?_eq_ok_iff.1 h).symm⟩
      · rw [scale_of_not_isDecimal hempty hdecimal] at h
        cases h
  · rintro ⟨hfew, whole, fraction, hdecimal, hunits⟩
    rw [scale_of_isDecimal hdecimal, if_neg (Nat.not_lt.2 hfew), guarded_ofNat?_eq_ok_iff]
    exact hunits.symm

/-- **Why an amount is refused.** -/
theorem scale_eq_error_iff {fault : Fault} :
    scale text decimals = .error fault ↔ Refused (trim text.toList) decimals fault := by
  by_cases hempty : trim text.toList = [] ∨ trim text.toList = ['.']
  · have hnot : ∀ whole fraction, ¬ IsDecimal (trim text.toList) whole fraction :=
      fun _ _ h => h.not_empty hempty
    rw [scale_of_empty hempty]
    cases fault <;> simp [Refused, hempty, hnot]
  · by_cases hdecimal : ∃ whole fraction, IsDecimal (trim text.toList) whole fraction
    · obtain ⟨whole, fraction, h⟩ := hdecimal
      rw [scale_of_isDecimal h, maxDecimals]
      rcases Nat.lt_or_ge 19 decimals with hmany | hfew
      · rw [if_pos hmany]
        cases fault <;> simp [Refused, hempty, h.parts_eq_iff, hmany]
      · have hsize : UInt64.size = 2 ^ 64 := rfl
        rw [if_neg (Nat.not_lt.2 hfew), guarded_ofNat?_eq_error_iff, hsize]
        cases fault <;> simp [Refused, hempty, h.parts_eq_iff, hfew]
    · rw [scale_of_not_isDecimal hempty hdecimal]
      cases fault <;> simp_all [Refused]

end

end Amount

end Airdrop
