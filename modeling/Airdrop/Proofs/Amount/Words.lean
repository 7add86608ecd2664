import Airdrop.Proofs.Amount
import Airdrop.Proofs.Text.Utf8

/-!
# Proofs/Amount/Words — scaling in 64-bit words

`scaleInWords` scales an amount with words and bytes only: it multiplies the digits before the dot,
cuts those after the dot out of their bytes, multiplies them by a padding, and adds.  Some of these
operations are guarded; for those that are not it has no result where they leave their range, or cut
a character in two.

**That never happens**, and what it computes is what `scale` computes (`scaleInWords_eq`): wherever
an operation that is not guarded is reached, there are digits only and at most nineteen of them.
-/

namespace Airdrop

namespace Word

/-- Product, unless it is `2 ^ 64` or more. -/
def mul? (a b : UInt64) : Option UInt64 := ofNat? (a.toNat * b.toNat)

/-- Power, unless it is `2 ^ 64` or more. -/
def pow? (base : UInt64) (exponent : UInt32) : Option UInt64 :=
  ofNat? (base.toNat ^ exponent.toNat)

/-- What is below `2 ^ 64` has a word. -/
theorem exists_ofNat? {n : Nat} (h : n < UInt64.size) :
    ∃ word, ofNat? n = some word ∧ word.toNat = n :=
  ⟨.ofNat n, if_pos h, UInt64.toNat_ofNat_of_lt' h⟩

/-- **A guarded product and sum** fail exactly if the result is too large. -/
theorem mul?_add? {n : Nat} {scale units : UInt64} (hpos : 0 < scale.toNat) :
    ((ofNat? n).bind fun word => (mul? word scale).bind (add? · units)) =
      ofNat? (n * scale.toNat + units.toNat) := by
  have hle : n ≤ n * scale.toNat := Nat.le_mul_of_pos_right n hpos
  cases hword : ofNat? n with
  | none =>
    rw [ofNat?_eq_none_iff] at hword
    exact (ofNat?_eq_none_iff.2 ((hword.trans hle).trans (Nat.le_add_right _ _))).symm
  | some word =>
    obtain rfl := ofNat?_eq_some_iff.1 hword
    rw [Option.bind_some, mul?]
    cases hproduct : ofNat? (word.toNat * scale.toNat) with
    | none =>
      rw [ofNat?_eq_none_iff] at hproduct
      exact (ofNat?_eq_none_iff.2 (hproduct.trans (Nat.le_add_right _ _))).symm
    | some product => rw [Option.bind_some, add?, ofNat?_eq_some_iff.1 hproduct]

end Word

namespace Text

/-! ## Texts as bytes -/

/-- The byte of an ASCII decimal digit. -/
def isDigitByte (byte : UInt8) : Bool := 48 ≤ byte.toNat && byte.toNat ≤ 57

/-- **The first bytes of a text**; there are none such if the text is too short, or the last byte is
not the last one of its character. -/
def firstBytes? : (count : Nat) → (text : List Char) → Option (List Char)
  | 0, _ => some []
  | _ + 1, [] => none
  | count + 1, c :: rest =>
    if (Utf8.encodeChar c).length ≤ count + 1 then
      (firstBytes? (count + 1 - (Utf8.encodeChar c).length) rest).map (c :: ·)
    else none

/-- A digit has its own byte, -/
theorem encodeChar_of_isDigit {c : Char} (h : isDigit c = true) :
    Utf8.encodeChar c = [.ofNat c.toNat] := by
  have := digit_lt h
  rw [Utf8.encodeChar, if_pos (by omega)]

/-- …and no other character has a digit's. -/
theorem all_encodeChar (c : Char) : (Utf8.encodeChar c).all isDigitByte = isDigit c := by
  have hlt := Utf8.toNat_lt c
  have hdigit : isDigit c = (48 ≤ c.toNat && c.toNat ≤ 57) := rfl
  rw [hdigit]
  unfold Utf8.encodeChar
  dsimp only
  generalize c.toNat = n at *
  by_cases hn : n < 0x80
  · have hbyte : (UInt8.ofNat n).toNat = n := UInt8.toNat_ofNat_of_lt' (hn.trans (by decide))
    rw [if_pos hn, List.all_cons, List.all_nil, Bool.and_true, isDigitByte, hbyte]
  · -- The first byte of a wider character is above all digits.
    have hfirst : ∀ m rest, 57 < m → m < UInt8.size →
        (UInt8.ofNat m :: rest).all isDigitByte = false := fun m rest hm hsize => by
      have hnot : ¬ m ≤ 57 := Nat.not_le.2 hm
      simp [isDigitByte, UInt8.toNat_ofNat_of_lt' hsize, hnot]
    have hnot : ¬ n ≤ 57 := by omega
    have hsize : UInt8.size = 256 := rfl
    rw [if_neg hn, decide_eq_false hnot, Bool.and_false]
    repeat' split
    all_goals exact hfirst _ _ (by omega) (by omega)

/-- **Bytes are digits exactly if the characters are.** -/
theorem all_encode (text : List Char) : (Utf8.encode text).all isDigitByte = text.all isDigit := by
  induction text with
  | nil => rfl
  | cons c rest ih => rw [Utf8.encode_cons, List.all_append, ih, all_encodeChar, List.all_cons]

/-- Digits have as many bytes as they are. -/
theorem length_encode {digits : List Char} (h : digits.all isDigit = true) :
    (Utf8.encode digits).length = digits.length := by
  induction digits with
  | nil => rfl
  | cons c rest ih =>
    rw [List.all_cons, Bool.and_eq_true] at h
    rw [Utf8.encode_cons, encodeChar_of_isDigit h.1, List.singleton_append,
      List.length_cons, ih h.2, List.length_cons]

/-- **Digits are cut between characters.** -/
theorem firstBytes?_of_digits : ∀ {count : Nat} {digits : List Char},
    digits.all isDigit = true → count ≤ digits.length →
    firstBytes? count digits = some (digits.take count)
  | 0, _, _, _ => by rw [firstBytes?, List.take_zero]
  | count + 1, c :: rest, h, hcount => by
      rw [List.all_cons, Bool.and_eq_true] at h
      rw [firstBytes?, encodeChar_of_isDigit h.1, List.length_singleton, if_pos (by omega),
        Nat.add_sub_cancel, firstBytes?_of_digits h.2 (Nat.le_of_succ_le_succ hcount)]
      rfl

/-- **Digits are read as their number**, if it is below the bound. -/
theorem natBelow?_of_digits {bound : Nat} {digits : List Char} (hne : digits ≠ [])
    (h : digits.all isDigit = true) : natBelow? bound digits =
      if valueOfDigits digits < bound then some (valueOfDigits digits) else none := by
  cases digits with
  | nil => exact absurd rfl hne
  | cons c rest =>
    have hplus : c ≠ '+' := by
      rintro rfl
      rw [List.all_cons, Bool.and_eq_true] at h
      exact absurd h.1 (by decide)
    unfold natBelow?
    split
    · next heq => exact absurd (List.cons.inj heq).1 hplus
    · simp [h]

end Text

namespace Amount

open Text

/-! ## The algorithm -/

/-- The number of some digits; no digits denote zero. -/
def number (digits : List Char) : Except Fault UInt64 :=
  if digits.isEmpty then .ok 0
  else guarded ((natBelow? UInt64.size digits).map .ofNat)

/-- **What the digits after the dot amount to.**  Only the reading of the digits is guarded. -/
def fractionInWords (decimals : UInt32) (fraction : List Char) : Option (Except Fault UInt64) := do
  let kept ← firstBytes? (min (Utf8.encode fraction).length decimals.toNat) fraction
  if kept.isEmpty then return .ok 0
  let length : UInt32 := .ofNat (Utf8.encode kept).length
  let missing ← if length ≤ decimals then some (decimals - length) else none
  let padding ← Word.pow? 10 missing
  match number kept with
  | .error fault => return .error fault
  | .ok digits => return .ok (← Word.mul? digits padding)

/-- **Scaling with words**; there is no result where an operation that is not guarded fails. -/
def scaleInWords (text : String) (decimals : UInt32) : Option (Except Fault UInt64) :=
  let (whole, fraction) := splitDot (trim text.toList)
  if whole.isEmpty && fraction.isEmpty then some (.error .empty)
  else if !((Utf8.encode whole).all isDigitByte && (Utf8.encode fraction).all isDigitByte) then
    some (.error .notDecimal)
  else match Word.pow? 10 decimals, number whole with
    | none, _ => some (.error .tooManyDecimals)
    | some _, .error fault => some (.error fault)
    | some scale, .ok wholeUnits => do
      match ← fractionInWords decimals fraction with
      | .error fault => return .error fault
      | .ok units => return guarded ((Word.mul? wholeUnits scale).bind (Word.add? · units))

/-! ## Nothing leaves its range -/

/-- The powers of ten among the words. -/
theorem pow_lt_size_iff {n : Nat} : 10 ^ n < UInt64.size ↔ n ≤ maxDecimals := by
  constructor
  · intro h
    by_contra hlt
    have hpow : 10 ^ 20 ≤ 10 ^ n := Nat.pow_le_pow_right (by decide) (Nat.lt_of_not_le hlt)
    exact absurd (hpow.trans_lt h) (by decide)
  · intro h
    exact (Nat.pow_le_pow_right (by decide) h).trans_lt (by decide)

/-- **Digits are a number**, or too large for a word. -/
theorem number_eq {digits : List Char} (h : digits.all isDigit = true) :
    number digits = guarded (Word.ofNat? (valueOfDigits digits)) := by
  unfold number
  split
  · next hempty =>
    obtain rfl := List.isEmpty_iff.1 hempty
    rfl
  · next hne =>
    rw [natBelow?_of_digits (mt List.isEmpty_iff.2 hne) h, Word.ofNat?]
    by_cases hlt : valueOfDigits digits < UInt64.size
    · rw [if_pos hlt, if_pos hlt]
      rfl
    · rw [if_neg hlt, if_neg hlt]
      rfl

/-- Fitted digits are those that are kept, padded. -/
theorem valueOfDigits_fit_eq (decimals : Nat) (fraction : List Char) :
    valueOfDigits (fit decimals fraction) = valueOfDigits (fraction.take decimals) *
      10 ^ (decimals - (fraction.take decimals).length) := by
  rw [fit, List.take_append, List.take_replicate, valueOfDigits_append, valueOfDigits_zeros,
    List.length_replicate, Nat.add_zero, List.length_take]
  congr 2
  omega

/-- **The digits after the dot never leave the range of a word.** -/
theorem exists_fractionInWords {decimals : UInt32} {fraction : List Char}
    (hdigits : fraction.all isDigit = true) (hdecimals : decimals.toNat ≤ maxDecimals) :
    ∃ units : UInt64, fractionInWords decimals fraction = some (.ok units) ∧
      units.toNat = valueOfDigits (fit decimals.toNat fraction) := by
  have hcut : firstBytes? (min (Utf8.encode fraction).length decimals.toNat) fraction =
      some (fraction.take decimals.toNat) := by
    rw [length_encode hdigits, firstBytes?_of_digits hdigits (Nat.min_le_left _ _),
      Nat.min_comm, ← List.take_eq_take_min]
  have hall : (fraction.take decimals.toNat).all isDigit = true :=
    List.all_eq_true.2 fun c hc => List.all_eq_true.1 hdigits c (List.mem_of_mem_take hc)
  have hlength : (fraction.take decimals.toNat).length ≤ decimals.toNat := List.length_take_le _ _
  have hvalue := valueOfDigits_lt hall
  rw [valueOfDigits_fit_eq, fractionInWords, hcut]
  generalize fraction.take decimals.toNat = kept at *
  simp only [Option.bind_eq_bind, Option.bind_some]
  cases hempty : kept.isEmpty with
  | true =>
    obtain rfl := List.isEmpty_iff.1 hempty
    exact ⟨0, rfl, (Nat.zero_mul _).symm⟩
  | false =>
    have hsize : (UInt32.ofNat kept.length).toNat = kept.length :=
      UInt32.toNat_ofNat_of_lt' (hlength.trans_lt decimals.toNat_lt)
    have hle : UInt32.ofNat kept.length ≤ decimals := by rwa [UInt32.le_iff_toNat_le, hsize]
    have hmissing : (decimals - UInt32.ofNat kept.length).toNat = decimals.toNat - kept.length := by
      rw [UInt32.toNat_sub_of_le _ _ hle, hsize]
    have hproduct : valueOfDigits kept * 10 ^ (decimals.toNat - kept.length) <
        10 ^ decimals.toNat := by
      have := Nat.mul_lt_mul_of_pos_right hvalue (Nat.pow_pos (n := decimals.toNat - kept.length) (by decide : 0 < 10))
      rwa [← pow_add, Nat.add_sub_of_le hlength] at this
    obtain ⟨padding, hpow, hpadding⟩ := Word.exists_ofNat?
      (pow_lt_size_iff.2 ((Nat.sub_le decimals.toNat kept.length).trans hdecimals))
    obtain ⟨digits, hword, hnumber⟩ := Word.exists_ofNat?
      (hvalue.trans (pow_lt_size_iff.2 (hlength.trans hdecimals)))
    obtain ⟨units, hmul, hunits⟩ := Word.exists_ofNat?
      (hproduct.trans (pow_lt_size_iff.2 hdecimals))
    refine ⟨units, ?_, hunits⟩
    have hpow' : Word.pow? 10 (decimals - UInt32.ofNat kept.length) = some padding := by
      rw [Word.pow?, hmissing]
      exact hpow
    have hmul' : Word.mul? digits padding = some units := by
      rw [Word.mul?, hnumber, hpadding, hmul]
    rw [length_encode hall, if_pos hle, if_neg Bool.false_ne_true, hpow', Option.bind_some,
      number_eq hall, hword]
    change (Word.mul? digits padding).bind _ = _
    rw [hmul']
    rfl

/-- **Scaling in words is scaling**: no operation that is not guarded ever fails. -/
theorem scaleInWords_eq (text : String) (decimals : UInt32) :
    scaleInWords text decimals = some (scale text decimals.toNat) := by
  unfold scaleInWords scale
  dsimp only
  rw [all_encode, all_encode]
  generalize (splitDot (trim text.toList)).1 = whole
  generalize (splitDot (trim text.toList)).2 = fraction
  split
  · rfl
  · split
    · rfl
    · next hdigits =>
      obtain ⟨hwhole, hfraction⟩ : whole.all isDigit = true ∧ fraction.all isDigit = true := by
        simpa using hdigits
      rcases Nat.lt_or_ge maxDecimals decimals.toNat with hmany | hfew
      · have hpow : Word.pow? 10 decimals = none := by
          refine Word.ofNat?_eq_none_iff.2 (Nat.le_of_not_lt fun hlt => ?_)
          exact Nat.not_le.2 hmany (pow_lt_size_iff.1 hlt)
        rw [if_pos hmany, hpow]
      · obtain ⟨scale, hpow, hscale⟩ : ∃ scale, Word.pow? 10 decimals = some scale ∧
            scale.toNat = 10 ^ decimals.toNat := Word.exists_ofNat? (pow_lt_size_iff.2 hfew)
        obtain ⟨units, hfit, hunits⟩ := exists_fractionInWords hfraction hfew
        have hpos : 0 < scale.toNat := hscale ▸ Nat.pow_pos (by decide)
        rw [if_neg (Nat.not_lt.2 hfew), hpow, number_eq hwhole, hfit, valueOfDigits_append,
          length_fit, ← hunits, ← hscale, ← Word.mul?_add? hpos]
        cases Word.ofNat? (valueOfDigits whole) with
        | none => rfl
        | some wholeUnits =>
          rw [Option.bind_some]
          change some (guarded ((Word.mul? wholeUnits scale).bind (Word.add? · units))) = some _
          cases (Word.mul? wholeUnits scale).bind (Word.add? · units) <;> rfl

/-! ## Every amount -/

/-- **Scaling is exact**: a text has an amount exactly if, without the blanks around it, it is a
decimal, there are at most nineteen decimals, and the amount is its value in units of
`10 ^ -decimals`, rounded down.  Otherwise the first reason that applies is given.  It is computed in
words, without any operation that is not guarded ever failing.  And **a larger value never scales to
a smaller amount**. -/
theorem scale_exact (text : String) (decimals : UInt32) :
    (∀ units, scale text decimals.toNat = .ok units ↔ ∃ whole fraction,
      IsDecimal (trim text.toList) whole fraction ∧ decimals.toNat ≤ 19 ∧
        units.toNat = ⌊decimalValue whole fraction * 10 ^ decimals.toNat⌋₊) ∧
    (∀ fault, scale text decimals.toNat = .error fault ↔
      Refused (trim text.toList) decimals.toNat fault) ∧
    scaleInWords text decimals = some (scale text decimals.toNat) ∧
    ∀ (larger : String) (whole fraction whole' fraction' : List Char) (units : UInt64),
      IsDecimal (trim text.toList) whole fraction →
      IsDecimal (trim larger.toList) whole' fraction' →
      decimalValue whole fraction ≤ decimalValue whole' fraction' →
      scale larger decimals.toNat = .ok units →
      ∃ smaller, scale text decimals.toNat = .ok smaller ∧ smaller ≤ units := by
  refine ⟨fun units => ?_, fun fault => scale_eq_error_iff, scaleInWords_eq text decimals, ?_⟩
  · rw [scale_eq_ok_iff]
    constructor
    · rintro ⟨hfew, whole, fraction, hdecimal, hunits⟩
      exact ⟨whole, fraction, hdecimal, hfew, hunits⟩
    · rintro ⟨whole, fraction, hdecimal, hfew, hunits⟩
      exact ⟨hfew, whole, fraction, hdecimal, hunits⟩
  · intro larger whole fraction whole' fraction' units hdecimal hdecimal' hle hunits
    obtain ⟨hfew, _, _, hother, hunits⟩ := scale_eq_ok_iff.1 hunits
    obtain ⟨rfl, rfl⟩ := hdecimal'.parts_eq_iff.1 hother
    have hfloor : ⌊decimalValue whole fraction * 10 ^ decimals.toNat⌋₊ ≤ units.toNat :=
      hunits ▸ Nat.floor_mono (mul_le_mul_of_nonneg_right hle (by positivity))
    obtain ⟨smaller, -, hsmaller⟩ := Word.exists_ofNat? (hfloor.trans_lt units.toNat_lt)
    exact ⟨smaller, scale_eq_ok_iff.2 ⟨hfew, whole, fraction, hdecimal, hsmaller⟩,
      UInt64.le_iff_toNat_le.2 (hsmaller ▸ hfloor)⟩

end Amount

end Airdrop
