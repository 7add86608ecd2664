import Airdrop.Proofs.Result
import Airdrop.Proofs.Vesting

/-!
# Proofs/Vesting/Words — vesting in words of 64 and of 128 bits

`unlockedInWords` computes the unlocked amount with machine words only: times are subtracted as
signed words, the product and the quotient are taken in 128 bits, and the result is brought back to
64.  Every one of these operations says so when it leaves its range (`Operation`).

**Only the differences of times ever do**, and only in an open window longer than any signed word
(`Overlong`).  The product, the quotient and the way back to 64 bits never fail, whatever is locked
and whatever the times are (`unlocks_exactly`).
-/

namespace Airdrop

/-! ## Guarded operations -/

namespace Word

/-- Difference of signed words, unless it is no signed word. -/
def subSigned? (a b : Int64) : Option Int64 :=
  if a.toBitVec.ssubOverflow b.toBitVec then none else some (a - b)

/-- A signed word in 128 bits, its sign carried on. -/
def wideSigned (a : Int64) : BitVec 128 := a.toBitVec.signExtend 128

/-- A word in 128 bits. -/
def wide (a : UInt64) : BitVec 128 := a.toBitVec.setWidth 128

/-- Product, unless it is `2 ^ 128` or more. -/
def mulWide? (a b : BitVec 128) : Option (BitVec 128) :=
  if a.umulOverflow b then none else some (a * b)

/-- Quotient, rounded down, unless the divisor is zero. -/
def divWide? (a b : BitVec 128) : Option (BitVec 128) :=
  if b = 0 then none else some (a / b)

/-- The same number in 64 bits, unless it is `2 ^ 64` or more. -/
def narrow? (a : BitVec 128) : Option UInt64 := ofNat? a.toNat

/-- **The guard reports exactly the differences that are no signed word.** -/
theorem ssubOverflow_eq_false_iff {a b : Int64} :
    a.toBitVec.ssubOverflow b.toBitVec = false ↔
      -2 ^ 63 ≤ a.toInt - b.toInt ∧ a.toInt - b.toInt ≤ 2 ^ 63 - 1 := by
  simp only [BitVec.ssubOverflow, Bool.or_eq_false_iff, decide_eq_false_iff_not,
    Int64.toInt_toBitVec]
  omega

/-- A difference that does not go below zero is exact up to the largest signed word, -/
theorem exists_subSigned? {a b : Int64} (hle : b ≤ a) (hfits : a.toInt - b.toInt ≤ 2 ^ 63 - 1) :
    ∃ difference, subSigned? a b = some difference ∧
      difference.toInt = a.toInt - b.toInt := by
  rw [Int64.le_iff_toInt_le] at hle
  have hguard := ssubOverflow_eq_false_iff.2 ⟨by omega, hfits⟩
  refine ⟨a - b, by rw [subSigned?, hguard]; rfl, ?_⟩
  rw [← Int64.toInt_toBitVec, Int64.toBitVec_sub,
    BitVec.toInt_sub_of_not_ssubOverflow (by rw [hguard]; decide), Int64.toInt_toBitVec,
    Int64.toInt_toBitVec]

/-- …and there is none above it. -/
theorem subSigned?_eq_none {a b : Int64} (hlong : 2 ^ 63 - 1 < a.toInt - b.toInt) :
    subSigned? a b = none := by
  refine if_pos (Bool.not_eq_false _ ▸ fun hguard => ?_)
  exact absurd (ssubOverflow_eq_false_iff.1 hguard).2 (by omega)

/-- A signed word that is not negative keeps its value in 128 bits. -/
theorem toNat_wideSigned {a : Int64} (h : 0 ≤ a.toInt) :
    ((wideSigned a).toNat : Int) = a.toInt := by
  have hmsb : a.toBitVec.msb = false := by
    rw [BitVec.msb_eq_toInt, Int64.toInt_toBitVec, decide_eq_false (by omega)]
  rw [wideSigned, BitVec.signExtend_eq_setWidth_of_msb_false hmsb,
    BitVec.toNat_setWidth_of_le (by decide), ← Int64.toInt_toBitVec,
    BitVec.toInt_eq_toNat_of_msb hmsb]

@[simp] theorem toNat_wide (a : UInt64) : (wide a).toNat = a.toNat :=
  BitVec.toNat_setWidth_of_le (by decide)

/-- **Words of 64 bits have a product in 128.** -/
theorem exists_mulWide? {a b : BitVec 128} (ha : a.toNat < 2 ^ 64) (hb : b.toNat < 2 ^ 64) :
    ∃ product, mulWide? a b = some product ∧ product.toNat = a.toNat * b.toNat := by
  have hlt : a.toNat * b.toNat < 2 ^ 128 :=
    (Nat.mul_lt_mul'' ha hb).trans_eq (by decide)
  refine ⟨a * b, if_neg ?_, ?_⟩
  · rw [BitVec.umulOverflow, decide_eq_true_iff]
    exact Nat.not_le.2 hlt
  · rw [BitVec.toNat_mul, Nat.mod_eq_of_lt hlt]

theorem exists_divWide? {a b : BitVec 128} (hb : 0 < b.toNat) :
    ∃ quotient, divWide? a b = some quotient ∧ quotient.toNat = a.toNat / b.toNat := by
  refine ⟨a / b, if_neg ?_, BitVec.toNat_udiv⟩
  rintro rfl
  exact absurd hb (by decide)

end Word

namespace ClaimStatus

/-! ## The algorithm -/

/-- **The operations that can fail** on the way to the unlocked amount, in their order. -/
inductive Operation
  /-- The time passed since the start, as a signed word. -/
  | passed
  /-- The length of the window, as a signed word. -/
  | window
  /-- What is locked, times the time passed. -/
  | product
  /-- That, divided by the length of the window. -/
  | quotient
  /-- The way back to 64 bits. -/
  | narrowing
  deriving DecidableEq

/-- The result of an operation, or its failure. -/
def Operation.result {α : Type} (operation : Operation) : Option α → Except Operation α
  | some a => .ok a
  | none => .error operation

/-- **The unlocked amount in words.** -/
def unlockedInWords (s : ClaimStatus) (now start stop : Int64) : Except Operation UInt64 :=
  if now < start then .ok 0
  else if stop ≤ now then .ok s.locked
  else do
    let passed ← Operation.passed.result (Word.subSigned? now start)
    let window ← Operation.window.result (Word.subSigned? stop start)
    let product ← Operation.product.result
      (Word.mulWide? (Word.wideSigned passed) (Word.wide s.locked))
    let quotient ← Operation.quotient.result (Word.divWide? product (Word.wideSigned window))
    Operation.narrowing.result (Word.narrow? quotient)

/-! ## Windows -/

variable {s : ClaimStatus} {now start stop : Int64}

/-- **The window is open, and longer than any signed word.** -/
def Overlong (now start stop : Int64) : Prop :=
  start ≤ now ∧ now < stop ∧ 2 ^ 63 - 1 < stop.toInt - start.toInt

/-- Then there is no unlocked amount, -/
theorem unlockedAt_of_overlong (h : Overlong now start stop) :
    s.unlockedAt now start stop = .error .arithmetic := by
  obtain ⟨hstart, hstop, hlong⟩ := h
  rw [unlockedAt, if_neg (Int64.not_lt.2 hstart), if_neg (Int64.not_le.2 hstop)]
  exact if_pos hlong

/-- …since a difference of times fails. -/
theorem unlockedInWords_of_overlong (h : Overlong now start stop) :
    ∃ operation, s.unlockedInWords now start stop = .error operation ∧
      (operation = .passed ∨ operation = .window) := by
  obtain ⟨hstart, hstop, hlong⟩ := h
  rw [unlockedInWords, if_neg (Int64.not_lt.2 hstart), if_neg (Int64.not_le.2 hstop)]
  rcases Int.lt_or_le (2 ^ 63 - 1) (now.toInt - start.toInt) with hpassed | hpassed
  · exact ⟨.passed, by rw [Word.subSigned?_eq_none hpassed]; rfl, .inl rfl⟩
  · obtain ⟨passed, hsub, -⟩ := Word.exists_subSigned? hstart hpassed
    exact ⟨.window, by rw [hsub, Word.subSigned?_eq_none hlong]; rfl, .inr rfl⟩

/-- Otherwise it is the unlocked part, -/
theorem exists_unlockedAt (h : ¬ Overlong now start stop) :
    ∃ unlocked, s.unlockedAt now start stop = .ok unlocked ∧
      unlocked.toNat = unlockedPart s.locked.toNat now.toInt start.toInt stop.toInt := by
  by_cases hbefore : now < start
  · exact ⟨0, if_pos hbefore, (if_pos (Int64.lt_iff_toInt_lt.1 hbefore)).symm⟩
  · by_cases hbehind : stop ≤ now
    · rw [unlockedAt, if_neg hbefore, if_pos hbehind, unlockedPart,
        if_neg (mt Int64.lt_iff_toInt_lt.2 hbefore), if_pos (Int64.le_iff_toInt_le.1 hbehind)]
      exact ⟨s.locked, rfl, rfl⟩
    · refine s.unlockedAt_eq now (Int.not_lt.1 fun hlong => h ⟨?_, ?_, hlong⟩)
      · exact Int64.not_lt.1 hbefore
      · exact Int64.not_le.1 hbehind

/-- …within the window the share of the time passed, rounded down, -/
theorem unlockedPart_eq_div (locked : Nat) {now start stop : Int} (hstart : start ≤ now)
    (hstop : now < stop) :
    (unlockedPart locked now start stop : Int) = locked * (now - start) / (stop - start) := by
  rw [unlockedPart, if_neg (Int.not_lt.2 hstart), if_neg (Int.not_le.2 hstop), Int.natCast_ediv,
    Int.natCast_mul, Int.toNat_of_nonneg (by omega), Int.toNat_of_nonneg (by omega)]

/-- …which is what the operations come to, and **none of them fails** before the last. -/
theorem exists_quotient (hstart : start ≤ now) (hstop : now < stop)
    (hwindow : stop.toInt - start.toInt ≤ 2 ^ 63 - 1) : ∃ quotient,
    s.unlockedInWords now start stop = Operation.narrowing.result (Word.narrow? quotient) ∧
      quotient.toNat = unlockedPart s.locked.toNat now.toInt start.toInt stop.toInt := by
  have hstart' := Int64.le_iff_toInt_le.1 hstart
  have hstop' := Int64.lt_iff_toInt_lt.1 hstop
  -- The time passed is no longer than the window.
  obtain ⟨passed, hpassed, hpassedInt⟩ := Word.exists_subSigned? hstart (by omega)
  obtain ⟨window, hlength, hwindowInt⟩ :=
    Word.exists_subSigned? (Int64.le_of_lt (Int64.lt_of_le_of_lt hstart hstop)) hwindow
  have hpassedWide := Word.toNat_wideSigned (a := passed) (by omega)
  have hwindowWide := Word.toNat_wideSigned (a := window) (by omega)
  obtain ⟨product, hmul, hproduct⟩ := Word.exists_mulWide? (a := Word.wideSigned passed)
    (b := Word.wide s.locked) (by omega) (by rw [Word.toNat_wide]; exact s.locked.toNat_lt)
  obtain ⟨quotient, hdiv, hquotient⟩ :=
    Word.exists_divWide? (a := product) (b := Word.wideSigned window) (by omega)
  refine ⟨quotient, ?_, ?_⟩
  · rw [unlockedInWords, if_neg (Int64.not_lt.2 hstart), if_neg (Int64.not_le.2 hstop), hpassed,
      hlength]
    change (Operation.product.result (Word.mulWide? _ _) >>= fun product => _) = _
    rw [hmul]
    change (Operation.quotient.result (Word.divWide? _ _) >>= fun quotient => _) = _
    rw [hdiv]
    rfl
  · have hpassedNat : (Word.wideSigned passed).toNat = (now.toInt - start.toInt).toNat := by omega
    have hwindowNat : (Word.wideSigned window).toNat = (stop.toInt - start.toInt).toNat := by omega
    rw [unlockedPart, if_neg (Int.not_lt.2 hstart'), if_neg (Int.not_le.2 hstop'), hquotient,
      hproduct, Word.toNat_wide, hpassedNat, hwindowNat, Nat.mul_comm]

/-- The last one does not fail either: **the words compute the unlocked amount**. -/
theorem unlockedInWords_eq (h : ¬ Overlong now start stop) {unlocked : UInt64}
    (hunlocked : unlocked.toNat =
      unlockedPart s.locked.toNat now.toInt start.toInt stop.toInt) :
    s.unlockedInWords now start stop = .ok unlocked := by
  by_cases hwithin : start ≤ now ∧ now < stop
  · obtain ⟨hstart, hstop⟩ := hwithin
    obtain ⟨quotient, hwords, hquotient⟩ := exists_quotient (s := s) hstart hstop
      (Int.not_lt.1 fun hlong => h ⟨hstart, hstop, hlong⟩)
    have hnarrow : Word.narrow? quotient = some unlocked :=
      Word.ofNat?_eq_some_iff.2 (hquotient.trans hunlocked.symm)
    rw [hwords, hnarrow]
    rfl
  · simp only [unlockedPart, ← Int64.lt_iff_toInt_lt, ← Int64.le_iff_toInt_le] at hunlocked
    rw [unlockedInWords]
    by_cases hbefore : now < start
    · rw [if_pos hbefore] at hunlocked ⊢
      exact congrArg Except.ok (UInt64.toNat_inj.1 hunlocked.symm)
    · have hbehind : stop ≤ now :=
        Int64.not_lt.1 fun hstop => hwithin ⟨Int64.not_lt.1 hbefore, hstop⟩
      rw [if_neg hbefore, if_pos hbehind] at hunlocked ⊢
      exact congrArg Except.ok (UInt64.toNat_inj.1 hunlocked.symm)

/-! ## Every time -/

/-- **What can be withdrawn** is what is unlocked and has not been withdrawn. -/
theorem withdrawableAt_eq_ok_iff {amount : UInt64} :
    s.withdrawableAt now start stop = .ok amount ↔ ∃ unlocked,
      s.unlockedAt now start stop = .ok unlocked ∧ s.withdrawn ≤ unlocked ∧
        amount = unlocked - s.withdrawn := by
  rw [withdrawableAt, bind_eq_ok_iff]
  refine exists_congr fun unlocked => and_congr_right fun _ => ?_
  by_cases hle : s.withdrawn ≤ unlocked
  · rw [Word.sub?, if_pos hle]
    exact ⟨fun hpure => ⟨hle, (Except.ok.inj hpure).symm⟩, fun h => h.2 ▸ rfl⟩
  · rw [Word.sub?, if_neg hle]
    refine iff_of_false (fun hthrow => ?_) fun h => hle h.1
    cases hthrow

/-- **There is an unlocked amount at every time**, unless the window is open and longer than any
signed word.  It is zero before the window, all that is locked behind it, and within it the share of
the time passed, rounded down; it is never more than what is locked.  It is computed in words of 64
and 128 bits, of whose operations none fails but the differences of times.  What can be withdrawn is
just that amount less what has been withdrawn, if that is not more. -/
theorem unlocks_exactly (s : ClaimStatus) (now start stop : Int64) :
    (s.unlockedAt now start stop = .error .arithmetic ↔
      start ≤ now ∧ now < stop ∧ 2 ^ 63 - 1 < stop.toInt - start.toInt) ∧
    (¬ (start ≤ now ∧ now < stop ∧ 2 ^ 63 - 1 < stop.toInt - start.toInt) →
      ∃ unlocked, s.unlockedAt now start stop = .ok unlocked ∧ unlocked ≤ s.locked ∧
        (now < start → unlocked = 0) ∧
        (start ≤ now → stop ≤ now → unlocked = s.locked) ∧
        (start ≤ now → now < stop → (unlocked.toNat : Int) =
          s.locked.toNat * (now.toInt - start.toInt) / (stop.toInt - start.toInt))) ∧
    (s.unlockedInWords now start stop).mapError (fun _ => .arithmetic) =
      s.unlockedAt now start stop ∧
    (∀ operation, s.unlockedInWords now start stop = .error operation →
      operation = .passed ∨ operation = .window) ∧
    ∀ amount, s.withdrawableAt now start stop = .ok amount ↔ ∃ unlocked,
      s.unlockedAt now start stop = .ok unlocked ∧ s.withdrawn.toNat ≤ unlocked.toNat ∧
        amount.toNat = unlocked.toNat - s.withdrawn.toNat := by
  have hlocked : ∀ {unlocked : UInt64}, unlocked.toNat =
      unlockedPart s.locked.toNat now.toInt start.toInt stop.toInt → unlocked ≤ s.locked :=
    fun hunlocked => UInt64.le_iff_toNat_le.2 (hunlocked ▸ unlockedPart_le _ _ _ _)
  refine ⟨⟨fun herror => ?_, unlockedAt_of_overlong⟩, fun h => ?_, ?_, fun operation hfails => ?_,
    fun amount => withdrawableAt_eq_ok_iff.trans (exists_congr fun unlocked => ?_)⟩
  · by_contra h
    obtain ⟨unlocked, hunlocked, -⟩ := exists_unlockedAt (s := s) h
    rw [herror] at hunlocked
    cases hunlocked
  · obtain ⟨unlocked, hunlocked, hpart⟩ := exists_unlockedAt (s := s) h
    refine ⟨unlocked, hunlocked, hlocked hpart, fun hbefore => ?_, fun hstart hstop => ?_,
      fun hstart hstop => ?_⟩
    · rw [unlockedAt, if_pos hbefore] at hunlocked
      exact (Except.ok.inj hunlocked).symm
    · rw [unlockedAt, if_neg (Int64.not_lt.2 hstart), if_pos hstop] at hunlocked
      exact (Except.ok.inj hunlocked).symm
    · rw [hpart]
      exact unlockedPart_eq_div _ (Int64.le_iff_toInt_le.1 hstart) (Int64.lt_iff_toInt_lt.1 hstop)
  · by_cases h : Overlong now start stop
    · obtain ⟨operation, hwords, -⟩ := unlockedInWords_of_overlong (s := s) h
      rw [hwords, unlockedAt_of_overlong h]
      rfl
    · obtain ⟨unlocked, hunlocked, hpart⟩ := exists_unlockedAt (s := s) h
      rw [unlockedInWords_eq h hpart, hunlocked]
      rfl
  · by_cases h : Overlong now start stop
    · obtain ⟨failing, hwords, hdifference⟩ := unlockedInWords_of_overlong (s := s) h
      rw [hwords] at hfails
      exact Except.error.inj hfails ▸ hdifference
    · obtain ⟨unlocked, -, hpart⟩ := exists_unlockedAt (s := s) h
      rw [unlockedInWords_eq h hpart] at hfails
      cases hfails
  · refine and_congr_right fun _ => ?_
    rw [← UInt64.le_iff_toNat_le]
    refine and_congr_right fun hle => ?_
    rw [← UInt64.toNat_inj, UInt64.toNat_sub_of_le _ _ hle]

/-- The longest window there is, half of it over, with the most that can be locked; and a window
longer by one second. -/
theorem unlocks_exactly_of_longest :
    (∃ unlocked, unlockedAt { locked := 18446744073709551615 } 0 (-4611686018427387904)
        4611686018427387903 = .ok unlocked ∧ unlocked.toNat = 9223372036854775808) ∧
    unlockedAt { locked := 18446744073709551615 } 0 (-4611686018427387904) 4611686018427387904 =
      .error .arithmetic := by
  refine ⟨?_, (unlocks_exactly { locked := 18446744073709551615 } 0 (-4611686018427387904)
    4611686018427387904).1.2 (by decide)⟩
  obtain ⟨unlocked, hunlocked, -, -, -, hshare⟩ := (unlocks_exactly
    { locked := 18446744073709551615 } 0 (-4611686018427387904) 4611686018427387903).2.1 (by decide)
  have hvalue := hshare (by decide) (by decide)
  exact ⟨unlocked, hunlocked, Int.ofNat.inj (hvalue.trans (by decide))⟩

end ClaimStatus

end Airdrop
