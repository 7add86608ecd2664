import Airdrop.Word
import Mathlib.Algebra.BigOperators.Group.List.Basic
import Mathlib.Algebra.Order.Ring.Nat

/-!
# Proofs/Word — sums of words

A sum that overflows on the way overflows in the end, because nothing is ever taken off it.  So
**a list of words has a sum exactly if the numbers have one below `2 ^ 64`**, whatever their order.
-/

namespace Airdrop.Word

/-- Words added to a word. -/
theorem foldlM_add?_eq_some_iff : ∀ (words : List UInt64) (start total : UInt64),
    words.foldlM add? start = some total ↔
      start.toNat + (words.map UInt64.toNat).sum = total.toNat
  | [], start, total => by
      simp [UInt64.toNat_inj]
  | word :: rest, start, total => by
      rw [List.foldlM_cons, List.map_cons, List.sum_cons, ← Nat.add_assoc]
      simp only [Option.bind_eq_bind, Option.bind_eq_some_iff, foldlM_add?_eq_some_iff rest, add?,
        ofNat?_eq_some_iff]
      constructor
      · rintro ⟨next, hnext, hrest⟩
        rw [hnext, hrest]
      · intro hsum
        have hlt : start.toNat + word.toNat < UInt64.size := by
          have : total.toNat < UInt64.size := total.toNat_lt
          omega
        exact ⟨.ofNat (start.toNat + word.toNat), (UInt64.toNat_ofNat_of_lt' hlt).symm,
          by rw [UInt64.toNat_ofNat_of_lt' hlt, hsum]⟩

/-- **A sum is exact**, -/
theorem sum?_eq_some_iff {words : List UInt64} {total : UInt64} :
    sum? words = some total ↔ (words.map UInt64.toNat).sum = total.toNat := by
  rw [sum?, foldlM_add?_eq_some_iff]
  simp

/-- …and there is none exactly if it has no word. -/
theorem sum?_eq_none_iff {words : List UInt64} :
    sum? words = none ↔ UInt64.size ≤ (words.map UInt64.toNat).sum := by
  rw [Option.eq_none_iff_forall_ne_some]
  simp only [ne_eq, sum?_eq_some_iff]
  constructor
  · intro h
    by_contra hlt
    exact h (.ofNat (words.map UInt64.toNat).sum)
      (UInt64.toNat_ofNat_of_lt' (Nat.lt_of_not_le hlt)).symm
  · rintro hle total hsum
    exact absurd total.toNat_lt (Nat.not_lt.2 (hsum ▸ hle))

end Airdrop.Word
