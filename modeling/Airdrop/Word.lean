/-!
# Word — arithmetic on 64-bit words that reports overflow

The operations agree with those on natural numbers or report `none`; **nothing ever wraps**.
-/

namespace Airdrop.Word

/-- The word of a natural number, if it has one. -/
def ofNat? (n : Nat) : Option UInt64 :=
  if n < UInt64.size then some (.ofNat n) else none

/-- Sum, unless it is `2 ^ 64` or more. -/
def add? (a b : UInt64) : Option UInt64 := ofNat? (a.toNat + b.toNat)

/-- Difference, unless it would be negative. -/
def sub? (a b : UInt64) : Option UInt64 := if b ≤ a then some (a - b) else none

/-- Sum of a list, unless some running total is `2 ^ 64` or more. -/
def sum? (words : List UInt64) : Option UInt64 :=
  words.foldlM add? 0

theorem ofNat?_eq_some_iff {n : Nat} {w : UInt64} : ofNat? n = some w ↔ n = w.toNat := by
  unfold ofNat?
  split
  · next h =>
    rw [Option.some.injEq, ← UInt64.toNat_inj, UInt64.toNat_ofNat_of_lt' h]
  · next h =>
    have : w.toNat < UInt64.size := w.toNat_lt
    constructor
    · intro h'; cases h'
    · intro h'; omega

theorem ofNat?_eq_none_iff {n : Nat} : ofNat? n = none ↔ UInt64.size ≤ n := by
  unfold ofNat?; split <;> simp <;> omega

end Airdrop.Word
