/-!
# Json/Numeral — numbers as they are written

A number of a document is kept exactly: all its digits, and the power of ten that the dot and the
exponent amount to.  Amounts must be **integer literals**: `1.0`, `1e0` and `-0` are numbers, but no
amounts.  The last section says which numbers are too large for double precision, the only question
asked about numbers that are not amounts.
-/

namespace Airdrop.Json

/-- **A number of a document**: `± significand * 10 ^ power`. -/
structure Numeral where
  /-- It begins with a minus sign. -/
  negative : Bool
  /-- The digits before and after the dot, read as one number. -/
  significand : Nat
  /-- The exponent, less the number of digits after the dot. -/
  power : Int
  /-- It has neither a dot nor an exponent. -/
  integral : Bool
  deriving DecidableEq

namespace Numeral

/-- The integer literal of a natural number. -/
def ofNat (n : Nat) : Numeral := ⟨false, n, 0, true⟩

/-- The natural number of an integer literal without a sign. -/
def natural? (n : Numeral) : Option Nat :=
  if n.integral && !n.negative then some n.significand else none

/-! ## Double precision -/

/-- A natural number rounded to 53 significant bits, ties to even. -/
def roundBits (n : Nat) : Nat :=
  let excess := n.log2 + 1 - 53
  if excess = 0 then n
  else
    let kept := n >>> excess
    let rest := n % (1 <<< excess)
    let half := 1 <<< (excess - 1)
    let up := half < rest || (half == rest && kept % 2 == 1)
    (if up then kept + 1 else kept) <<< excess

/-- The most digits, from the first on, that make a 64-bit number, and how many are left out. -/
def leading (n : Nat) : Nat × Nat :=
  if _h : n < UInt64.size then (n, 0)
  else
    let (kept, dropped) := leading (n / 10)
    (kept, dropped + 1)
termination_by n
decreasing_by
  unfold UInt64.size at _h
  omega

/-- **Whether double precision has no value for a number**: the product of its leading digits and
its power of ten, each rounded, is `2 ^ 1024` or more. -/
def isTooLarge (n : Numeral) : Bool :=
  let (kept, dropped) := leading n.significand
  let power := n.power + dropped
  if kept = 0 ∨ power < 0 then false
  else if 308 < power then true
  else decide (1 <<< 1024 ≤ roundBits (roundBits kept * roundBits (Nat.pow 10 power.toNat)))

end Numeral

end Airdrop.Json
