/-!
# Text/Digits — numbers, decimal and in other bases

Digits are those of ASCII.  **No digits denote zero**, which each reader of numbers refuses or not
as it likes.  In other bases, up to thirty-six, a digit above nine is a letter in either case.
-/

namespace Airdrop.Text

/-! ## Decimal -/

/-- An ASCII decimal digit. -/
def isDigit (c : Char) : Bool := '0' ≤ c && c ≤ '9'

/-- The number that decimal digits denote; no digits denote zero. -/
def valueOfDigits (digits : List Char) : Nat :=
  digits.foldl (fun n c => 10 * n + (c.toNat - 48)) 0

/-- A decimal number without a sign, or with a plus sign, below `bound`. -/
def natBelow? (bound : Nat) (text : List Char) : Option Nat :=
  let digits := match text with
    | '+' :: rest => rest
    | other => other
  if digits.isEmpty || !digits.all isDigit then none
  else
    let n := valueOfDigits digits
    if n < bound then some n else none

/-! ## Any base -/

/-- The value of a digit. -/
def digitValue? (c : Char) : Option Nat :=
  if '0' ≤ c && c ≤ '9' then some (c.toNat - 48)
  else if 'a' ≤ c && c ≤ 'z' then some (c.toNat - 87)
  else if 'A' ≤ c && c ≤ 'Z' then some (c.toNat - 55)
  else none

/-- **The number that digits of a base denote.** -/
def numberIn? (base : Nat) (digits : List Char) : Option Nat :=
  digits.foldlM (fun n c => do
    let value ← digitValue? c
    if value < base then some (n * base + value) else none) 0

end Airdrop.Text
