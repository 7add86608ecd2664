import Airdrop.Instruction

/-!
# Instruction/Budget — what a transaction may cost

Two instructions in front of the others say how much computing a transaction may use and what it
pays for it.  The price is a multiple of a base price, **capped where 64 bits end**.
-/

namespace Airdrop.Budget

/-- The program that takes these instructions. -/
def program : Address := Address.known "ComputeBudget111111111111111111111111111111"

/-- The computing that a claim may use. -/
def unitLimit : Nat := 1000000

/-- The base price of a unit, in millionths of the smallest coin. -/
def basePrice : Nat := 5

/-- The price of a unit at a multiple of the base price. -/
def price (multiplier : UInt64) : Nat := min (basePrice * multiplier.toNat) (UInt64.size - 1)

/-- The instruction that sets how much may be used. -/
def limitInstruction : Instruction where
  program := program
  accounts := []
  data := 2 :: LittleEndian.bytesOf 4 unitLimit

/-- The instruction that sets what a unit pays. -/
def priceInstruction (multiplier : UInt64) : Instruction where
  program := program
  accounts := []
  data := 3 :: LittleEndian.bytesOf 8 (price multiplier)

/-- **Both instructions**, the limit first. -/
def instructions (multiplier : UInt64) : List Instruction :=
  [limitInstruction, priceInstruction multiplier]

end Airdrop.Budget
