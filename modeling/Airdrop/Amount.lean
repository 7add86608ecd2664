import Airdrop.Text.Blank
import Airdrop.Text.Digits
import Airdrop.Word

/-!
# Amount — decimal amounts as whole token units

An allocation list gives amounts as decimal text (`12.345`); the ledger counts in units of
`10 ^ -decimals`.  `Amount.scale` converts **exactly, rounding down**: the digits after the dot are
cut or padded to `decimals` places, and the digits before and after the dot, written side by side,
are the result.
-/

namespace Airdrop.Amount

/-- Why a text is no amount, in the order in which the reasons are looked for. -/
inductive Fault
  /-- There is no digit and nothing else but perhaps a dot. -/
  | empty
  /-- There is something that is neither a digit nor the first dot. -/
  | notDecimal
  /-- `10 ^ decimals` is no 64-bit word. -/
  | tooManyDecimals
  /-- The result is no 64-bit word. -/
  | overflow
  deriving DecidableEq

/-- The reason in words. -/
def Fault.reason : Fault → String
  | .empty => "empty amount"
  | .notDecimal => "not an unsigned decimal number"
  | .tooManyDecimals => "too many decimals"
  | .overflow => "amount overflows u64"

/-- The parts before and after the first dot; without a dot the second is empty. -/
def splitDot : List Char → List Char × List Char
  | [] => ([], [])
  | c :: rest =>
    if c = '.' then ([], rest)
    else ((c :: (splitDot rest).1), (splitDot rest).2)

/-- The most decimals for which `10 ^ decimals` is a 64-bit word. -/
def maxDecimals : Nat := 19

/-- Exactly `decimals` digits after the dot: more are cut, missing ones are zeros. -/
def fit (decimals : Nat) (fraction : List Char) : List Char :=
  (fraction ++ List.replicate decimals '0').take decimals

/-- **The amount a text denotes, in units of `10 ^ -decimals`, rounded down.** -/
def scale (text : String) (decimals : Nat) : Except Fault UInt64 :=
  let (whole, fraction) := splitDot (Text.trim text.toList)
  if whole.isEmpty && fraction.isEmpty then .error .empty
  else if !(whole.all Text.isDigit && fraction.all Text.isDigit) then .error .notDecimal
  else if maxDecimals < decimals then .error .tooManyDecimals
  else match Word.ofNat? (Text.valueOfDigits (whole ++ fit decimals fraction)) with
    | none => .error .overflow
    | some units => .ok units

end Airdrop.Amount
