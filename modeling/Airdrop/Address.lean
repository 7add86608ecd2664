import Airdrop.Octets.Base58

/-!
# Address — accounts on the ledger

An address is 32 bytes, shown in base 58.  **Reading is strict**: no blanks, no other digits, and
exactly one text for each address.
-/

namespace Airdrop

/-- **The address of an account.** -/
structure Address where
  /-- Its 32 bytes. -/
  octets : Octets 32
  deriving DecidableEq, Hashable, Inhabited

namespace Address

/-- The bytes of an address. -/
def bytes (a : Address) : List UInt8 := a.octets.toList

/-- **The base-58 text of an address.** -/
def text (a : Address) : String := String.ofList (Base58.encode a.bytes)

instance : ToString Address := ⟨text⟩

/-- Why a text is no address. -/
inductive Fault
  /-- It denotes no 32 bytes. -/
  | wrongSize
  /-- It has a character that is no digit. -/
  | notBase58
  deriving DecidableEq

/-- The reason in words. -/
def Fault.message : Fault → String
  | .wrongSize => "String is the wrong size"
  | .notBase58 => "Invalid Base58 string"

/-- The longest text of an address, in bytes. -/
def maxTextSize : Nat := 44

/-- The address with this number, most significant byte first. -/
def ofNumber (n : Nat) : Address :=
  ⟨⟨BigEndian.bytesOf 32 n, BigEndian.length_bytesOf 32 n⟩⟩

/-- How many ones a text begins with. -/
def leadingOnes (text : List Char) : Nat := (text.takeWhile (· == '1')).length

/-- How many zero bytes an address begins with. -/
def leadingZeros (a : Address) : Nat := (a.bytes.takeWhile (· == 0)).length

/-- **Read an address.**  The size of the text comes first, then its digits, then the number and
the count of leading zeros. -/
def ofText (text : String) : Except Fault Address :=
  if maxTextSize < text.utf8ByteSize then .error .wrongSize
  else match Base58.numberOfDigits? text.toList with
    | none => .error .notBase58
    | some n =>
      let a := ofNumber n
      if n < 1 <<< 256 ∧ leadingOnes text.toList = a.leadingZeros then .ok a else .error .wrongSize

/-- Read an address, when the reason of a failure does not matter. -/
def ofText? (text : String) : Option Address := (ofText text).toOption

/-- The address that a text of the program's own denotes; all zeros if it denotes none. -/
def known (text : String) : Address := (ofText? text).getD default

/-- Addresses are ordered by their bytes. -/
def before (a b : Address) : Bool := decide (a.bytes ≤ b.bytes)

end Address

end Airdrop
