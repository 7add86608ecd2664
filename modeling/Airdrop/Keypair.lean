import Airdrop.Address
import Airdrop.Digest.Edwards
import Airdrop.Text.Blank
import Airdrop.Text.Digits

/-!
# Keypair — who signs

A keypair file is an array of 64 numbers: 32 bytes of a secret, then the 32 bytes of its public key,
which is the address of its owner.  **The second half has to be the public key of the first.**
-/

namespace Airdrop

/-- **A secret and its address.** -/
structure Keypair where
  secret : Octets 32
  address : Address
  /-- The address is the public key of the secret. -/
  address_octets : address.octets = Edwards.publicKey secret

namespace Keypair

/-- Why a text is no number below 256. -/
inductive NumberFault
  | empty
  | badDigit
  | tooLarge
  deriving DecidableEq

/-- The fault in words. -/
def NumberFault.message : NumberFault → String
  | .empty => "cannot parse integer from empty string"
  | .badDigit => "invalid digit found in string"
  | .tooLarge => "number too large to fit in target type"

/-- Read the digits behind a value; the first that is none, or makes it too large, counts. -/
def readDigits (value : Nat) : List Char → Except NumberFault UInt8
  | [] => .ok (.ofNat value)
  | c :: rest =>
    if !Text.isDigit c then .error .badDigit
    else
      let value := 10 * value + (c.toNat - 48)
      if 256 ≤ value then .error .tooLarge else readDigits value rest

/-- A number below 256, perhaps with a plus sign. -/
def readByte : List Char → Except NumberFault UInt8
  | [] => .error .empty
  | ['+'] => .error .badDigit
  | '+' :: digits => readDigits 0 digits
  | digits => readDigits 0 digits

/-- Why a text is no keypair. -/
inductive Fault
  | noArray
  | wrongCount (found : Nat)
  | number (fault : NumberFault)
  /-- The second half is not the public key of the first. -/
  | mismatch
  deriving DecidableEq

/-- The fault in words. -/
def Fault.message : Fault → String
  | .noArray => "Input must be a JSON array"
  | .wrongCount found => "Expected 64 elements, found " ++ toString found
  | .number fault => fault.message
  | .mismatch => "signature error"

/-- The parts of a text between its commas. -/
def commaParts (text : List Char) : List (List Char) := text.splitOn ','

/-- What stands between the brackets, if there are both. -/
def inBrackets? (text : List Char) : Option (List Char) :=
  match text with
  | '[' :: rest => if rest.getLast? = some ']' then some rest.dropLast else none
  | _ => none

/-- The keypair of two halves. -/
def ofHalves (secret key : Octets 32) : Except Fault Keypair :=
  if h : key = Edwards.publicKey secret then .ok ⟨secret, ⟨key⟩, h⟩
  else .error .mismatch

/-- **The keypair in the text of a file.** -/
def ofText (text : List Char) : Except Fault Keypair :=
  match inBrackets? (Text.trim text) with
  | none => .error .noArray
  | some inner =>
    let parts := (commaParts inner).map Text.trim
    if parts.length ≠ 64 then .error (.wrongCount parts.length)
    else match parts.mapM readByte with
      | .error fault => .error (.number fault)
      | .ok bytes =>
        match Octets.ofList? 32 (bytes.take 32), Octets.ofList? 32 (bytes.drop 32) with
        | some secret, some key => ofHalves secret key
        | _, _ => .error (.wrongCount bytes.length)

end Keypair

end Airdrop
