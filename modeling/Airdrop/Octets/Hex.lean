import Airdrop.Octets
import Airdrop.Text.Utf8

/-!
# Octets/Hex — hexadecimal text of bytes

Writing gives two lower-case digits a byte.  Reading takes either letter case and works on the
bytes of the text, so a position in an error counts bytes: **an odd number of them is reported
before any digit is looked at**, and otherwise the first byte that is no digit.
-/

namespace Airdrop.Hex

/-- Why a text is not hexadecimal. -/
inductive Fault
  /-- The text has an odd number of bytes. -/
  | oddLength
  /-- The byte at this position is no hexadecimal digit. -/
  | badDigit (byte : UInt8) (position : Nat)
  deriving DecidableEq

/-- The lower-case digit of a value below sixteen. -/
def digit (value : Nat) : Char :=
  if value < 10 then Char.ofNat (48 + value) else Char.ofNat (87 + value)

/-- Two digits a byte, the high one first. -/
def encode : List UInt8 → List Char
  | [] => []
  | byte :: rest => digit (byte.toNat / 16) :: digit (byte.toNat % 16) :: encode rest

/-- The hexadecimal text of bytes. -/
def text (bytes : List UInt8) : String := String.ofList (encode bytes)

/-- The value of a digit, given as the byte of its character. -/
def value? (byte : UInt8) : Option UInt8 :=
  if 48 ≤ byte ∧ byte ≤ 57 then some (byte - 48)
  else if 97 ≤ byte ∧ byte ≤ 102 then some (byte - 87)
  else if 65 ≤ byte ∧ byte ≤ 70 then some (byte - 55)
  else none

/-- Read digits pair by pair; `position` is where the first one stands. -/
def decodeFrom (position : Nat) : List UInt8 → Except Fault (List UInt8)
  | [] => .ok []
  | [byte] => .error (.badDigit byte position)
  | high :: low :: rest =>
    match value? high, value? low with
    | none, _ => .error (.badDigit high position)
    | some _, none => .error (.badDigit low (position + 1))
    | some h, some l => (decodeFrom (position + 2) rest).map ((h * 16 + l) :: ·)

/-- **Read the hexadecimal text with these bytes.** -/
def decode (text : List UInt8) : Except Fault (List UInt8) :=
  if text.length % 2 = 1 then .error .oddLength else decodeFrom 0 text

/-- Read a text. -/
def ofText? (text : String) : Option (List UInt8) :=
  (decode (Text.Utf8.encode text.toList)).toOption

end Airdrop.Hex
