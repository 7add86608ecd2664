import Airdrop.Octets.Hex
import Airdrop.Text.Digits

/-!
# Net/Percent — bytes as `%41`

In URLs a percent sign and two hexadecimal digits stand for a byte.  **What cannot be decoded stays
as it is**, so every text can be decoded; what is written has upper-case digits.
-/

namespace Airdrop.Net.Percent

/-- The upper-case digit of a value below sixteen. -/
def digit (value : Nat) : Char := (Hex.digit value).toUpper

/-- The byte that two digits stand for. -/
def byteOf? (high low : UInt8) : Option UInt8 :=
  (Text.numberIn? 16 [.ofNat high.toNat, .ofNat low.toNat]).map .ofNat

/-- Bytes with the coded ones decoded. -/
def decode : List UInt8 → List UInt8
  | 0x25 :: high :: low :: rest =>
    match byteOf? high low with
    | some byte => byte :: decode rest
    | none => 0x25 :: decode (high :: low :: rest)
  | byte :: rest => byte :: decode rest
  | [] => []

/-- A byte, coded. -/
def byte (b : UInt8) : List Char := ['%', digit (b.toNat / 16), digit (b.toNat % 16)]

/-- Characters; those that `coded` picks, control characters and those beyond ASCII by their
bytes. -/
def encode (coded : Char → Bool) (text : List Char) : List Char :=
  text.flatMap fun c =>
    if c.toNat ≤ 0x1f || 0x7e < c.toNat || coded c then (Text.Utf8.encodeChar c).flatMap byte
    else [c]

end Airdrop.Net.Percent
