import Airdrop.Octets.BigEndian

/-!
# Octets/Base58 — the text form of addresses

Bytes are read as one number, most significant byte first, and written in base 58 with digits that
leave out `0`, `O`, `I` and `l`.  A number does not know how many zeros stood in front of it, so
**every leading zero byte is a leading `1` of the text**, and reading insists on the same count.
-/

namespace Airdrop.Base58

/-- The fifty-eight digits, least first. -/
def alphabet : List Char :=
  "123456789ABCDEFGHJKLMNPQRSTUVWXYZabcdefghijkmnopqrstuvwxyz".toList

/-- The digit of a value below fifty-eight. -/
def digit (value : Nat) : Char := alphabet.getD value '1'

/-- The value of a digit. -/
def value? (c : Char) : Option Nat := alphabet.findIdx? (· == c)

/-- The digits of a number followed by `rest`, most significant first; zero has none. -/
def digitsBefore (rest : List Char) (n : Nat) : List Char :=
  if h : n = 0 then rest
  else digitsBefore (digit (n % 58) :: rest) (n / 58)
termination_by n
decreasing_by exact Nat.div_lt_self (Nat.pos_of_ne_zero h) (by decide)

/-- **The text of bytes.** -/
def encode (bytes : List UInt8) : List Char :=
  List.replicate (bytes.takeWhile (· == 0)).length '1' ++ digitsBefore [] (BigEndian.valueOf bytes)

/-- The number that digits denote, if all are in the alphabet. -/
def numberOfDigits? (text : List Char) : Option Nat :=
  text.foldlM (fun n c => (value? c).map (n * 58 + ·)) 0

end Airdrop.Base58
