/-!
# Text/Utf8 — characters as bytes

`pieces` reads bytes from left to right into scalar values and malformed parts, a malformed part
being **the longest run of bytes that could still have begun a character** (or one byte that
cannot).  The two ways of reading are then one line each: strict reading wants scalars only,
forgiving reading puts U+FFFD for each malformed part.
-/

namespace Airdrop.Text.Utf8

/-- The bytes of one character. -/
def encodeChar (c : Char) : List UInt8 :=
  let n := c.toNat
  if n < 0x80 then [.ofNat n]
  else if n < 0x800 then [.ofNat (0xc0 + n / 0x40), .ofNat (0x80 + n % 0x40)]
  else if n < 0x10000 then
    [.ofNat (0xe0 + n / 0x1000), .ofNat (0x80 + n / 0x40 % 0x40), .ofNat (0x80 + n % 0x40)]
  else
    [.ofNat (0xf0 + n / 0x40000), .ofNat (0x80 + n / 0x1000 % 0x40),
      .ofNat (0x80 + n / 0x40 % 0x40), .ofNat (0x80 + n % 0x40)]

/-- **The bytes of a text.** -/
def encode (text : List Char) : List UInt8 := text.flatMap encodeChar

/-- One part of a byte string read as text. -/
inductive Piece
  /-- A well-formed character. -/
  | scalar (c : Char)
  /-- Bytes that are none. -/
  | malformed
  deriving DecidableEq

/-- What a leading byte promises. -/
structure Lead where
  /-- How many bytes the character has in all: two, three or four. -/
  width : Nat
  /-- The bits of the character that the leading byte holds. -/
  bits : Nat
  /-- The least second byte allowed. -/
  low : UInt8
  /-- The greatest second byte allowed. -/
  high : UInt8

/-- The promise of a byte at or above 0x80, if it can lead a character: overlong forms, surrogates
and values above U+10FFFF are excluded by the range of the second byte. -/
def lead? (byte : UInt8) : Option Lead :=
  let n := byte.toNat
  if 0xc2 ≤ n ∧ n ≤ 0xdf then some ⟨2, n - 0xc0, 0x80, 0xbf⟩
  else if n = 0xe0 then some ⟨3, 0, 0xa0, 0xbf⟩
  else if n = 0xed then some ⟨3, 0xd, 0x80, 0x9f⟩
  else if 0xe1 ≤ n ∧ n ≤ 0xef then some ⟨3, n - 0xe0, 0x80, 0xbf⟩
  else if n = 0xf0 then some ⟨4, 0, 0x90, 0xbf⟩
  else if 0xf1 ≤ n ∧ n ≤ 0xf3 then some ⟨4, n - 0xf0, 0x80, 0xbf⟩
  else if n = 0xf4 then some ⟨4, 4, 0x80, 0x8f⟩
  else none

/-- A byte of the form `10xxxxxx`. -/
def isContinuation (byte : UInt8) : Bool := 0x80 ≤ byte && byte ≤ 0xbf

/-- Append the six bits of a continuation byte. -/
def extend (bits : Nat) (byte : UInt8) : Nat := bits * 0x40 + byte.toNat % 0x40

/-- **Read bytes as characters and malformed parts.** -/
def pieces : List UInt8 → List Piece
  | [] => []
  | b₀ :: r₀ =>
    if b₀ < 0x80 then .scalar (Char.ofNat b₀.toNat) :: pieces r₀
    else match lead? b₀ with
      | none => .malformed :: pieces r₀
      | some lead =>
        match r₀ with
        | [] => [.malformed]
        | b₁ :: r₁ =>
          if !(lead.low ≤ b₁ && b₁ ≤ lead.high) then .malformed :: pieces (b₁ :: r₁)
          else
            let two := extend lead.bits b₁
            if lead.width = 2 then .scalar (Char.ofNat two) :: pieces r₁
            else match r₁ with
              | [] => [.malformed]
              | b₂ :: r₂ =>
                if !isContinuation b₂ then .malformed :: pieces (b₂ :: r₂)
                else
                  let three := extend two b₂
                  if lead.width = 3 then .scalar (Char.ofNat three) :: pieces r₂
                  else match r₂ with
                    | [] => [.malformed]
                    | b₃ :: r₃ =>
                      if !isContinuation b₃ then .malformed :: pieces (b₃ :: r₃)
                      else .scalar (Char.ofNat (extend three b₃)) :: pieces r₃

/-- The character of a piece that is one. -/
def Piece.char? : Piece → Option Char
  | .scalar c => some c
  | .malformed => none

/-- **Strict reading**: the text with these bytes, if they are well formed. -/
def decode? (bytes : List UInt8) : Option (List Char) := (pieces bytes).mapM Piece.char?

/-- **Forgiving reading**: U+FFFD stands for every malformed part. -/
def decodeLossy (bytes : List UInt8) : List Char :=
  (pieces bytes).map fun piece => piece.char?.getD '\uFFFD'

/-- Bytes without a byte order mark in front, which is U+FEFF, encoded. -/
def dropMark : List UInt8 → List UInt8
  | 0xef :: 0xbb :: 0xbf :: rest => rest
  | bytes => bytes

end Airdrop.Text.Utf8
