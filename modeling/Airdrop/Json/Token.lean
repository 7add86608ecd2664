import Airdrop.Json.Numeral
import Airdrop.Octets.Hex

/-!
# Json/Token — the words of a document

A document is first cut into tokens, each with the bytes that follow it.  **Cutting never fails**:
where no token can be made, `broken` takes the place of the rest of the document, and whoever reads
the tokens finds it there, so that a fault further to the left is found first.

A text is well written when its escapes are and no control character stands in it raw.  Whether it
*is* text (its bytes are UTF-8, its surrogates paired) matters only to those who want to know what
it says: the token holds nothing if it is not.
-/

namespace Airdrop.Json

/-- **A word of a document.** -/
inductive Token
  | openObject
  | closeObject
  | openArray
  | closeArray
  | colon
  | comma
  /-- A text, or nothing if it is well written but says nothing. -/
  | text (content : Option (List Char))
  | number (numeral : Numeral)
  | truth (value : Bool)
  | null
  /-- Here the document stops being one. -/
  | broken
  deriving DecidableEq

/-- A token and the bytes after it. -/
structure Lexeme where
  token : Token
  after : List UInt8

namespace Token

/-! ## Texts -/

/-- A part of a text: a byte, or a UTF-16 unit given by its number. -/
inductive Part
  | byte (value : UInt8)
  | unit (value : Nat)
  deriving DecidableEq

/-- The unit of four hexadecimal digits. -/
def unit? (a b c d : UInt8) : Option Nat := do
  let a ← Hex.value? a
  let b ← Hex.value? b
  let c ← Hex.value? c
  let d ← Hex.value? d
  return ((a.toNat * 16 + b.toNat) * 16 + c.toNat) * 16 + d.toNat

/-- The byte that an escape of one letter stands for. -/
def escaped? (letter : UInt8) : Option UInt8 :=
  if letter = 0x22 ∨ letter = 0x5c ∨ letter = 0x2f then some letter
  else if letter = 0x62 then some 0x08
  else if letter = 0x66 then some 0x0c
  else if letter = 0x6e then some 0x0a
  else if letter = 0x72 then some 0x0d
  else if letter = 0x74 then some 0x09
  else none

/-- The parts of a text up to its closing quote, and the bytes after that. -/
def parts : List UInt8 → Option (List Part × List UInt8)
  | [] => none
  | byte :: rest =>
    if byte = 0x22 then some ([], rest)
    else if byte = 0x5c then
      match rest with
      | [] => none
      | letter :: rest =>
        if letter = 0x75 then
          match rest with
          | a :: b :: c :: d :: rest =>
            match unit? a b c d, parts rest with
            | some unit, some (more, after) => some (.unit unit :: more, after)
            | _, _ => none
          | _ => none
        else match escaped? letter, parts rest with
          | some value, some (more, after) => some (.byte value :: more, after)
          | _, _ => none
    else if byte < 0x20 then none
    else match parts rest with
      | some (more, after) => some (.byte byte :: more, after)
      | none => none

/-- The first unit of a pair. -/
def isHighSurrogate (unit : Nat) : Bool := 0xd800 ≤ unit && unit ≤ 0xdbff

/-- The second unit of a pair. -/
def isLowSurrogate (unit : Nat) : Bool := 0xdc00 ≤ unit && unit ≤ 0xdfff

/-- The bytes of a text, if its surrogates come in pairs. -/
def contentBytes : List Part → Option (List UInt8)
  | [] => some []
  | .byte value :: rest => (contentBytes rest).map (value :: ·)
  | .unit high :: rest =>
    if isLowSurrogate high then none
    else if isHighSurrogate high then
      match rest with
      | .unit low :: rest =>
        if isLowSurrogate low then
          let c := Char.ofNat (0x10000 + (high - 0xd800) * 0x400 + (low - 0xdc00))
          (contentBytes rest).map (Text.Utf8.encodeChar c ++ ·)
        else none
      | _ => none
    else (contentBytes rest).map (Text.Utf8.encodeChar (Char.ofNat high) ++ ·)

/-- What a text says, if it says something. -/
def content (parts : List Part) : Option (List Char) :=
  (contentBytes parts).bind Text.Utf8.decode?

/-! ## Numbers -/

/-- A decimal digit. -/
def isDigit (byte : UInt8) : Bool := 48 ≤ byte && byte ≤ 57

/-- The digits at the front, and the bytes after them. -/
def digits (bytes : List UInt8) : List UInt8 × List UInt8 :=
  (bytes.takeWhile isDigit, bytes.dropWhile isDigit)

/-- The number that digits denote. -/
def valueOf (digits : List UInt8) : Nat :=
  digits.foldl (fun n digit => 10 * n + (digit.toNat - 48)) 0

/-- The digits before the dot: a zero stands alone. -/
def wholePart (bytes : List UInt8) : Option (List UInt8 × List UInt8) :=
  let (whole, rest) := digits bytes
  match whole with
  | [] => none
  | [_] => some (whole, rest)
  | first :: _ => if first = 48 then none else some (whole, rest)

/-- A dot and at least one digit, or nothing. -/
def fractionPart (bytes : List UInt8) : Option (Option (List UInt8) × List UInt8) :=
  match bytes with
  | byte :: rest =>
    if byte = 0x2e then
      let (fraction, rest) := digits rest
      if fraction.isEmpty then none else some (some fraction, rest)
    else some (none, bytes)
  | [] => some (none, [])

/-- A sign, or none, before an exponent: whether it is a minus, and the bytes after it. -/
def exponentSign (bytes : List UInt8) : Bool × List UInt8 :=
  match bytes with
  | byte :: rest =>
    if byte = 0x2d then (true, rest) else if byte = 0x2b then (false, rest) else (false, bytes)
  | [] => (false, [])

/-- An `e`, a sign and at least one digit, or nothing. -/
def exponentPart (bytes : List UInt8) : Option (Option Int × List UInt8) :=
  match bytes with
  | byte :: rest =>
    if byte = 0x65 ∨ byte = 0x45 then
      let (negative, rest) := exponentSign rest
      let (exponent, rest) := digits rest
      if exponent.isEmpty then none
      else
        let value : Int := valueOf exponent
        some (some (if negative then -value else value), rest)
    else some (none, bytes)
  | [] => some (none, [])

/-- An unsigned number at the front, and the bytes after it. -/
def unsigned (negative : Bool) (bytes : List UInt8) : Option (Numeral × List UInt8) := do
  let (whole, rest) ← wholePart bytes
  let (fraction, rest) ← fractionPart rest
  let (exponent, rest) ← exponentPart rest
  let places := fraction.getD []
  return ({ negative
            significand := valueOf (whole ++ places)
            power := exponent.getD 0 - places.length
            integral := fraction.isNone && exponent.isNone }, rest)

/-! ## Tokens -/

/-- Drop a word's remaining letters. -/
def word (letters : List UInt8) (bytes : List UInt8) : Option (List UInt8) :=
  if letters.isPrefixOf bytes then some (bytes.drop letters.length) else none

/-- The tokens of one byte. -/
def punctuation? (byte : UInt8) : Option Token :=
  if byte = 0x7b then some .openObject
  else if byte = 0x7d then some .closeObject
  else if byte = 0x5b then some .openArray
  else if byte = 0x5d then some .closeArray
  else if byte = 0x3a then some .colon
  else if byte = 0x2c then some .comma
  else none

/-- The tokens that are words: the first letter tells which, the others have to follow. -/
def literal? (byte : UInt8) : Option (Token × List UInt8) :=
  if byte = 0x74 then some (.truth true, [0x72, 0x75, 0x65])
  else if byte = 0x66 then some (.truth false, [0x61, 0x6c, 0x73, 0x65])
  else if byte = 0x6e then some (.null, [0x75, 0x6c, 0x6c])
  else none

/-- **The token that begins with `byte`**, and the bytes after it. -/
def first (byte : UInt8) (rest : List UInt8) : Option (Token × List UInt8) :=
  match punctuation? byte, literal? byte with
  | some token, _ => some (token, rest)
  | none, some (token, letters) => (word letters rest).map fun after => (token, after)
  | none, none =>
    if byte = 0x22 then (parts rest).map fun (ps, after) => (.text (content ps), after)
    else if byte = 0x2d then (unsigned true rest).map fun (n, after) => (.number n, after)
    else (unsigned false (byte :: rest)).map fun (n, after) => (.number n, after)

/-- The four blanks of a document. -/
def isBlank (byte : UInt8) : Bool := byte == 0x20 || byte == 0x0a || byte == 0x0d || byte == 0x09

/-! ## Every token takes a byte -/

theorem length_dropWhile (p : UInt8 → Bool) (bytes : List UInt8) :
    (bytes.dropWhile p).length ≤ bytes.length :=
  (List.dropWhile_sublist p).length_le

theorem length_parts {bytes after : List UInt8} {ps : List Part}
    (h : parts bytes = some (ps, after)) : after.length ≤ bytes.length := by
  fun_induction parts bytes generalizing ps after <;> simp_all <;> grind

theorem length_wholePart {bytes after whole : List UInt8}
    (h : wholePart bytes = some (whole, after)) :
    after.length + 1 ≤ bytes.length := by
  have key : bytes.takeWhile isDigit ++ bytes.dropWhile isDigit = bytes :=
    List.takeWhile_append_dropWhile
  have len := congrArg List.length key
  simp only [List.length_append] at len
  unfold wholePart digits at h
  simp only at h
  split at h <;> grind

theorem length_fractionPart {bytes after : List UInt8} {fraction : Option (List UInt8)}
    (h : fractionPart bytes = some (fraction, after)) : after.length ≤ bytes.length := by
  unfold fractionPart digits at h
  have := length_dropWhile isDigit
  grind

theorem length_exponentSign (bytes : List UInt8) :
    (exponentSign bytes).2.length ≤ bytes.length := by
  unfold exponentSign
  grind

theorem length_exponentPart {bytes after : List UInt8} {exponent : Option Int}
    (h : exponentPart bytes = some (exponent, after)) : after.length ≤ bytes.length := by
  unfold exponentPart digits at h
  have := length_dropWhile isDigit
  have := length_exponentSign
  grind

theorem length_unsigned {negative : Bool} {bytes after : List UInt8} {n : Numeral}
    (h : unsigned negative bytes = some (n, after)) : after.length + 1 ≤ bytes.length := by
  unfold unsigned at h
  simp only [bind, Option.bind_eq_some_iff, pure, Option.some.injEq, Prod.mk.injEq] at h
  obtain ⟨⟨_, r₁⟩, h₁, ⟨_, r₂⟩, h₂, ⟨_, r₃⟩, h₃, -, rfl⟩ := h
  have hw := length_wholePart h₁
  have hf := length_fractionPart h₂
  have he := length_exponentPart h₃
  simp only at hf he ⊢
  omega

theorem length_word {letters bytes after : List UInt8} (h : word letters bytes = some after) :
    after.length ≤ bytes.length := by
  unfold word at h
  grind

theorem length_first {byte : UInt8} {rest after : List UInt8} {token : Token}
    (h : first byte rest = some (token, after)) : after.length ≤ rest.length := by
  unfold first at h
  split at h
  · cases h
    exact Nat.le_refl _
  · obtain ⟨_, hp, he⟩ := Option.map_eq_some_iff.1 h
    cases he
    exact length_word hp
  · by_cases h₁ : byte = 0x22
    · rw [if_pos h₁] at h
      obtain ⟨_, hp, he⟩ := Option.map_eq_some_iff.1 h
      cases he
      exact length_parts hp
    · rw [if_neg h₁] at h
      by_cases h₂ : byte = 0x2d
      · rw [if_pos h₂] at h
        obtain ⟨_, hp, he⟩ := Option.map_eq_some_iff.1 h
        cases he
        have := length_unsigned hp
        omega
      · rw [if_neg h₂] at h
        obtain ⟨_, hp, he⟩ := Option.map_eq_some_iff.1 h
        cases he
        have := length_unsigned hp
        simp only [List.length_cons] at this
        omega

end Token

/-- The lexemes of a document, after those already found (last one first). -/
def lexemesAfter (found : List Lexeme) (bytes : List UInt8) : List Lexeme :=
  match _h : bytes.dropWhile Token.isBlank with
  | [] => found.reverse
  | byte :: rest =>
    match _hf : Token.first byte rest with
    | none => (⟨.broken, rest⟩ :: found).reverse
    | some (token, after) => lexemesAfter (⟨token, after⟩ :: found) after
termination_by bytes.length
decreasing_by
  have := Token.length_first _hf
  have := Token.length_dropWhile Token.isBlank bytes
  rw [_h] at this
  simp only [List.length_cons] at this
  omega

/-- **A document as lexemes.** -/
def lexemes (bytes : List UInt8) : List Lexeme := lexemesAfter [] bytes

/-- **A document as tokens.** -/
def tokens (bytes : List UInt8) : List Token := (lexemes bytes).map Lexeme.token

end Airdrop.Json
