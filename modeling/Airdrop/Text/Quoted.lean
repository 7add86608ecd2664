import Airdrop.Text.Printable

/-!
# Text/Quoted — a text between quotes, unambiguous on one line

Messages quote what the user gave.  The quote and the backslash get a backslash, the four common
control characters their letter, and every other character that is not printable its number in
braces, so **the quoted form shows exactly which characters there are**.
-/

namespace Airdrop.Text

/-- The digits of a number in base sixteen, lower case, without leading zeros. -/
def hexDigits (n : Nat) : List Char := Nat.toDigits 16 n

/-- A character by its number. -/
def numbered (c : Char) : List Char := ['\\', 'u', '\x7b'] ++ hexDigits c.toNat ++ ['\x7d']

/-- The characters that get a backslash, each with what follows it. -/
def quotedLetters : List (Char × Char) :=
  [('\x00', '0'), ('\t', 't'), ('\n', 'n'), ('\r', 'r'), ('"', '"'), ('\\', '\\')]

/-- A character as it stands between double quotes. -/
def quoteChar (c : Char) : List Char :=
  match quotedLetters.lookup c with
  | some letter => ['\\', letter]
  | none => if isPrintable c then [c] else numbered c

/-- **A text in double quotes.** -/
def quote (text : String) : String :=
  String.ofList ('"' :: text.toList.flatMap quoteChar ++ ['"'])

/-- A character in single quotes: of the two quotes it is the single one that gets a backslash. -/
def quoteSingle (c : Char) : String :=
  let shown := if c = '\'' then ['\\', '\''] else if c = '"' then ['"'] else quoteChar c
  String.ofList ('\'' :: shown ++ ['\''])

end Airdrop.Text
