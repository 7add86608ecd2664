import Airdrop.Json.Token

/-!
# Json/Layout — tokens as text

Values are written as tokens, and tokens are laid out as text in one of two ways: `compact`, without
a blank, and `pretty`, with **every element and every member on a line of its own**, two blanks
deeper than its bracket, and empty brackets side by side.
-/

namespace Airdrop.Json

namespace Layout

/-- The characters that get a backslash, each with what follows it. -/
def letters : List (Char × Char) :=
  [('"', '"'), ('\\', '\\'), ('\x08', 'b'), ('\x0c', 'f'), ('\n', 'n'), ('\r', 'r'),
    ('\t', 't')]

/-- A character as it stands in a text. -/
def escape (c : Char) : List Char :=
  match letters.lookup c with
  | some letter => ['\\', letter]
  | none =>
    if c.toNat < 0x20 then
      ['\\', 'u', '0', '0', Hex.digit (c.toNat / 16), Hex.digit (c.toNat % 16)]
    else [c]

/-- A number with its digits and, unless it is an integer literal, its power of ten. -/
def numeral (n : Numeral) : List Char :=
  (if n.negative then ['-'] else []) ++ (toString n.significand).toList ++
    if n.integral then [] else 'e' :: (toString n.power).toList

/-- A token without blanks.  A text that says nothing is written empty. -/
def word : Token → List Char
  | .openObject => ['\x7b']
  | .closeObject => ['\x7d']
  | .openArray => ['[']
  | .closeArray => [']']
  | .colon => [':']
  | .comma => [',']
  | .text content => '"' :: (content.getD []).flatMap escape ++ ['"']
  | .number n => numeral n
  | .truth true => ['t', 'r', 'u', 'e']
  | .truth false => ['f', 'a', 'l', 's', 'e']
  | .null => ['n', 'u', 'l', 'l']
  | .broken => []

/-- **Tokens without a blank between them.** -/
def compact (tokens : List Token) : List Char := tokens.flatMap word

/-- The start of a line at a depth. -/
def newLine (depth : Nat) : List Char := '\n' :: List.replicate (2 * depth) ' '

/-- **Tokens one element or member a line.**  `depth` brackets are open, and `fresh` says that the
innermost has just been opened. -/
def prettyFrom (depth : Nat) (fresh : Bool) : List Token → List Char
  | [] => []
  | token :: rest =>
    let opening := if fresh then newLine depth else []
    match token with
    | .openObject | .openArray => opening ++ word token ++ prettyFrom (depth + 1) true rest
    | .closeObject | .closeArray =>
      (if fresh then [] else newLine (depth - 1)) ++ word token ++
        prettyFrom (depth - 1) false rest
    | .comma => word token ++ newLine depth ++ prettyFrom depth false rest
    | .colon => word token ++ ' ' :: prettyFrom depth false rest
    | _ => opening ++ word token ++ prettyFrom depth false rest

/-- The pretty layout of a whole document. -/
def pretty (tokens : List Token) : List Char := prettyFrom 0 false tokens

end Layout

/-! ## Values as tokens -/

namespace Write

/-- A natural number. -/
def natural (n : Nat) : List Token := [.number (.ofNat n)]

/-- A text. -/
def text (content : String) : List Token := [.text (some content.toList)]

/-- Values with a comma between each two. -/
def separated : List (List Token) → List Token
  | [] => []
  | [value] => value
  | value :: rest => value ++ .comma :: separated rest

/-- An array of values. -/
def array (values : List (List Token)) : List Token :=
  .openArray :: separated values ++ [.closeArray]

/-- One member of an object. -/
def member (name : String) (value : List Token) : List Token :=
  text name ++ .colon :: value

/-- An object with these members. -/
def object (members : List (String × List Token)) : List Token :=
  .openObject :: separated (members.map fun (name, value) => member name value) ++ [.closeObject]

/-- Bytes, as an array of numbers. -/
def bytes (values : List UInt8) : List Token := array (values.map fun b => natural b.toNat)

end Write

end Airdrop.Json
