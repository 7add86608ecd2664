import Airdrop.Text.Alphanumeric
import Airdrop.Text.Blank
import Airdrop.Text.Utf8

/-!
# Command/Environment — variables, and files of variables

A file of variables has lines `NAME=value`.  **A variable that is set stays as it is**, so the file
only fills in what is missing, and of two lines for one name the first counts.  The file is read up
to its first faulty line; a value with a null character in it is no fault of the line, but cannot be
set, and nothing goes on from there.

A value may be quoted (`'…'` takes everything as it stands, `"…"` knows escapes), may name other
variables (`$NAME`, `${NAME}`), and ends at a blank, behind which only a comment may follow.  Quotes
may hold line ends, so lines are joined (`joinLines`) before they are read.
-/

namespace Airdrop

/-- **Variables and their values**; the first value of a name counts. -/
abbrev Variables := List (String × String)

namespace Variables

/-- The value of a variable, if it is set. -/
def get? (environment : Variables) (name : String) : Option String := environment.lookup name

/-! ## Joining lines -/

/-- Where a line stands with its quotes. -/
inductive Quoting
  | outside
  /-- Outside, behind a blank. -/
  | blank
  | escape
  | weak
  | weakEscape
  | strong
  | strongEscape
  /-- In a comment, which takes the rest of the line. -/
  | comment
  deriving DecidableEq

/-- Where a line stands after one more character outside quotes. -/
def Quoting.open (c : Char) : Quoting :=
  if c = '\\' then .escape
  else if c = '"' then .weak
  else if c = '\'' then .strong
  else .outside

/-- Where a line stands after one more character. -/
def Quoting.after : Quoting → Char → Quoting
  | .outside, c =>
    if Text.isBlank c && c != '\n' && c != '\r' then .blank else .open c
  | .blank, c => if c = '#' then .comment else .open c
  | .escape, _ => .outside
  | .weak, c => if c = '\\' then .weakEscape else if c = '"' then .outside else .weak
  | .weakEscape, _ => .weak
  | .strong, c => if c = '\\' then .strongEscape else if c = '\'' then .outside else .strong
  | .strongEscape, _ => .strong
  | .comment, _ => .comment

/-- Read a line on; a comment is left out. -/
def scanLine (quoting : Quoting) : List Char → Quoting × List Char
  | [] => (quoting, [])
  | c :: rest =>
    match quoting.after c with
    | .comment => (.comment, [])
    | next =>
      let (last, kept) := scanLine next rest
      (last, c :: kept)

/-- A line without its end. -/
def withoutLineEnd (line : List Char) : List Char :=
  match line.reverse with
  | '\n' :: '\r' :: rest => rest.reverse
  | '\n' :: rest => rest.reverse
  | _ => line

/-- The lines of bytes, each with its end. -/
def byteLines (line : List UInt8) : List UInt8 → List (List UInt8)
  | [] => if line.isEmpty then [] else [line.reverse]
  | byte :: rest =>
    if byte = 0x0a then (byte :: line).reverse :: byteLines [] rest
    else byteLines (byte :: line) rest

/-- Whether a text begins, behind blanks, with a comment. -/
def isComment (text : List Char) : Bool := (text.dropWhile Text.isBlank).head? == some '#'

/-- **Join lines until no quote is open**; `none` stands for a line that is no text, or never ends.
`begun` is what a line has so far. -/
def joinLines (quoting : Quoting) (begun : List Char) :
    List (List UInt8) → List (Option (List Char))
  | [] => if quoting = .outside then [] else [none]
  | line :: rest =>
    match Text.Utf8.decode? line with
    | none => [none]
    | some text =>
      if isComment (begun ++ text) then joinLines .outside [] rest
      else match scanLine quoting text with
        | (.outside, kept) => some (withoutLineEnd (begun ++ kept)) :: joinLines .outside [] rest
        | (.comment, kept) => some (begun ++ kept) :: joinLines .outside [] rest
        | (next, kept) => joinLines next (begun ++ kept) rest

/-! ## Reading a line -/

/-- What the next character of a value is part of. -/
inductive Part
  /-- The value itself. -/
  | value
  /-- The value, behind a backslash. -/
  | escaped
  /-- Text between strong quotes. -/
  | strong
  /-- The name of a variable, backwards. -/
  | name (letters : List Char)
  /-- The name of a variable in braces, backwards. -/
  | braced (letters : List Char)
  /-- The blanks behind the value. -/
  | ended
  /-- A comment behind the blanks. -/
  | remark

/-- **A value being read.** -/
structure Reading where
  part : Part := .value
  /-- A weak quote is open. -/
  weak : Bool := false
  /-- What has been read, backwards. -/
  found : List Char := []

namespace Reading

/-- Go on with another part. -/
def goOn (r : Reading) (part : Part) : Reading := { r with part := part }

/-- Add text to the value and go on with it. -/
def add (r : Reading) (text : List Char) : Reading :=
  { r with part := .value, found := text.reverse ++ r.found }

/-- Add the value of the variable that some letters name, backwards; nothing if it is not set. -/
def addNamed (r : Reading) (environment : Variables) (letters : List Char) : Reading :=
  r.add ((environment.get? (String.ofList letters.reverse)).getD "").toList

/-- A character of a value behind a backslash. -/
def unescape? (c : Char) : Option Char :=
  if "\\'\"$ ".toList.contains c then some c else if c = 'n' then some '\n' else none

/-- One more character of the value itself. -/
def addChar (r : Reading) (c : Char) : Reading :=
  if c = '$' then r.goOn (.name [])
  else if c = '\\' then r.goOn .escaped
  else if c = '"' then { r with weak := !r.weak }
  else if r.weak then r.add [c]
  else if c = '\'' then r.goOn .strong
  else if c = ' ' || c = '\t' then r.goOn .ended
  else r.add [c]

/-- One more character behind a dollar sign and some letters. -/
def addToName (r : Reading) (environment : Variables) (letters : List Char) (c : Char) : Reading :=
  if Text.isAlphanumeric c then r.goOn (.name (c :: letters))
  else if c = '\x7b' && letters.isEmpty then r.goOn (.braced [])
  else if c = '$' then (r.addNamed environment letters).goOn (.name [])
  else (r.addNamed environment letters).add [c]

/-- **One more character**, unless it cannot stand there. -/
def step (environment : Variables) (r : Reading) (c : Char) : Option Reading :=
  match r.part with
  | .value => some (r.addChar c)
  | .escaped => (unescape? c).map fun meant => r.add [meant]
  | .strong => some (if c = '\'' then r.goOn .value else { r with found := c :: r.found })
  | .name letters => some (r.addToName environment letters c)
  | .braced letters =>
    some (if c = '\x7d' then r.addNamed environment letters else r.goOn (.braced (c :: letters)))
  | .ended =>
    if c = ' ' || c = '\t' then some r else if c = '#' then some (r.goOn .remark) else none
  | .remark => some r

/-- The value, if no quote or brace is open. -/
def finish (environment : Variables) (r : Reading) : Option (List Char) :=
  if r.weak then none
  else match r.part with
    | .strong => none
    | .braced _ => none
    | .name letters => some (r.addNamed environment letters).found.reverse
    | _ => some r.found.reverse

end Reading

/-- **Read a value.** -/
def readValue (environment : Variables) (text : List Char) : Option (List Char) := do
  (← text.foldlM (Reading.step environment) {}).finish environment

/-- A character of a name, after its first. -/
def isKeyChar (c : Char) : Bool := c.isAlphanum || c == '_' || c == '.'

/-- The name that a text begins with, and what follows it and its blanks. -/
def readKey (text : List Char) : Option (String × List Char) :=
  match text with
  | c :: _ =>
    if c.isAlpha || c == '_' then
      some (String.ofList (text.takeWhile isKeyChar),
        (text.dropWhile isKeyChar).dropWhile Text.isBlank)
    else none
  | [] => none

/-- The name and the text behind the equals sign; `export` may stand in front of the name. -/
def readName (text : List Char) : Option (String × List Char) := do
  let (key, rest) ← readKey text
  match rest with
  | '=' :: rest => some (key, rest)
  | _ =>
    if key = "export" then
      match ← readKey rest with
      | (key, '=' :: rest) => some (key, rest)
      | _ => none
    else none

/-- What a line says. -/
inductive Line
  /-- Nothing. -/
  | nothing
  /-- The value of a variable. -/
  | binding (name value : String)
  | faulty

/-- **Read a line.** -/
def readLine (environment : Variables) (line : List Char) : Line :=
  match Text.trim line with
  | [] => .nothing
  | '#' :: _ => .nothing
  | text =>
    match readName text with
    | none => .faulty
    | some (name, rest) =>
      match rest.dropWhile Text.isBlank with
      | [] => .binding name ""
      | '#' :: _ => .binding name ""
      | value =>
        match readValue environment value with
        | some value => .binding name (String.ofList value)
        | none => .faulty

/-- A variable and a value that it cannot have. -/
structure Unsettable where
  name : String
  value : String
  deriving DecidableEq

/-- Whether a variable can have a value. -/
def canHold (value : String) : Bool := !value.contains '\x00'

/-- Set what lines say, up to the first faulty one, unless it is set already. -/
def addLines (environment : Variables) :
    List (Option (List Char)) → Except Unsettable Variables
  | [] => .ok environment
  | none :: _ => .ok environment
  | some line :: rest =>
    match readLine environment line with
    | .nothing => addLines environment rest
    | .faulty => .ok environment
    | .binding name value =>
      if (environment.get? name).isSome then addLines environment rest
      else if !canHold value then .error ⟨name, value⟩
      else addLines (environment ++ [(name, value)]) rest

/-- **The variables, and those that a file fills in.** -/
def withFile (environment : Variables) (file : List UInt8) : Except Unsettable Variables :=
  addLines environment (joinLines .outside [] (byteLines [] (Text.Utf8.dropMark file)))

end Variables

end Airdrop
