import Airdrop.Json.Token

/-!
# Json/Reader — typed values from tokens

A reader takes a value off the front of the tokens, from left to right, and **stops at the first
fault**.  Faults of form (a comma missing, a text where a number should be) carry no words; faults
of substance carry a `detail`.  A fault also says how many tokens were left unread, which gives its
place in the document.

Records are read from objects or from arrays: members in any order, unknown ones skipped, a known
one twice is a fault; elements in the order of declaration, all of them.
-/

namespace Airdrop.Json

/-- Why reading stopped. -/
structure Fault where
  /-- The words for a fault of substance. -/
  detail : Option String
  /-- How many tokens had not been read. -/
  unread : Nat
  deriving DecidableEq

/-- **Takes a value off the front of the tokens.** -/
abbrev Reader (α : Type) := StateT (List Token) (Except Fault) α

namespace Reader

variable {α β : Type}

/-- Stop, with words or without. -/
def stop (detail : Option String) : Reader α := fun ts => .error ⟨detail, ts.length⟩

/-- Stop because of the form. -/
def malformed : Reader α := stop none

/-- Stop because of the substance. -/
def reject (detail : String) : Reader α := stop (some detail)

/-- The next token. -/
def next : Reader Token := fun
  | [] => .error ⟨none, 0⟩
  | t :: ts => .ok (t, ts)

/-- A certain token. -/
def expect (token : Token) : Reader Unit := do
  if (← next) = token then return () else malformed

/-! ## Plain values -/

/-- An integer literal below `bound`. -/
def natural (bound : Nat) : Reader Nat := do
  match ← next with
  | .number numeral =>
    match numeral.natural? with
    | some n => if n < bound then return n else malformed
    | none => malformed
  | _ => malformed

/-- A 64-bit word. -/
def word : Reader UInt64 := UInt64.ofNat <$> natural UInt64.size

/-- A byte. -/
def byte : Reader UInt8 := UInt8.ofNat <$> natural 256

/-- A text. -/
def text : Reader String := do
  match ← next with
  | .text (some content) => return String.ofList content
  | _ => malformed

/-! ## Arrays -/

/-- The elements after those found (last one first), each behind a comma, up to the closing
bracket.  There are no more of them than tokens in `bound`. -/
def moreElements (read : Reader α) : (bound : List Token) → (found : List α) → Reader (List α)
  | [], _ => malformed
  | _ :: bound, found => do
    match ← next with
    | .closeArray => return found.reverse
    | .comma => moreElements read bound ((← read) :: found)
    | _ => malformed

/-- **An array** of values that are all read alike. -/
def array (read : Reader α) : Reader (List α) := do
  expect .openArray
  fun
    | .closeArray :: ts => .ok ([], ts)
    | ts => (do moreElements read ts [← read]) ts

/-! ## Skipping -/

/-- What may come next inside a value that is skipped. -/
inductive Place
  /-- A value. -/
  | value
  /-- A value, or the end of the array just begun. -/
  | firstElement
  /-- A key, or the end of the object just begun. -/
  | firstKey
  /-- A key. -/
  | key
  /-- The colon behind a key. -/
  | colon
  /-- A comma or the end of what encloses. -/
  | separator

/-- What encloses a place. -/
inductive Bracket
  | array
  | object

/-- The place after a whole value; none if nothing encloses it. -/
def Place.afterValue : List Bracket → Option Place
  | [] => none
  | _ => some .separator

/-- How much of a skipped value is looked at. -/
inductive Care
  /-- Only its form, however deep. -/
  | form
  /-- Its texts have to say something, its numbers to fit double precision, and at most `depth`
  brackets to be open at once. -/
  | content (depth : Nat)

/-- Whether a token that is a value by itself may be skipped. -/
def Care.admits : Care → Token → Bool
  | _, .truth _ => true
  | _, .null => true
  | .form, .text _ => true
  | .form, .number _ => true
  | .content _, .text characters => characters.isSome
  | .content _, .number numeral => !numeral.isTooLarge
  | _, _ => false

/-- Whether one more bracket may be opened. -/
def Care.admitsBracket : Care → List Bracket → Bool
  | .form, _ => true
  | .content depth, enclosing => enclosing.length < depth

/-- Read tokens until the value begun is whole: `place` says what may come next, `enclosing` which
brackets are open, the innermost first. -/
def skipFrom (care : Care) : (place : Place) → (enclosing : List Bracket) → List Token →
    Except Fault (Unit × List Token)
  | _, _, [] => .error ⟨none, 0⟩
  | .colon, enclosing, t :: ts =>
    if t = .colon then skipFrom care .value enclosing ts else .error ⟨none, ts.length⟩
  | .key, enclosing, t :: ts =>
    match t with
    | .text content =>
      if care.admits (.text content) then skipFrom care .colon enclosing ts
      else .error ⟨none, ts.length⟩
    | _ => .error ⟨none, ts.length⟩
  | .firstKey, enclosing, t :: ts =>
    match t with
    | .text content =>
      if care.admits (.text content) then skipFrom care .colon enclosing ts
      else .error ⟨none, ts.length⟩
    | .closeObject => leave enclosing.tail ts
    | _ => .error ⟨none, ts.length⟩
  | .separator, enclosing, t :: ts =>
    match t, enclosing with
    | .comma, .array :: _ => skipFrom care .value enclosing ts
    | .comma, .object :: _ => skipFrom care .key enclosing ts
    | .closeArray, .array :: outer => leave outer ts
    | .closeObject, .object :: outer => leave outer ts
    | _, _ => .error ⟨none, ts.length⟩
  | .value, enclosing, t :: ts => enter enclosing t ts
  | .firstElement, enclosing, t :: ts =>
    if t = .closeArray then leave enclosing.tail ts else enter enclosing t ts
where
  /-- A value has ended. -/
  leave (enclosing : List Bracket) (ts : List Token) : Except Fault (Unit × List Token) :=
    match Place.afterValue enclosing with
    | none => .ok ((), ts)
    | some place => skipFrom care place enclosing ts
  /-- A value begins. -/
  enter (enclosing : List Bracket) (t : Token) (ts : List Token) :
      Except Fault (Unit × List Token) :=
    match t with
    | .openArray =>
      if care.admitsBracket enclosing then skipFrom care .firstElement (.array :: enclosing) ts
      else .error ⟨none, ts.length⟩
    | .openObject =>
      if care.admitsBracket enclosing then skipFrom care .firstKey (.object :: enclosing) ts
      else .error ⟨none, ts.length⟩
    | _ => if care.admits t then leave enclosing ts else .error ⟨none, ts.length⟩

/-- **Skip a value**, whatever it is. -/
def skip (care : Care) : Reader Unit := skipFrom care .value []

/-! ## Records -/

/-- **A member of a record**, the record being put together in a `ρ`. -/
structure Member (ρ : Type) where
  /-- Its name in an object. -/
  name : String
  /-- Whether it has been read. -/
  isPresent : ρ → Bool
  /-- Read its value and put it into the record. -/
  read : ρ → Reader ρ
  /-- Whether the record can do without it. -/
  optional : Bool := false

variable {ρ : Type}

/-- A member that has to be there. -/
def required (name : String) (get : ρ → Option α) (put : ρ → α → ρ) (read : Reader α) :
    Member ρ where
  name := name
  isPresent r := (get r).isSome
  read r := put r <$> read

/-- The words for a member that is not there. -/
def missing (name : String) : String := "missing field `" ++ name ++ "`"

/-- The words for a member that is there twice. -/
def duplicate (name : String) : String := "duplicate field `" ++ name ++ "`"

/-- The first member, in the order of declaration, that a record lacks and needs. -/
def lacking (members : List (Member ρ)) (record : ρ) : Option String :=
  (members.find? fun m => !m.optional && !m.isPresent record).map Member.name

/-- The end of an object: nothing needed may be missing. -/
def finish (members : List (Member ρ)) (record : ρ) : Reader ρ :=
  match lacking members record with
  | some name => reject (missing name)
  | none => return record

/-- One member of an object, from its key on. -/
def readMember (members : List (Member ρ)) (record : ρ) : Reader ρ := do
  let key ← text
  match members.find? (·.name == key) with
  | none =>
    expect .colon
    skip .form
    return record
  | some member =>
    if member.isPresent record then reject (duplicate member.name)
    else
      expect .colon
      member.read record

/-- The members after those in `record`, each behind a comma, up to the closing brace.  There are
no more of them than tokens in `bound`. -/
def moreMembers (members : List (Member ρ)) : (bound : List Token) → (record : ρ) → Reader ρ
  | [], _ => malformed
  | _ :: bound, record => do
    match ← next with
    | .closeObject => finish members record
    | .comma => moreMembers members bound (← readMember members record)
    | _ => malformed

/-- A record in an object whose brace is read already. -/
def membersOf (members : List (Member ρ)) (start : ρ) : Reader ρ := fun
  | .closeObject :: ts => finish members start ts
  | ts => (do moreMembers members ts (← readMember members start)) ts

/-- A record in an array whose bracket is read already: a value for each member. -/
def elementsOf : (members : List (Member ρ)) → (record : ρ) → Reader ρ
  | [], record => do
    expect .closeArray
    return record
  | [member], record => do
    let record ← member.read record
    expect .closeArray
    return record
  | member :: rest, record => do
    let record ← member.read record
    expect .comma
    elementsOf rest record

/-- **A record**, in an object or in an array. -/
def record (members : List (Member ρ)) (start : ρ) : Reader ρ := do
  match ← next with
  | .openObject => membersOf members start
  | .openArray => elementsOf members start
  | _ => malformed

/-- Nothing more follows. -/
def done : Reader Unit := fun
  | [] => .ok ((), [])
  | _ :: ts => .error ⟨none, ts.length⟩

end Reader

/-! ## Documents -/

/-- **Why a document could not be read**, and where. -/
structure Failure where
  /-- The words for a fault of substance. -/
  detail : Option String
  /-- The line, from one, on which the last token read ends. -/
  line : Nat
  /-- The bytes of that line up to there. -/
  column : Nat
  deriving DecidableEq

/-- The words of a failure. -/
def Failure.message (f : Failure) : String :=
  f.detail.getD "malformed document" ++ " at line " ++ toString f.line ++ " column " ++
    toString f.column

/-- Line and column after some bytes. -/
def placeAfter (bytes : List UInt8) : Nat × Nat :=
  bytes.foldl (fun (line, column) (byte : UInt8) =>
    if byte = 0x0a then (line + 1, 0) else (line, column + 1)) (1, 0)

/-- The failure of a document at a fault. -/
def failureOf (document : List UInt8) (fault : Fault) : Failure :=
  let found := lexemes document
  let after := (found[found.length - fault.unread - 1]?.map Lexeme.after).getD document
  let (line, column) := placeAfter (document.take (document.length - after.length))
  ⟨fault.detail, line, column⟩

/-- **Read a whole document.** -/
def read {α : Type} (reader : Reader α) (document : List UInt8) : Except Failure α :=
  match (do let value ← reader; Reader.done; return value).run' (tokens document) with
  | .ok value => .ok value
  | .error fault => .error (failureOf document fault)

end Airdrop.Json
