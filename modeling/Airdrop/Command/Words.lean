import Airdrop.Command.Environment
import Airdrop.Text.Split

/-!
# Command/Words — options and their values

An option is written `--name value` or `--name=value`, **at most once**, and its value is read where
it stands, so that a bad one counts before all that follows.  A word that begins with a dash is no
value of its own, a lone dash is.  Two dashes by themselves end the options.  What is not given may
be set in the environment under the option's name in capitals.
-/

namespace Airdrop

/-- **Why words are no command line.** -/
inductive Misuse
  /-- How to use the program was asked for. -/
  | help
  /-- Its version was asked for. -/
  | version
  | unknownWord (word : String)
  | missingValue (option : String)
  | repeated (option : String)
  | missingCommand
  | missingOption (option : String)
  | badValue (option value : String)
  /-- Just one of two options can be given. -/
  | exclusive (one other : String)
  deriving DecidableEq

/-- The misuse in words. -/
def Misuse.message : Misuse → String
  | .help => "help was asked for"
  | .version => "the version was asked for"
  | .unknownWord word => "unexpected argument '" ++ word ++ "'"
  | .missingValue option => "a value is required for '--" ++ option ++ "'"
  | .repeated option => "'--" ++ option ++ "' cannot be used multiple times"
  | .missingCommand => "a command is required"
  | .missingOption option => "'--" ++ option ++ "' is required"
  | .badValue option value => "invalid value '" ++ value ++ "' for '--" ++ option ++ "'"
  | .exclusive one other => "'--" ++ one ++ "' cannot be used with '--" ++ other ++ "'"

/-- What one word is. -/
inductive WordKind
  /-- An option, perhaps with its value. -/
  | option (name : String) (value : Option String)
  /-- A dash and more, but no option. -/
  | dashed
  /-- Two dashes: no option follows. -/
  | stop
  | plain
  deriving DecidableEq

/-- **What a word is.** -/
def WordKind.ofText (text : String) : WordKind :=
  match text.toList with
  | ['-'] => .plain
  | ['-', '-'] => .stop
  | '-' :: '-' :: rest =>
    let (name, value) := Text.Split.atFirst '=' rest
    .option (String.ofList name) (value.map String.ofList)
  | '-' :: _ => .dashed
  | _ => .plain

/-- Whether a word by itself can be a value. -/
def WordKind.isValue (text : String) : Bool := WordKind.ofText text == .plain

/-- **An option**: its name, and how its value is read. -/
structure Setting (α : Type) where
  name : String
  read : String → Option α

/-- An option that may be given, and the values it takes. -/
structure Known where
  name : String
  takes : String → Bool

/-- The option, which takes what can be read. -/
def Setting.known {α : Type} (s : Setting α) : Known := ⟨s.name, fun text => (s.read text).isSome⟩

/-- **The values of options.** -/
abbrev Options := List (String × String)

namespace Options

/-- What is asked for by a word that is no option with a value; `versioned` says that the version
may be.  Behind the letter that asks, nothing counts. -/
def asked (versioned : Bool) (word : String) : Misuse :=
  if word = "--help" || word.startsWith "-h" then .help
  else if versioned && (word = "--version" || word.startsWith "-V") then .version
  else .unknownWord word

/-- Add the value of an option, which is given once and takes the value. -/
def add (given : Options) (option : Known) (value : String) : Except Misuse Options :=
  if (given.lookup option.name).isSome then .error (.repeated option.name)
  else if !option.takes value then .error (.badValue option.name value)
  else .ok ((option.name, value) :: given)

/-- **Read options** up to the first word that is none; `given` are those read before. -/
def read (versioned : Bool) (known : List Known) (given : Options) :
    List String → Except Misuse (Options × List String)
  | [] => .ok (given, [])
  | word :: rest =>
    match WordKind.ofText word with
    | .plain => .ok (given, word :: rest)
    | .dashed => .error (asked versioned word)
    | .stop => match rest with
      | [] => .ok (given, [])
      | word :: _ => .error (.unknownWord word)
    | .option name attached =>
      match known.find? (·.name == name) with
      | none => .error (asked versioned word)
      | some option =>
        match attached, rest with
        | some value, rest => do read versioned known (← given.add option value) rest
        | none, [] => .error (.missingValue name)
        | none, value :: rest => do
          if !WordKind.isValue value then throw (.missingValue name)
          read versioned known (← given.add option value) rest

end Options

/-- The name in the environment of an option: capitals, and underscores for dashes. -/
def variableName (option : String) : String :=
  String.ofList (option.toList.map fun c => if c = '-' then '_' else c.toUpper)

/-- **Where values are looked for**: first what was given, then the environment. -/
structure Values where
  options : Options
  environment : Variables

namespace Values

variable {α : Type}

/-- The text of an option. -/
def text? (v : Values) (option : String) : Option String :=
  match v.options.lookup option with
  | some value => some value
  | none => v.environment.get? (variableName option)

/-- The value of an option, if there is one. -/
def optional (v : Values) (s : Setting α) : Except Misuse (Option α) :=
  match v.text? s.name with
  | none => .ok none
  | some text =>
    match s.read text with
    | some value => .ok (some value)
    | none => .error (.badValue s.name text)

/-- The value of an option, or another. -/
def orElse (v : Values) (s : Setting α) (default : α) : Except Misuse α := do
  return (← v.optional s).getD default

/-- The value of an option that has to be there. -/
def required (v : Values) (s : Setting α) : Except Misuse α := do
  match ← v.optional s with
  | some value => return value
  | none => throw (.missingOption s.name)

end Values

end Airdrop
