import Airdrop.Command.Run

/-!
# Command/Program — from words to an exit code

The exit code is 0 if the command was carried out, 1 if it failed, and **2 if the words are no
command line**, in which case nothing was done at all.  It is 101 if not even the words were read,
because a variable could not be set.  What was printed before a failure stays printed.
-/

namespace Airdrop

/-- **How a run of the program ends.** -/
structure Ending where
  code : UInt32
  /-- What it has printed. -/
  output : String
  /-- What it has to say about its failure. -/
  complaint : String
  deriving DecidableEq

namespace Ending

/-- Lines as text. -/
def textOf (lines : List String) : String := String.join (lines.map (· ++ "\n"))

/-- The ending of a session. -/
def ofSession (session : Session Unit) : Ending :=
  let output := textOf session.printed
  match session.outcome with
  | .ok () => ⟨0, output, ""⟩
  | .error cause => ⟨1, output, cause.report ++ "\n"⟩

/-- How the program is used. -/
def usage : String :=
  "Usage: cli [OPTIONS] <COMMAND>\n\nCommands:\n" ++
    textOf (Invocation.forms.map fun form => "  " ++ form.name ++
      String.join (form.options.map fun option => " [--" ++ option.name ++ " <VALUE>]")) ++
    "\nOptions:\n" ++
    textOf (Invocation.ownOptions.map fun option => "  --" ++ option.name ++ " <VALUE>")

/-- The ending when the words are no command line. -/
def ofMisuse : Misuse → Ending
  | .help => ⟨0, usage, ""⟩
  | .version => ⟨0, "0.1.0\n", ""⟩
  | misuse => ⟨2, "", "error: " ++ misuse.message ++ "\n\n" ++ usage⟩

/-- The ending when a variable cannot be set. -/
def ofUnsettable (v : Variables.Unsettable) : Ending :=
  ⟨101, "", "failed to set the variable " ++ v.name ++ " to " ++ Text.quote v.value ++ "\n"⟩

end Ending

namespace World

variable {σ : Type}

/-- The file that fills in variables. -/
def variablesFile : String := ".env"

/-- The variables, with those of the file if there is one. -/
def allVariables (w : World σ) (environment : Variables) :
    Except Variables.Unsettable Variables :=
  match w.files.readFile variablesFile with
  | .ok file => environment.withFile file
  | .error _ => .ok environment

/-- **Run the program.** -/
def program (w : World σ) (environment : Variables) (words : List String) : Ending :=
  match w.allVariables environment with
  | .error unsettable => .ofUnsettable unsettable
  | .ok all =>
    match Invocation.ofWords all words with
    | .error misuse => .ofMisuse misuse
    | .ok invocation => .ofSession (w.run invocation)

end World

end Airdrop
