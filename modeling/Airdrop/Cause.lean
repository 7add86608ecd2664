/-!
# Cause — failures outside the library, in words

A failure has a reason, the reason another, and so on.  Some speakers tell **each reason together
with all that lie behind it** (`Cause.telling`), others one at a time (`Cause.terse`).
-/

namespace Airdrop

/-- A failure outside the library, in words, with the failures behind it. -/
structure Cause where
  message : String
  /-- What lies behind it, nearest first. -/
  behind : List String := []
  deriving DecidableEq

namespace Cause

/-- A failure and its reasons, each told with all that lie behind it. -/
def telling (failure : String) : List String → Cause
  | [] => ⟨failure, []⟩
  | reason :: more =>
    let rest := telling reason more
    ⟨failure ++ ": " ++ rest.message, rest.message :: rest.behind⟩

/-- A failure and its reasons, each told by itself. -/
def terse (failure : String) (reasons : List String) : Cause := ⟨failure, reasons⟩

/-! ## Reports -/

/-- A reason among others, with its number; further lines of it are indented alike. -/
def numbered (number : Nat) (reason : String) : String :=
  let digits := toString number
  "".pushn ' ' (5 - digits.length) ++ digits ++ ": " ++
    "\n       ".intercalate (reason.splitOn "\n")

/-- **A failure for people to read**: what it is, and what lies behind it.  Reasons are numbered if
there are several. -/
def report (cause : Cause) : String :=
  "Error: " ++ cause.message ++ match cause.behind with
    | [] => ""
    | [reason] => "\n\nCaused by:\n    " ++ "\n    ".intercalate (reason.splitOn "\n")
    | reasons => "\n\nCaused by:\n" ++
      "\n".intercalate (reasons.mapIdx fun number reason => numbered number reason)

end Cause

end Airdrop
