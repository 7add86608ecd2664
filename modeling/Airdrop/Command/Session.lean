import Airdrop.Ledger.Node
import Airdrop.Verification.Run

/-!
# Command/Session — what a run of the program does, seen from outside

A session prints lines and asks the claim API and the ledger node, until it is done or something
fails.  **Every question is an event of its trace**, so what was asked, and in which order, can be
told afterwards; the printed lines are events like any other.
-/

namespace Airdrop

/-- **One thing that a session does.** -/
inductive Deed
  | printed (line : String)
  /-- The claim API was asked for an address, at an instant. -/
  | called (address : Address) (instant : Nat)
  /-- The ledger was read, or something noted about it. -/
  | ledger (event : LedgerEvent)
  /-- The current slot was asked for. -/
  | slot
  /-- A recent block was asked for. -/
  | blockhash
  /-- A transaction was tried out. -/
  | simulated (instructions : List Instruction)
  /-- A transaction was sent. -/
  | sent (instructions : List Instruction)
  deriving DecidableEq

/-- **A session and how it ended.** -/
abbrev Session := Traced Deed Cause

/-- The error as a failure. -/
def LedgerError.cause (e : LedgerError) : Cause := ⟨e.message, e.behind⟩

/-- The fault as a failure. -/
def ApiFault.cause (f : ApiFault) : Cause := ⟨f.message, f.behind⟩

/-- The error as a failure. -/
def VerificationError.cause (e : VerificationError) : Cause := ⟨e.message, e.behind⟩

namespace Session

variable {α ε σ : Type}

/-- Print a line. -/
def print (line : String) : Session Unit := .note (.printed line)

/-- Fail, in words. -/
def fail (message : String) : Session α := .ofExcept (.error ⟨message, []⟩)

/-- A result whose errors are failures. -/
def settle (cause : ε → Cause) (result : Except ε α) : Session α :=
  .ofExcept (result.mapError cause)

/-- **Ask the ledger.** -/
def inquire (q : Inquiry α) : Session α :=
  ⟨q.events.map .ledger, q.outcome.mapError LedgerError.cause⟩

/-- The questions of a journal. -/
def callsOf (journal : List Verification.Timed) : List Deed :=
  (Verification.calls journal).map fun (instant, address) => .called address instant

/-- **The claim that a lookup has found.** -/
def found (lookup : Verification.Lookup σ) : Session Claim :=
  ⟨callsOf lookup.journal, lookup.result.mapError VerificationError.cause⟩

/-- **What a verification has found.** -/
def verified (run : Verification.Run σ) : Session Verification.Report :=
  ⟨callsOf run.journal, run.result.mapError VerificationError.cause⟩

/-- Ask for the current slot. -/
def slot (node : LedgerNode) : Session UInt64 := ⟨[.slot], node.slot⟩

/-- Ask for a recent block. -/
def blockhash (node : LedgerNode) : Session Digest := ⟨[.blockhash], node.blockhash⟩

/-- Try a transaction out. -/
def simulate (node : LedgerNode) (instructions : List Instruction) (block : Digest) :
    Session Simulation :=
  ⟨[.simulated instructions], node.simulate instructions block⟩

/-- Send a transaction. -/
def send (node : LedgerNode) (instructions : List Instruction) (block : Digest) :
    Session String :=
  ⟨[.sent instructions], node.send instructions block⟩

/-- Print several lines. -/
def printAll (lines : List String) : Session Unit := ⟨lines.map .printed, .ok ()⟩

/-- The lines that a session has printed. -/
def printed (s : Session α) : List String :=
  s.events.filterMap fun
    | .printed line => some line
    | _ => none

end Session

end Airdrop
