import Airdrop.Log
import Airdrop.Verification.Check
import Airdrop.Verification.Config

/-!
# Verification/Journal — what happened when

A verification keeps a journal: every question asked and answered, every pause, every state of a
batch, each with its instant.  **Everything else that is told about a run is read off the journal**:
the log, the calls in order of time, how many questions were open at once.
-/

namespace Airdrop.Verification

/-- Where a batch stands. -/
inductive BatchState
  | pending
  | fetching
  | checked
  | failed
  deriving DecidableEq

/-- The state in words. -/
def BatchState.text : BatchState → String
  | .pending => "pending"
  | .fetching => "fetching"
  | .checked => "checked"
  | .failed => "failed"

/-- **Something that happened.**  Batches are counted from one. -/
inductive Event
  /-- A question was asked. -/
  | called (position : Nat) (address : Address)
  /-- It was answered. -/
  | answered (position : Nat) (outcome : Outcome)
  /-- It failed and will be repeated. -/
  | retrying (position : Nat) (address : Address) (attempt : Nat) (fault : ApiFault)
  /-- The pause before a batch begins. -/
  | waiting (batch : Nat)
  /-- A batch of some entries is next. -/
  | pending (batch size : Nat)
  /-- Its entries are being looked up. -/
  | fetching (batch : Nat)
  /-- All of them agree. -/
  | checked (batch : Nat)
  /-- One of them does not. -/
  | failed (batch : Nat) (error : VerificationError)
  /-- All batches are checked. -/
  | verified (addresses batches : Nat)
  deriving DecidableEq

/-- An event and its instant, in milliseconds. -/
structure Timed where
  instant : Nat
  event : Event
  deriving DecidableEq

/-! ## The log -/

/-- A batch and its state, behind a line. -/
def batchMark (batch : Nat) (state : BatchState) : String :=
  "batch=" ++ toString batch ++ " state=" ++ state.text

/-- The line of an event, if it has one; `span` stands between the level and the message, and
`batches` is the number of batches in all. -/
def Event.line? (config : Config) (span : String) (batches : Nat) : Event → Option String
  | .called _ _ => none
  | .answered _ _ => none
  | .retrying _ address attempt fault =>
    some (Log.warn (span ++ "attempt " ++ toString attempt ++ "/" ++ toString config.attempts ++
      " for " ++ address.text ++ " failed: " ++ fault.message))
  | .waiting batch =>
    some (Log.debug (span ++ "waiting " ++ durationText config.batchDelay ++ " before batch " ++
      toString batch ++ "/" ++ toString batches))
  | .pending batch size =>
    some (Log.info (span ++ toString size ++ " addresses " ++ batchMark batch .pending))
  | .fetching batch => some (Log.info (span ++ batchMark batch .fetching))
  | .checked batch => some (Log.info (span ++ batchMark batch .checked))
  | .failed batch error =>
    some (Log.warn (span ++ error.message ++ " " ++ batchMark batch .failed))
  | .verified addresses batches =>
    some (Log.info (span ++ "verified " ++ toString addresses ++ " addresses in " ++
      toString batches ++ " batches"))

/-- **The log of a journal.** -/
def logLines (config : Config) (span : String) (batches : Nat) (journal : List Timed) :
    List String :=
  journal.filterMap fun timed => timed.event.line? config span batches

/-- What stands before every line of a run over some addresses. -/
def spanOf (addresses : Nat) : String := Log.span "run" [("addresses", toString addresses)]

/-! ## Views -/

/-- The questions of a journal, with their instants. -/
def calls (journal : List Timed) : List (Nat × Address) :=
  journal.filterMap fun timed =>
    match timed.event with
    | .called _ address => some (timed.instant, address)
    | _ => none

/-- **The questions by time**, those of one instant by address. -/
def timeline (journal : List Timed) : List (Nat × Address) :=
  (calls journal).mergeSort fun a b => a.1 < b.1 || (a.1 == b.1 && a.2.before b.2)

/-- Questions open now, and the most so far, after one more event. -/
def countOpen (counts : Nat × Nat) (timed : Timed) : Nat × Nat :=
  match timed.event with
  | .called _ _ => (counts.1 + 1, max counts.2 (counts.1 + 1))
  | .answered _ _ => (counts.1 - 1, counts.2)
  | _ => counts

/-- **The most questions open at once.** -/
def peak (journal : List Timed) : Nat := (journal.foldl countOpen (0, 0)).2

end Airdrop.Verification
