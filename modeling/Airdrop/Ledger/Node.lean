import Airdrop.Instruction
import Airdrop.Ledger
import Airdrop.Net.Web

/-!
# Ledger/Node — the computer that speaks for the ledger

A node reads accounts, knows the current slot and a recent block, and takes transactions, to try
them out or to carry them out.  A transaction is known by its instructions and the block it names.
-/

namespace Airdrop

open Net

/-- What trying a transaction out has shown. -/
structure Simulation where
  logs : List String
  /-- The computing used. -/
  units : Option UInt64
  /-- Why it would fail. -/
  error : Option String
  deriving DecidableEq

/-- **A ledger node.** -/
structure LedgerNode where
  ledger : Ledger
  slot : Except Cause UInt64
  blockhash : Except Cause Digest
  simulate : List Instruction → Digest → Except Cause Simulation
  /-- Carry a transaction out; its signature is the answer. -/
  send : List Instruction → Digest → Except Cause String

namespace LedgerNode

/-- Why a request to a URL fails where nothing can be reached. -/
def failure (url : String) : Cause :=
  match Request.read url with
  | .error fault => Cause.terse fault.message fault.behind
  | .ok url => Cause.terse ("error sending request for url (" ++ url.text ++ ")")
      ["client error (Connect)", "tcp connect error", "Network is unreachable (os error 101)"]

/-- A failure that is told again by those who pass it on. -/
def passedOn (cause : Cause) : Cause := ⟨cause.message, cause.message :: cause.behind⟩

/-- The failure to read one account, which hides what lies behind it. -/
def accountFailure (cause : Cause) (address : Address) : Cause :=
  passedOn ⟨"AccountNotFound: pubkey=" ++ address.text ++ ": " ++ cause.message, []⟩

/-- **The node at a URL, where nothing can be reached.** -/
def unreachable (url : String) : LedgerNode :=
  let cause := passedOn (failure url)
  { ledger := {
      read := fun address => .error (.transport (accountFailure (failure url) address))
      readMany := fun _ => .error (.transport cause) }
    slot := .error cause
    blockhash := .error cause
    simulate := fun _ _ => .error cause
    send := fun _ _ => .error cause }

end LedgerNode

end Airdrop
