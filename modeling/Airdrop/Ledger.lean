import Airdrop.Ledger.Error
import Airdrop.Log
import Airdrop.Stats
import Airdrop.Traced

/-!
# Ledger — reading accounts, one by one or many at once

A ledger is known by what reading it gives.  An `Inquiry` is a question that took some readings to
answer: it keeps **what was read and noted on the way, in order**, beside the answer, and it ends
with the first reading that fails.  An account without data counts as absent (`Account.isPresent`).
-/

namespace Airdrop

/-- **An account on the ledger.** -/
structure Account where
  /-- The program that it belongs to. -/
  owner : Address
  data : List UInt8
  deriving DecidableEq

/-- Whether there is an account, and it holds anything. -/
def Account.isPresent : Option Account → Bool
  | some account => !account.data.isEmpty
  | none => false

/-- **What a ledger answers.**  Reading many accounts need not agree with reading them one by one,
nor give one answer for each address. -/
structure Ledger where
  read : Address → Except LedgerError (Option Account)
  readMany : List Address → Except LedgerError (List (Option Account))

/-- **Something that happened during an inquiry.** -/
inductive LedgerEvent
  /-- One account was read. -/
  | read (address : Address)
  /-- Several accounts were read at once. -/
  | readMany (addresses : List Address)
  /-- A claim has to create the token account that it pays to. -/
  | creating (distributor claimant : Address) (amount : UInt64) (nodes : Nat) (account : Address)
  /-- The distributors asked for have been added up. -/
  | added (asked : Nat) (totals : Totals)
  deriving DecidableEq

/-- The line of an event, if it has one. -/
def LedgerEvent.line? : LedgerEvent → Option String
  | .read _ => none
  | .readMany _ => none
  | .creating distributor claimant amount nodes account =>
    some (Log.debug (Log.span "build_claim" [("distributor", distributor.text),
        ("claimant", claimant.text), ("amount_unlocked", toString amount),
        ("proof_len", toString nodes)] ++
      "creating token account " ++ account.text ++ " for " ++ claimant.text))
  | .added asked totals =>
    some (Log.info (Log.span "stats_for_many" [("count", toString asked)] ++
      toString totals.distributors.length ++ " distributors: claimed " ++
      toString totals.usersClaimed ++ " of " ++ toString totals.users ++ " users"))

/-- **A question to the ledger and what came of it.** -/
abbrev Inquiry := Traced LedgerEvent LedgerError

/-- The lines noted during an inquiry. -/
def Inquiry.lines {α : Type} (q : Inquiry α) : List String :=
  q.events.filterMap LedgerEvent.line?

namespace Ledger

/-- Read an account. -/
def account (ledger : Ledger) (address : Address) : Inquiry (Option Account) :=
  ⟨[.read address], ledger.read address⟩

/-- Read several accounts at once. -/
def accounts (ledger : Ledger) (addresses : List Address) : Inquiry (List (Option Account)) :=
  ⟨[.readMany addresses], ledger.readMany addresses⟩

end Ledger

end Airdrop
