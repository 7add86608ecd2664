import Airdrop.Ledger
import Std.Data.HashMap

/-!
# Ledger/Snapshot — a ledger kept in memory

`Snapshot.ledger` reads from a table of accounts.  **Reading many is reading each**, so the two ways
of reading agree.  A `Disturbance` makes a ledger fail, or answer a reading of many accounts with
too few or too many.
-/

namespace Airdrop

/-- **The accounts of a ledger at one moment.** -/
structure Snapshot where
  accounts : Std.HashMap Address Account

namespace Snapshot

/-- The snapshot without accounts. -/
def empty : Snapshot := ⟨∅⟩

/-- The account at an address. -/
def get? (s : Snapshot) (address : Address) : Option Account := s.accounts[address]?

/-- Put an account at an address, in place of what was there. -/
def insert (s : Snapshot) (address : Address) (account : Account) : Snapshot :=
  ⟨s.accounts.insert address account⟩

/-- Take the account at an address away. -/
def erase (s : Snapshot) (address : Address) : Snapshot := ⟨s.accounts.erase address⟩

/-- The number of accounts. -/
def size (s : Snapshot) : Nat := s.accounts.size

/-- **The ledger of a snapshot.** -/
def ledger (s : Snapshot) : Ledger where
  read address := .ok (s.get? address)
  readMany addresses := .ok (addresses.map s.get?)

end Snapshot

/-- What may be wrong with a ledger. -/
inductive Disturbance
  /-- Every reading fails. -/
  | failing (error : LedgerError)
  /-- A reading of many accounts loses its last answer. -/
  | short
  /-- A reading of many accounts gets one answer more. -/
  | long
  deriving DecidableEq

/-- A ledger with something wrong. -/
def Disturbance.apply (ledger : Ledger) : Disturbance → Ledger
  | .failing error => ⟨fun _ => .error error, fun _ => .error error⟩
  | .short => { ledger with readMany := fun addresses => (ledger.readMany addresses).map .dropLast }
  | .long => { ledger with
      readMany := fun addresses => (ledger.readMany addresses).map (· ++ [none]) }

end Airdrop
