import Airdrop.Ledger.Error
import Airdrop.Record.Distributor

/-!
# Stats — how far distributors have got

`Totals.ofList` adds the stats of several distributors up.  **Every sum is exact or there are no
totals at all.**
-/

namespace Airdrop

/-- **How far one distributor has got.** -/
structure Progress where
  address : Address
  claimed : UInt64
  remaining : UInt64
  users : UInt64
  usersClaimed : UInt64
  deriving DecidableEq

/-- **How far several distributors have got together**, and each of them. -/
structure Totals where
  claimed : UInt64
  remaining : UInt64
  users : UInt64
  usersClaimed : UInt64
  distributors : List Progress
  deriving DecidableEq

/-- The progress of a distributor, unless more has been claimed than it had. -/
def Progress.ofDistributor (address : Address) (d : Distributor) : Except LedgerError Progress :=
  match d.remaining? with
  | none => .error (.inconsistent address d.claimedTotal d.maxTotal)
  | some remaining => .ok ⟨address, d.claimedTotal, remaining, d.maxNodes, d.claimedNodes⟩

namespace Totals

/-- The sum of one number of each distributor. -/
def sum (part : Progress → UInt64) (list : List Progress) : Except LedgerError UInt64 :=
  match Word.sum? (list.map part) with
  | some total => .ok total
  | none => .error .arithmetic

/-- **The totals of a list.** -/
def ofList (list : List Progress) : Except LedgerError Totals := do
  let claimed ← sum Progress.claimed list
  let remaining ← sum Progress.remaining list
  let users ← sum Progress.users list
  let usersClaimed ← sum Progress.usersClaimed list
  return ⟨claimed, remaining, users, usersClaimed, list⟩

end Totals

end Airdrop
