import Airdrop.Ledger.Error
import Airdrop.Record.ClaimStatus
import Airdrop.Word

/-!
# Vesting — the locked part of a claim unlocks over time

Between the start and the end of the window the unlocked amount grows in proportion to the time
passed, **rounded down**; before it is zero, after it everything.  The only failure is a window
longer than `2 ^ 63 - 1`, and that only while it is open.
-/

namespace Airdrop.ClaimStatus

/-- The longest window. -/
def maxWindow : Int := Int64.maxValue.toInt

/-- **How much of the locked amount is unlocked at a time.** -/
def unlockedAt (s : ClaimStatus) (now start stop : Int64) : Except LedgerError UInt64 :=
  if now < start then .ok 0
  else if stop ≤ now then .ok s.locked
  else
    let passed := now.toInt - start.toInt
    let window := stop.toInt - start.toInt
    if maxWindow < window then .error .arithmetic
    else .ok (.ofNat (passed.toNat * s.locked.toNat / window.toNat))

/-- **How much can be withdrawn at a time**: what is unlocked, less what has been withdrawn. -/
def withdrawableAt (s : ClaimStatus) (now start stop : Int64) : Except LedgerError UInt64 := do
  let unlocked ← s.unlockedAt now start stop
  match Word.sub? unlocked s.withdrawn with
  | some amount => return amount
  | none => throw .arithmetic

end Airdrop.ClaimStatus
