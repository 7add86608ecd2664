import Airdrop.Record

/-!
# Record/ClaimStatus — the account that remembers a claim

It is created by the claim itself, so **its existence says that the claimant has claimed**.
-/

namespace Airdrop

open LittleEndian

/-- **What a claimant has claimed.** -/
structure ClaimStatus where
  claimant : Address := default
  /-- What unlocks over time. -/
  locked : UInt64 := 0
  /-- How much of that has been withdrawn. -/
  withdrawn : UInt64 := 0
  /-- What was paid at once. -/
  unlocked : UInt64 := 0
  closable : Bool := false
  admin : Address := default
  deriving DecidableEq

namespace ClaimStatus

/-- The bytes of each field, in order. -/
def fields (s : ClaimStatus) : List (List UInt8) := [
  s.claimant.bytes, ofWord s.locked, ofWord s.withdrawn, ofWord s.unlocked,
  Take.ofBool s.closable, s.admin.bytes]

/-- Take the fields, in order. -/
def take : Take ClaimStatus := do
  return {
    claimant := ← Take.address
    locked := ← Take.word
    withdrawn := ← Take.word
    unlocked := ← Take.word
    closable := ← Take.bool
    admin := ← Take.address }

instance : Record ClaimStatus where
  tag := ⟨[22, 183, 249, 157, 247, 95, 150, 96], rfl⟩
  bodyLength := 89
  fields := fields
  length_fields s := by
    simp [fields, ofWord, Take.ofBool, Address.bytes, Octets.length_toList]
  take := take

end ClaimStatus

end Airdrop
