import Airdrop.Allocation
import Airdrop.ProofStore
import Airdrop.Verification.Error

/-!
# Verification/Check — one claim against what it should be

The API's claim has to agree with the allocation list and, if there is one, with the proof store:
**the amount of the list, then the store's entry, its amount, its proof**, the first disagreement
being the one that counts.
-/

namespace Airdrop

/-- **Where two proofs part**: the first index at which they differ, or at which just one of them
has ended. -/
def firstMismatch? : (expected actual : List Digest) → Option Nat
  | [], [] => none
  | [], _ :: _ => some 0
  | _ :: _, [] => some 0
  | e :: expected, a :: actual =>
    if e = a then (firstMismatch? expected actual).map (· + 1) else some 0

/-- A claim against the proof store. -/
def checkStored (address : Address) (claim : Claim) (store : ProofStore) :
    Except VerificationError Unit :=
  match store.get? address with
  | none => .error (.missing address)
  | some stored =>
    if stored.amount ≠ claim.amount then
      .error (.amount address .store stored.amount claim.amount)
    else match firstMismatch? stored.proof claim.proof with
      | some index => .error (.proof address index)
      | none => .ok ()

/-- **A claim against the allocation list and the proof store, if there is one.** -/
def checkClaim (entry : Allocation) (claim : Claim) (store : Option ProofStore) :
    Except VerificationError Unit :=
  if claim.amount ≠ entry.amount then
    .error (.amount entry.address .list entry.amount claim.amount)
  else match store with
    | none => .ok ()
    | some store => checkStored entry.address claim store

end Airdrop
