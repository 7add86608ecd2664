import Airdrop.ClaimApi

/-!
# Verification/Error — what ends a verification
-/

namespace Airdrop

/-- What the API's amount was compared with. -/
inductive AmountSource
  /-- The allocation list. -/
  | list
  /-- The proof store. -/
  | store
  deriving DecidableEq

/-- The source in words. -/
def AmountSource.text : AmountSource → String
  | .list => "csv"
  | .store => "proof store"

/-- **A disagreement, or a question without an answer.** -/
inductive VerificationError
  /-- The API served another amount. -/
  | amount (address : Address) (source : AmountSource) (expected actual : UInt64)
  /-- The proof store does not know the address. -/
  | missing (address : Address)
  /-- The API served another proof, from this node on. -/
  | proof (address : Address) (index : Nat)
  /-- The API gave no claim. -/
  | lookup (address : Address) (attempts : Nat) (fault : ApiFault)
  deriving DecidableEq

namespace VerificationError

/-- The address that the error is about. -/
def address : VerificationError → Address
  | .amount address _ _ _ => address
  | .missing address => address
  | .proof address _ => address
  | .lookup address _ _ => address

/-- **The error in words.** -/
def message : VerificationError → String
  | .amount address source expected actual =>
    s!"Amount mismatch for {address}: {source.text} has {expected}, api returned {actual}"
  | .missing address => s!"{address} not found in proof store"
  | .proof address index => s!"Proof mismatch for {address} at index {index}"
  | .lookup address attempts fault =>
    s!"Claim API request for {address} failed after {attempts} attempt(s): " ++ fault.message

/-- What lies behind the error, nearest first. -/
def behind : VerificationError → List String
  | .lookup _ _ fault => fault.message :: fault.behind
  | _ => []

end VerificationError

end Airdrop
