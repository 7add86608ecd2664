import Airdrop.Cause
import Airdrop.Record

/-!
# Ledger/Error — why the ledger gave no answer
-/

namespace Airdrop

/-- **Why a question to the ledger failed.** -/
inductive LedgerError
  /-- There is no such account. -/
  | notFound (address : Address)
  /-- The account holds no such record. -/
  | undecodable (address : Address) (fault : DecodeFault)
  /-- The ledger could not be asked. -/
  | transport (cause : Cause)
  /-- A reading of many accounts gave more or fewer than asked for. -/
  | batchLength (requested returned : Nat)
  /-- More has been claimed from a distributor than it had. -/
  | inconsistent (address : Address) (claimed maxTotal : UInt64)
  /-- A number does not fit in 64 bits. -/
  | arithmetic
  /-- Something could not be written. -/
  | serialization (cause : Cause)
  deriving DecidableEq

namespace LedgerError

/-- **The error in words.** -/
def message : LedgerError → String
  | .notFound address => s!"Account {address} not found"
  | .undecodable address fault => s!"Failed to decode account {address}: " ++ fault.message
  | .transport cause => "Rpc Error: " ++ cause.message
  | .batchLength requested returned =>
    s!"Requested {requested} accounts but the rpc returned {returned}"
  | .inconsistent address claimed maxTotal =>
    s!"Distributor {address} is inconsistent: total_amount_claimed {claimed} exceeds " ++
      s!"max_total_claim {maxTotal}"
  | .arithmetic => "Arithmetic Error (overflow/underflow)"
  | .serialization cause => "Serialization Error: " ++ cause.message

/-- What lies behind the error, nearest first. -/
def behind : LedgerError → List String
  | .undecodable _ fault => [fault.message]
  | .transport cause => cause.message :: cause.behind
  | .serialization cause => cause.message :: cause.behind
  | _ => []

/-- Whether the account was simply not there. -/
def isNotFound : LedgerError → Bool
  | .notFound _ => true
  | _ => false

end LedgerError

end Airdrop
