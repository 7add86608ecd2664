import Airdrop.Instruction
import Airdrop.Ledger
import Airdrop.Record.ClaimStatus
import Airdrop.Record.Distributor

/-!
# Deployment — a distributor program on a ledger, and what can be asked of it

Every answer comes from accounts read on the way.  Two rules hold throughout: **an account counts
only if the program owns it and its bytes decode**, and a claim status is there as soon as its
account holds anything (`Deployment.hasClaimed` does not look into it).

Claims go by two derived addresses, that of the claim status and that of the token account.  Where
one of them cannot be derived, a client stops; here it goes on with an address of zeros.
-/

namespace Airdrop

/-- **A distributor program and the ledger it runs on.** -/
structure Deployment where
  program : Address
  ledger : Ledger

namespace Deployment

/-! ## Distributors -/

/-- The record of an account, which has to belong to the program. -/
def decode (ρ : Type) [Record ρ] (d : Deployment) (address : Address) (account : Account) :
    Except LedgerError ρ :=
  match Record.decodeOwned ρ d.program account.owner account.data with
  | .ok record => .ok record
  | .error fault => .error (.undecodable address fault)

/-- The distributor of an account that was read, which has to be there. -/
def distributorOf (d : Deployment) (address : Address) :
    Option Account → Except LedgerError Distributor
  | none => .error (.notFound address)
  | some account => d.decode Distributor address account

/-- **The distributor at an address.** -/
def distributor (d : Deployment) (address : Address) : Inquiry Distributor := do
  .ofExcept (d.distributorOf address (← d.ledger.account address))

/-- The distributor of an account that was read, if it is there. -/
def distributorOf? (d : Deployment) (address : Address) :
    Option Account → Except LedgerError (Option Distributor)
  | none => .ok none
  | some account => (d.decode Distributor address account).map some

/-- Accounts that were read, each beside the address it was read for. -/
def paired (addresses : List Address) (accounts : List (Option Account)) :
    Except LedgerError (List (Address × Option Account)) :=
  if accounts.length = addresses.length then .ok (addresses.zip accounts)
  else .error (.batchLength addresses.length accounts.length)

/-- **The distributors at some addresses**, read at once.  One may be missing; one that is there
has to be a distributor. -/
def distributors (d : Deployment) (addresses : List Address) :
    Inquiry (List (Option Distributor)) := do
  let accounts ← d.ledger.accounts addresses
  .ofExcept do
    (← paired addresses accounts).mapM fun (address, account) => d.distributorOf? address account

/-- **Whether claims are open at a slot.** -/
def isClaimable (d : Deployment) (distributor : Address) (slot : UInt64) : Inquiry Bool := do
  return (← d.distributor distributor).isClaimableAt slot

/-- **How far a distributor has got.** -/
def progress (d : Deployment) (distributor : Address) : Inquiry Progress := do
  .ofExcept (Progress.ofDistributor distributor (← d.distributor distributor))

/-- The progress of a distributor that has to be there. -/
def progressOf (address : Address) : Option Distributor → Except LedgerError Progress
  | none => .error (.notFound address)
  | some distributor => Progress.ofDistributor address distributor

/-- **How far some distributors have got together**; all of them have to be there. -/
def totals (d : Deployment) (addresses : List Address) : Inquiry Totals := do
  let found ← d.distributors addresses
  let totals ← .ofExcept do
    Totals.ofList (← (addresses.zip found).mapM fun (address, found) => progressOf address found)
  .note (.added addresses.length totals)
  return totals

/-! ## Claims -/

/-- The account that remembers the claim of a claimant; zeros if its address cannot be derived. -/
def claimAccount (d : Deployment) (claimant distributor : Address) : Address :=
  Address.claimStatus d.program claimant distributor

/-- **Whether a claimant has claimed.** -/
def hasClaimed (d : Deployment) (claimant distributor : Address) : Inquiry Bool := do
  return Account.isPresent (← d.ledger.account (d.claimAccount claimant distributor))

/-- The claim status of an account that was read, if it holds anything. -/
def claimStatusOf (d : Deployment) (address : Address) :
    Option Account → Except LedgerError (Option ClaimStatus)
  | none => .ok none
  | some account =>
    if account.data.isEmpty then .ok none
    else (d.decode ClaimStatus address account).map some

/-- **What a claimant has claimed**, if anything. -/
def claimStatus (d : Deployment) (claimant distributor : Address) :
    Inquiry (Option ClaimStatus) := do
  let address := d.claimAccount claimant distributor
  .ofExcept (d.claimStatusOf address (← d.ledger.account address))

/-- The accounts of a claim from a distributor. -/
def claimRoles (d : Deployment) (distributor claimant : Address) (record : Distributor) :
    Role → Address
  | .distributor => distributor
  | .claimStatus => d.claimAccount claimant distributor
  | .source => record.tokenVault
  | .destination => Address.tokenAccount claimant record.mint
  | .claimant => claimant
  | .tokenProgram => Address.tokenProgram
  | .systemProgram => Address.systemProgram
  | .admin => record.admin
  | .newAdmin => record.admin
  | .tokenVault => record.tokenVault
  | .remainder => record.clawbackReceiver

/-- The instruction that claims an amount, all of it at once. -/
def claimInstruction (d : Deployment) (distributor claimant : Address) (record : Distributor)
    (amount : UInt64) (proof : List Digest) : Except LedgerError Instruction :=
  match (Action.newClaim amount 0 proof).instruction d.program
      (d.claimRoles distributor claimant record) with
  | .ok instruction => .ok instruction
  | .error _ => .error (.serialization ⟨"invalid data", []⟩)

/-- **The instructions with which a claimant claims an amount.**  A token account that is not there
yet is created first, at the claimant's cost. -/
def claimInstructions (d : Deployment) (distributor claimant : Address) (amount : UInt64)
    (proof : List Digest) : Inquiry (List Instruction) := do
  let record ← d.distributor distributor
  let account := Address.tokenAccount claimant record.mint
  let held ← d.ledger.account account
  let claim := d.claimInstruction distributor claimant record amount proof
  if Account.isPresent held then return [← .ofExcept claim]
  else
    .note (.creating distributor claimant amount proof.length account)
    return [.createTokenAccount claimant record.mint, ← .ofExcept claim]

end Deployment

end Airdrop
