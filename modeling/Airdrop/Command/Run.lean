import Airdrop.ClaimApi.Http
import Airdrop.Command
import Airdrop.Command.Session
import Airdrop.Deployment
import Airdrop.Instruction.Budget
import Airdrop.Keypair
import Airdrop.Stats.Document

/-!
# Command/Run — the commands at work

A command is a session in a `World`: files, claim APIs and ledger nodes.  **What can fail without
asking anyone is done first**: files are read and URLs checked before the first question.
-/

namespace Airdrop

/-- **What commands work with.**  `σ` is what a claim API remembers. -/
structure World (σ : Type) where
  files : FileSystem
  /-- The claim API at an endpoint. -/
  api : Endpoint → Service σ
  /-- What it remembers to begin with. -/
  memory : σ
  /-- The ledger node at a URL. -/
  node : String → LedgerNode

/-- The world in which there are files and nothing else can be reached. -/
def World.alone (files : FileSystem) : World Unit where
  files := files
  api endpoint := endpoint.service Net.Web.unreachable
  memory := ()
  node := LedgerNode.unreachable

namespace World

variable {σ : Type}

/-! ## What the commands read -/

/-- The addresses that a text lists. -/
def addressesOf (text : List Char) : Except Cause (List Address) :=
  match Json.read (Json.Reader.array Json.Reader.text) (Text.Utf8.encode text) with
  | .error failure => .error ⟨failure.message, []⟩
  | .ok texts => texts.mapM fun text =>
    match Address.ofText text with
    | .ok address => .ok address
    | .error fault => .error ⟨"invalid address " ++ text ++ ": " ++ fault.message, []⟩

/-- **The addresses that a file lists.** -/
def addresses (w : World σ) (path : String) : Except Cause (List Address) :=
  match w.files.readText path with
  | .error fault => .error ⟨"reading " ++ path, [fault.message]⟩
  | .ok text => addressesOf text

/-- **The keypair of an invocation.** -/
def keypair (w : World σ) (i : Invocation) : Except Cause Keypair :=
  match i.keypairPath with
  | none => .error ⟨"--keypair-path (or KEYPAIR_PATH) is required", []⟩
  | some path =>
    let failed := fun reason => ⟨"failed reading keypair file " ++ path ++ ": " ++ reason, []⟩
    match w.files.readText path with
    | .error fault => .error (failed fault.message)
    | .ok text => (Keypair.ofText text).mapError fun fault => failed fault.message

/-- The claim API at a URL, which has to be usable. -/
def apiAt (w : World σ) (url : String) : Except Cause (Service σ) :=
  match (Endpoint.ofText url).check with
  | .ok () => .ok (w.api (Endpoint.ofText url))
  | .error fault => .error fault.cause

/-- The deployment of an invocation. -/
def deployment (w : World σ) (i : Invocation) : Deployment := ⟨i.program, (w.node i.nodeUrl).ledger⟩

/-! ## Asking the ledger -/

/-- Tokens as text, one member on a line. -/
def document (tokens : List Json.Token) : String := String.ofList (Json.Layout.pretty tokens)

/-- Show how far a distributor has got. -/
def distributorStats (w : World σ) (i : Invocation) (distributor : Address) : Session Unit := do
  let progress ← .inquire ((w.deployment i).progress distributor)
  .print (document progress.tokens)

/-- Show how far the distributors of a list have got together. -/
def allDistributorsStats (w : World σ) (i : Invocation) (path : String) : Session Unit := do
  let distributors ← .ofExcept (w.addresses path)
  let totals ← .inquire ((w.deployment i).totals distributors)
  .print (document totals.tokens)

/-- A truth value in words. -/
def truth (value : Bool) : String := if value then "true" else "false"

/-- Show whether a user has claimed. -/
def userClaimed (w : World σ) (i : Invocation) (distributor user : Address) : Session Unit := do
  .print (truth (← .inquire ((w.deployment i).hasClaimed user distributor)))

/-- Show whether claims are open. -/
def isClaimable (w : World σ) (i : Invocation) (distributor : Address) (slot : Option UInt64) :
    Session Unit := do
  let slot ← match slot with
    | some slot => pure slot
    | none => .slot (w.node i.nodeUrl)
  .print (truth (← .inquire ((w.deployment i).isClaimable distributor slot)))

/-! ## Asking the claim API -/

/-- What is told about a user. -/
def statusLine (user : Address) (amount : UInt64) (claimed : Bool) : String :=
  "User " ++ user.text ++ (if claimed then " has already" else " has not") ++
    " claimed their allocation: " ++ toString amount

/-- **Tell about users one after another**, up to the first failure; the API is next asked at
`instant`. -/
def tellStatuses (api : Service σ) (d : Deployment) (instant : Nat) (memory : σ) :
    List Address → Session Unit
  | [] => pure ()
  | user :: rest =>
    let lookup := Verification.lookup api {} user instant memory
    do
      let claim ← .found lookup
      let claimed ← .inquire (d.hasClaimed user claim.distributor)
      .print (statusLine user claim.amount claimed)
      tellStatuses api d lookup.instant lookup.state rest

/-- The users asked for. -/
def usersOf (w : World σ) : Users → Except Cause (List Address)
  | .one address => .ok [address]
  | .listed path => w.addresses path

/-- Show what users are to claim, and whether they have. -/
def claimStatuses (w : World σ) (i : Invocation) (apiUrl : String) (users : Users) :
    Session Unit := do
  let users ← .ofExcept (w.usersOf users)
  let api ← .ofExcept (w.apiAt apiUrl)
  tellStatuses api (w.deployment i) 0 w.memory users

/-- The instructions in front of a claim: what is sent pays for its computing. -/
def budgetOf (mode : ClaimMode) (multiplier : UInt64) : List Instruction :=
  match mode with
  | .execute => Budget.instructions multiplier
  | .simulate => []

/-- The lines that tell of a simulation. -/
def simulationLines (s : Simulation) : List String :=
  s.logs ++ match s.units with
    | some units => ["units consumed: " ++ toString units]
    | none => []

/-- Try a transaction out and tell how it went. -/
def tryOut (node : LedgerNode) (instructions : List Instruction) (block : Digest) :
    Session Unit := do
  let simulation ← .simulate node instructions block
  .printAll (simulationLines simulation)
  match simulation.error with
  | some error => .fail ("simulation failed: " ++ error)
  | none => .print "simulation succeeded"

/-- Send a transaction and tell its signature. -/
def carryOut (node : LedgerNode) (instructions : List Instruction) (block : Digest) :
    Session Unit := do
  .print ("successfully claimed tokens with signature " ++
    (← .send node instructions block))

/-- **Claim what the claim API serves for the keypair.** -/
def claim (w : World σ) (i : Invocation) (apiUrl : String) (mode : ClaimMode)
    (multiplier : UInt64) : Session Unit := do
  let keypair ← .ofExcept (w.keypair i)
  let api ← .ofExcept (w.apiAt apiUrl)
  let claim ← .found (Verification.lookup api {} keypair.address 0 w.memory)
  let instructions ← .inquire ((w.deployment i).claimInstructions claim.distributor
    keypair.address claim.amount claim.proof)
  let node := w.node i.nodeUrl
  let block ← .blockhash node
  let transaction := budgetOf mode multiplier ++ instructions
  match mode with
  | .simulate => tryOut node transaction block
  | .execute => carryOut node transaction block

/-! ## Checking the claim API -/

/-- The proof store of a directory, if one is given. -/
def storeOf (w : World σ) (trees : Option String) : Except LoadError (Option ProofStore) :=
  match trees with
  | none => .ok none
  | some path => (ProofStore.loadFrom path (w.files.readDirectory path)).outcome.map some

/-- What is told of a verification that ended well. -/
def verifiedLine (report : Verification.Report) (withTrees : Bool) : String :=
  "Verification successfully completed! API data for " ++ toString report.addresses ++
    " users fully matches CSV " ++ (if withTrees then "and merkle tree data." else "data.")

/-- **Check the claim API against an allocation list, and trees if given.** -/
def verify (w : World σ) (apiUrl table : String) (decimals : UInt32) (trees : Option String) :
    Session Unit := do
  let loadFailure := fun e : LoadError => (⟨e.message, e.behind⟩ : Cause)
  let entries ← .settle loadFailure (Allocation.load decimals.toNat (w.files.readFile table))
  let store ← .settle loadFailure (w.storeOf trees)
  let api ← .ofExcept (w.apiAt apiUrl)
  let report ← .verified (Verification.run api {} store 0 w.memory entries)
  .print (verifiedLine report store.isSome)

/-! ## The program -/

/-- **Do what is asked.** -/
def run (w : World σ) (i : Invocation) : Session Unit :=
  match i.command with
  | .distributorStats distributor => w.distributorStats i distributor
  | .allDistributorsStats path => w.allDistributorsStats i path
  | .userClaimed distributor user => w.userClaimed i distributor user
  | .isClaimable distributor slot => w.isClaimable i distributor slot
  | .claimStatuses apiUrl users => w.claimStatuses i apiUrl users
  | .claim apiUrl mode multiplier => w.claim i apiUrl mode multiplier
  | .verify apiUrl table decimals trees => w.verify apiUrl table decimals trees

end World

end Airdrop
