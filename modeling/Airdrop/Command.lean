import Airdrop.Address.Derived
import Airdrop.Command.Words
import Airdrop.Text.Digits

/-!
# Command — what the program can be told to do

A command line has three options of its own, then the name of a command, then the options of that
command (`Invocation.ofWords`).  Each option is read as what it stands for, and **whatever cannot be
read is a misuse of the program**, found before anything is done.
-/

namespace Airdrop

/-- What becomes of a claim. -/
inductive ClaimMode
  /-- It is tried out. -/
  | simulate
  /-- It is sent. -/
  | execute
  deriving DecidableEq

/-- Whose claims are looked at. -/
inductive Users
  | one (address : Address)
  /-- All that a file lists. -/
  | listed (path : String)
  deriving DecidableEq

/-- **What the program is told to do.** -/
inductive Command
  /-- Show how far a distributor has got. -/
  | distributorStats (distributor : Address)
  /-- Show how far all distributors that a file lists have got together. -/
  | allDistributorsStats (path : String)
  /-- Show whether a user has claimed from a distributor. -/
  | userClaimed (distributor user : Address)
  /-- Show whether claims are open, at a slot or now. -/
  | isClaimable (distributor : Address) (slot : Option UInt64)
  /-- Show for each user what is to be claimed, and whether it has been. -/
  | claimStatuses (apiUrl : String) (users : Users)
  /-- Claim what the claim API serves for the keypair. -/
  | claim (apiUrl : String) (mode : ClaimMode) (multiplier : UInt64)
  /-- Check the claim API against an allocation list, and trees if given. -/
  | verify (apiUrl table : String) (decimals : UInt32) (trees : Option String)
  deriving DecidableEq

/-- **A command, and where it applies.** -/
structure Invocation where
  /-- Where the ledger node is. -/
  nodeUrl : String
  program : Address
  keypairPath : Option String
  command : Command
  deriving DecidableEq

namespace Invocation

/-! ## Values -/

/-- Any text. -/
def readText (text : String) : Option String := some text

/-- A path, which is not empty. -/
def readPath (text : String) : Option String := if text.isEmpty then none else some text

/-- A number of 64 bits. -/
def readWord (text : String) : Option UInt64 :=
  (Text.natBelow? UInt64.size text.toList).map .ofNat

/-- A number of decimals.  Zero may have a minus sign. -/
def readDecimals (text : String) : Option UInt32 :=
  match text.toList with
  | '-' :: digits => if (Text.natBelow? 1 ('+' :: digits)).isSome then some 0 else none
  | digits => (Text.natBelow? UInt32.size digits).map .ofNat

/-- A claim mode. -/
def readMode (text : String) : Option ClaimMode :=
  if text = "simulate" then some .simulate
  else if text = "execute" then some .execute
  else none

/-! ## Options -/

/-- Where the ledger node is. -/
def nodeUrlSetting : Setting String := ⟨"rpc-url", readText⟩

/-- Which program distributes. -/
def programSetting : Setting Address := ⟨"program-id", Address.ofText?⟩

/-- Where the keypair is. -/
def keypairPathSetting : Setting String := ⟨"keypair-path", readPath⟩

/-- A distributor. -/
def distributorSetting : Setting Address := ⟨"distributor-address", Address.ofText?⟩

/-- A list of distributors. -/
def distributorsSetting : Setting String := ⟨"distributors-file", readPath⟩

/-- A user. -/
def userSetting : Setting Address := ⟨"user-address", Address.ofText?⟩

/-- A list of users. -/
def usersSetting : Setting String := ⟨"user-address-file", readPath⟩

/-- A slot. -/
def slotSetting : Setting UInt64 := ⟨"slot", readWord⟩

/-- Where the claim API is that knows users. -/
def apiBaseSetting : Setting String := ⟨"api-url-base", readText⟩

/-- Where the claim API is. -/
def apiSetting : Setting String := ⟨"api-url", readText⟩

/-- What becomes of a claim. -/
def modeSetting : Setting ClaimMode := ⟨"mode", readMode⟩

/-- How much is paid for a claim to be carried out soon. -/
def multiplierSetting : Setting UInt64 := ⟨"priority-fee-multiplier", readWord⟩

/-- An allocation list. -/
def tableSetting : Setting String := ⟨"csv-path", readPath⟩

/-- How many decimals its amounts have. -/
def decimalsSetting : Setting UInt32 := ⟨"decimals-in-csv", readDecimals⟩

/-- A directory of trees. -/
def treesSetting : Setting String := ⟨"merkle-tree-path", readPath⟩

/-! ## Commands -/

/-- **A kind of command**: its name, its options, and how it is read from their values. -/
structure Form where
  name : String
  options : List Known
  read : Values → Except Misuse Command

/-- Whose claims are to be looked at: one user, or a list, and not both. -/
def readUsers (v : Values) : Except Misuse Users := do
  match ← v.optional userSetting, ← v.optional usersSetting with
  | some address, none => return .one address
  | none, some path => return .listed path
  | some _, some _ => throw (.exclusive userSetting.name usersSetting.name)
  | none, none => throw (.missingOption userSetting.name)

/-- The mode, which the environment cannot set. -/
def readModeOption (v : Values) : Except Misuse ClaimMode :=
  { v with environment := [] }.orElse modeSetting .simulate

/-- **The commands.** -/
def forms : List Form := [
  { name := "get-distributor-stats"
    options := [distributorSetting.known]
    read := fun v => do
      return .distributorStats (← v.required distributorSetting) },
  { name := "get-all-distributors-stats"
    options := [distributorsSetting.known]
    read := fun v => do
      return .allDistributorsStats (← v.required distributorsSetting) },
  { name := "get-user-claimed"
    options := [distributorSetting.known, userSetting.known]
    read := fun v => do
      return .userClaimed (← v.required distributorSetting) (← v.required userSetting) },
  { name := "is-claimable"
    options := [distributorSetting.known, slotSetting.known]
    read := fun v => do
      return .isClaimable (← v.required distributorSetting) (← v.optional slotSetting) },
  { name := "check-user-claim-status"
    options := [apiBaseSetting.known, userSetting.known, usersSetting.known]
    read := fun v => do
      return .claimStatuses (← v.required apiBaseSetting) (← readUsers v) },
  { name := "claim"
    options := [apiSetting.known, modeSetting.known, multiplierSetting.known]
    read := fun v => do
      return .claim (← v.required apiSetting) (← readModeOption v)
        (← v.orElse multiplierSetting 1) },
  { name := "check-api-returns-all-keys"
    options := [apiSetting.known, tableSetting.known, decimalsSetting.known, treesSetting.known]
    read := fun v => do
      return .verify (← v.required apiSetting) (← v.required tableSetting)
        (← v.required decimalsSetting) (← v.optional treesSetting) }]

/-- The options in front of the command. -/
def ownOptions : List Known :=
  [nodeUrlSetting.known, programSetting.known, keypairPathSetting.known]

/-- The command of a name. -/
def form? (name : String) : Option Form := forms.find? (·.name == name)

/-- The word that asks for help. -/
def helpWord : String := "help"

/-- What asking for help comes to: it is about the program, or about one command. -/
def helpAbout : List String → Misuse
  | [] => .help
  | name :: rest =>
    if (form? name).isNone && name != helpWord then .unknownWord name
    else match rest with
      | [] => .help
      | word :: _ => .unknownWord word

/-- Where the ledger node is, where nothing else is said. -/
def defaultNodeUrl : String := "http://localhost:8899"

/-- **Read a command line.** -/
def ofWords (environment : Variables) (words : List String) : Except Misuse Invocation := do
  let (own, rest) ← Options.read true ownOptions [] words
  match rest with
  | [] => throw .missingCommand
  | name :: words =>
    match form? name with
    | none => throw (if name = helpWord then helpAbout words else .unknownWord name)
    | some form =>
      let (options, left) ← Options.read false form.options [] words
      match left with
      | word :: _ => throw (.unknownWord word)
      | [] =>
        let command ← form.read ⟨options, environment⟩
        let v : Values := ⟨own, environment⟩
        return {
          nodeUrl := ← v.orElse nodeUrlSetting defaultNodeUrl
          program := ← v.orElse programSetting Address.distributorProgram
          keypairPath := ← v.optional keypairPathSetting
          command := command }

end Invocation

end Airdrop
