import Airdrop.Address.Derived
import Airdrop.Octets.Take

/-!
# Instruction — what the distributor program can be told to do

An instruction is data and a list of accounts.  The data begins with eight bytes that tell the
action and goes on with its arguments; **the program knows an account by its place in the list**, so
`Action.Kind.roles` fixes both the order and what the program may do with each.
-/

namespace Airdrop

/-- An account in an instruction. -/
structure AccountRef where
  address : Address
  /-- Its key has to sign. -/
  signer : Bool
  /-- The program may change it. -/
  writable : Bool
  deriving DecidableEq

/-- **An instruction to a program.** -/
structure Instruction where
  program : Address
  accounts : List AccountRef
  data : List UInt8
  deriving DecidableEq

/-- **An action of the distributor program, with its arguments.** -/
inductive Action
  | newClaim (unlocked locked : UInt64) (proof : List Digest)
  | claimLocked
  | setEnableSlot (slot : UInt64)
  | setClawbackTime (time : Int64)
  | setAdmin
  | closeClaimStatus
  | closeDistributor
  deriving DecidableEq

/-- The seven actions. -/
inductive Action.Kind
  | newClaim
  | claimLocked
  | setEnableSlot
  | setClawbackTime
  | setAdmin
  | closeClaimStatus
  | closeDistributor
  deriving DecidableEq

/-- What an account is to an action. -/
inductive Role
  | distributor
  | claimStatus
  /-- The token account that pays. -/
  | source
  /-- The token account that is paid to. -/
  | destination
  | claimant
  | tokenProgram
  | systemProgram
  | admin
  | newAdmin
  | tokenVault
  /-- The token account that gets what is left in the vault. -/
  | remainder
  deriving DecidableEq

namespace Action

/-- The eight bytes that tell an action. -/
def Kind.tag : Kind → Octets 8
  | .newClaim => ⟨[78, 177, 98, 123, 210, 21, 187, 83], rfl⟩
  | .claimLocked => ⟨[34, 206, 181, 23, 11, 207, 147, 90], rfl⟩
  | .setEnableSlot => ⟨[5, 52, 73, 33, 150, 115, 97, 206], rfl⟩
  | .setClawbackTime => ⟨[83, 102, 71, 44, 243, 244, 186, 8], rfl⟩
  | .setAdmin => ⟨[251, 163, 0, 52, 91, 194, 187, 92], rfl⟩
  | .closeClaimStatus => ⟨[163, 214, 191, 165, 245, 188, 17, 185], rfl⟩
  | .closeDistributor => ⟨[202, 56, 180, 143, 46, 104, 106, 112], rfl⟩

/-- Whether an account signs, and whether it may change. -/
structure Access where
  signer : Bool := false
  writable : Bool := false

/-- Only looked at. -/
def Access.readOnly : Access := {}

/-- Changed. -/
def Access.changed : Access := { writable := true }

/-- Signs. -/
def Access.signs : Access := { signer := true }

/-- Signs and is changed. -/
def Access.signsChanged : Access := { signer := true, writable := true }

/-- **The accounts of an action, in order.** -/
def Kind.roles : Kind → List (Role × Access)
  | .newClaim => [
    (.distributor, .changed), (.claimStatus, .changed), (.source, .changed),
    (.destination, .changed), (.claimant, .signsChanged), (.tokenProgram, .readOnly),
    (.systemProgram, .readOnly)]
  | .claimLocked => [
    (.distributor, .changed), (.claimStatus, .changed), (.source, .changed),
    (.destination, .changed), (.claimant, .signsChanged), (.tokenProgram, .readOnly)]
  | .setEnableSlot => [(.distributor, .changed), (.admin, .signsChanged)]
  | .setClawbackTime => [(.distributor, .changed), (.admin, .signsChanged)]
  | .setAdmin => [(.distributor, .changed), (.admin, .signsChanged), (.newAdmin, .changed)]
  | .closeClaimStatus => [(.claimStatus, .changed), (.claimant, .changed), (.admin, .signs)]
  | .closeDistributor => [
    (.distributor, .changed), (.tokenVault, .changed), (.admin, .signsChanged),
    (.remainder, .changed), (.tokenProgram, .readOnly)]

/-- Which action it is. -/
def kind : Action → Kind
  | .newClaim _ _ _ => .newClaim
  | .claimLocked => .claimLocked
  | .setEnableSlot _ => .setEnableSlot
  | .setClawbackTime _ => .setClawbackTime
  | .setAdmin => .setAdmin
  | .closeClaimStatus => .closeClaimStatus
  | .closeDistributor => .closeDistributor

/-- A list with more elements than four bytes can count cannot be written. -/
structure TooLong where
  length : Nat
  deriving DecidableEq

/-- Digests with their count in front. -/
def proofBytes (proof : List Digest) : List UInt8 :=
  LittleEndian.bytesOf 4 proof.length ++ proof.flatMap Octets.toList

/-- The bytes of the arguments. -/
def arguments : Action → Except TooLong (List UInt8)
  | .newClaim unlocked locked proof =>
    if proof.length < UInt32.size then
      .ok (LittleEndian.ofWord unlocked ++ LittleEndian.ofWord locked ++ proofBytes proof)
    else .error ⟨proof.length⟩
  | .setEnableSlot slot => .ok (LittleEndian.ofWord slot)
  | .setClawbackTime time => .ok (LittleEndian.ofSigned time)
  | .claimLocked | .setAdmin | .closeClaimStatus | .closeDistributor => .ok []

/-- **The data of an instruction.** -/
def data (action : Action) : Except TooLong (List UInt8) :=
  action.arguments.map (action.kind.tag.toList ++ ·)

/-- Take the arguments of an action. -/
def Kind.take : Kind → Take Action
  | .newClaim => do
    let unlocked ← Take.word
    let locked ← Take.word
    let proof ← Take.times (Take.octets 32) (← Take.count)
    return .newClaim unlocked locked proof
  | .claimLocked => return .claimLocked
  | .setEnableSlot => .setEnableSlot <$> Take.word
  | .setClawbackTime => .setClawbackTime <$> Take.signed
  | .setAdmin => return .setAdmin
  | .closeClaimStatus => return .closeClaimStatus
  | .closeDistributor => return .closeDistributor

/-- Why bytes are no arguments. -/
inductive ArgumentFault
  | take (fault : TakeFault)
  /-- Some bytes are left over. -/
  | leftOver
  deriving DecidableEq

/-- The fault in words. -/
def ArgumentFault.message : ArgumentFault → String
  | .take fault => fault.message
  | .leftOver => "Not all bytes read"

/-- **The action of argument bytes**: all of them have to be used. -/
def Kind.ofArguments (kind : Kind) (bytes : List UInt8) : Except ArgumentFault Action :=
  match kind.take bytes with
  | .error fault => .error (.take fault)
  | .ok (action, []) => .ok action
  | .ok (_, _ :: _) => .error .leftOver

/-- The accounts of an action, each role played by an address. -/
def Kind.accounts (kind : Kind) (who : Role → Address) : List AccountRef :=
  kind.roles.map fun (role, access) => ⟨who role, access.signer, access.writable⟩

/-- **The instruction that has an action done.** -/
def instruction (program : Address) (action : Action) (who : Role → Address) :
    Except TooLong Instruction :=
  action.data.map fun data => ⟨program, action.kind.accounts who, data⟩

end Action

/-- The instruction that creates the token account of a wallet for a mint, at the wallet's cost.  If
none can be derived, it names the address of zeros. -/
def Instruction.createTokenAccount (wallet mint : Address) : Instruction where
  program := Address.tokenAccountProgram
  accounts := [
    ⟨wallet, true, true⟩, ⟨Address.tokenAccount wallet mint, false, true⟩, ⟨wallet, false, false⟩,
    ⟨mint, false, false⟩, ⟨Address.systemProgram, false, false⟩,
    ⟨Address.tokenProgram, false, false⟩]
  data := [0]

end Airdrop
