import Airdrop.Record
import Airdrop.Word

/-!
# Record/Distributor — the account that hands out the tokens
-/

namespace Airdrop

open LittleEndian

/-- **The state of a distributor.** -/
structure Distributor where
  bump : UInt8 := 0
  version : UInt64 := 0
  root : Digest := default
  /-- The token handed out. -/
  mint : Address := default
  base : Address := default
  /-- The token account that holds what is left. -/
  tokenVault : Address := default
  /-- What can be claimed in all. -/
  maxTotal : UInt64 := 0
  /-- How many can claim. -/
  maxNodes : UInt64 := 0
  /-- What has been claimed. -/
  claimedTotal : UInt64 := 0
  /-- How many have claimed. -/
  claimedNodes : UInt64 := 0
  /-- When the locked part starts to unlock. -/
  startTime : Int64 := 0
  /-- When the locked part is unlocked. -/
  endTime : Int64 := 0
  clawbackTime : Int64 := 0
  clawbackReceiver : Address := default
  admin : Address := default
  /-- What was left has been taken back. -/
  clawedBack : Bool := false
  /-- Claims are open after this slot. -/
  enableSlot : UInt64 := 0
  closable : Bool := false
  reserved₀ : Digest := default
  reserved₁ : Digest := default
  reserved₂ : Digest := default
  deriving DecidableEq

namespace Distributor

/-- The bytes of each field, in order. -/
def fields (d : Distributor) : List (List UInt8) := [
  [d.bump], ofWord d.version, d.root.toList, d.mint.bytes, d.base.bytes, d.tokenVault.bytes,
  ofWord d.maxTotal, ofWord d.maxNodes, ofWord d.claimedTotal, ofWord d.claimedNodes,
  ofSigned d.startTime, ofSigned d.endTime, ofSigned d.clawbackTime, d.clawbackReceiver.bytes,
  d.admin.bytes, Take.ofBool d.clawedBack, ofWord d.enableSlot, Take.ofBool d.closable,
  d.reserved₀.toList, d.reserved₁.toList, d.reserved₂.toList]

/-- Take the fields, in order. -/
def take : Take Distributor := do
  return {
    bump := ← Take.byte
    version := ← Take.word
    root := ← Take.octets 32
    mint := ← Take.address
    base := ← Take.address
    tokenVault := ← Take.address
    maxTotal := ← Take.word
    maxNodes := ← Take.word
    claimedTotal := ← Take.word
    claimedNodes := ← Take.word
    startTime := ← Take.signed
    endTime := ← Take.signed
    clawbackTime := ← Take.signed
    clawbackReceiver := ← Take.address
    admin := ← Take.address
    clawedBack := ← Take.bool
    enableSlot := ← Take.word
    closable := ← Take.bool
    reserved₀ := ← Take.octets 32
    reserved₁ := ← Take.octets 32
    reserved₂ := ← Take.octets 32 }

instance : Record Distributor where
  tag := ⟨[77, 119, 139, 70, 84, 247, 12, 26], rfl⟩
  bodyLength := 363
  fields := fields
  length_fields d := by
    simp [fields, ofSigned, ofWord, Take.ofBool, Address.bytes, Octets.length_toList]
  take := take

/-- What can still be claimed; nothing if more has been claimed than there was. -/
def remaining? (d : Distributor) : Option UInt64 := Word.sub? d.maxTotal d.claimedTotal

/-- **Whether claims are open at a slot**: after the enabling slot, and never once what was left has
been taken back. -/
def isClaimableAt (d : Distributor) (slot : UInt64) : Bool :=
  !d.clawedBack && d.enableSlot < slot

end Distributor

end Airdrop
