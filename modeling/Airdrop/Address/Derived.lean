import Airdrop.Address
import Airdrop.Digest.Edwards
import Airdrop.Digest.Sha256
import Airdrop.Text.Utf8

/-!
# Address/Derived — addresses that no key can sign for

A program's own accounts have addresses computed from seeds: a hash of the seeds, a bump, the
program and a fixed marker.  A hash that happens to name a curve point could have a key, so **the
bump starts at 255 and goes down until the hash names none**.  The same seeds always give the same
address, and the bump that was found.

A client that needs an address for seeds that have none stops there.  `Address.claimStatus` and
`Address.tokenAccount` give the address of zeros instead, so what is said of them holds of a client
as long as one hash out of 255 names no curve point.
-/

namespace Airdrop

/-- A derived address, and the bump it was found with. -/
structure Derived where
  address : Address
  bump : UInt8
  deriving DecidableEq

namespace Derived

/-- What every derivation ends with. -/
def marker : List UInt8 := Text.Utf8.encode "ProgramDerivedAddress".toList

/-- What is hashed for a bump. -/
def preimage (seeds : List (List UInt8)) (bump : UInt8) (program : Address) : List UInt8 :=
  seeds.flatten ++ bump :: (program.bytes ++ marker)

/-- The hash for a bump. -/
def candidate (seeds : List (List UInt8)) (program : Address) (bump : UInt8) : Digest :=
  Sha256.hash (preimage seeds bump program)

/-- Try bumps from `bump` down to one. -/
def descend (seeds : List (List UInt8)) (program : Address) : (bump : Nat) → Option Derived
  | 0 => none
  | bump + 1 =>
    let digest := candidate seeds program (.ofNat (bump + 1))
    if Edwards.isPoint digest then descend seeds program bump
    else some ⟨⟨digest⟩, .ofNat (bump + 1)⟩

/-- **The address derived from seeds.**  There is none only if 255 hashes all name curve points. -/
def find? (seeds : List (List UInt8)) (program : Address) : Option Derived :=
  descend seeds program 255

end Derived

namespace Address

/-- The first seed of claim-status addresses. -/
def claimStatusSeed : List UInt8 := Text.Utf8.encode "ClaimStatus".toList

/-- The program that owns token accounts. -/
def tokenProgram : Address := known "TokenkegQfeZyiNwAJbNbGKPFXCWuBvf9Ss623VQ5DA"

/-- The program that creates a wallet's token accounts. -/
def tokenAccountProgram : Address := known "ATokenGPvbdGVxr1b2hvZbsiqW5xWH25efTNsLJA8knL"

/-- The program that creates accounts. -/
def systemProgram : Address := known "11111111111111111111111111111111"

/-- The distributor program, where nothing else is said. -/
def distributorProgram : Address := known "meRjbQXFNf5En86FXT2YPz1dQzLj4Yb3xK8u1MVgqpb"

/-- **The claim status of a claimant at a distributor**, with its bump. -/
def claimStatus? (program claimant distributor : Address) : Option Derived :=
  Derived.find? [claimStatusSeed, claimant.bytes, distributor.bytes] program

/-- **The token account of a wallet for a mint**, with its bump. -/
def tokenAccount? (wallet mint : Address) : Option Derived :=
  Derived.find? [wallet.bytes, tokenProgram.bytes, mint.bytes] tokenAccountProgram

/-- The address of a derivation.  Should there be none, the address of zeros stands in, where a
program that derives it would stop. -/
def orZero (derived : Option Derived) : Address := (derived.map Derived.address).getD default

/-- The address of a claim status, or zeros if there is none to derive. -/
def claimStatus (program claimant distributor : Address) : Address :=
  orZero (claimStatus? program claimant distributor)

/-- The address of a token account, or zeros if there is none to derive. -/
def tokenAccount (wallet mint : Address) : Address := orZero (tokenAccount? wallet mint)

end Address

end Airdrop
