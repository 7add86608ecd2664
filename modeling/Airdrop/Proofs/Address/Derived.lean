import Airdrop.Address.Derived
import Airdrop.Proofs.Address.Text
import Airdrop.Proofs.Digest.Edwards

/-!
# Proofs/Address/Derived — addresses without a key, and when two of them agree

A derivation tries one bump after another and stops at the first hash that is no point.  **What it
finds is the highest such bump** (`highest_of_find?`), so it depends on the seeds and the program
alone.  It finds nothing only if all 255 hashes are points; short of that, a claim status and a token
account have a derived address (`claimStatus_derived_iff`, `tokenAccount_derived_iff`) and no zeros
stand in for it.

All that varies in what is hashed has a fixed length.  So it can be told apart from the bytes, and
**two claim statuses with one address, or a claim status and a token account, show two texts with one
hash**.
-/

namespace Airdrop

/-- **Two texts collide** if they differ and have one hash. -/
def Collide (text text' : List UInt8) : Prop := text ≠ text' ∧ Sha256.hash text = Sha256.hash text'

namespace Address

theorem eq_of_bytes_eq {address address' : Address} (h : address.bytes = address'.bytes) :
    address = address' := by
  cases address
  cases address'
  exact congrArg Address.mk (Octets.ext h)

/-- Texts that begin with an address have it and the rest in common. -/
theorem bytes_append_inj {address address' : Address} {rest rest' : List UInt8}
    (h : address.bytes ++ rest = address'.bytes ++ rest') : address = address' ∧ rest = rest' := by
  obtain ⟨hbytes, hrest⟩ := List.append_inj h (by rw [length_bytes, length_bytes])
  exact ⟨eq_of_bytes_eq hbytes, hrest⟩

end Address

namespace Derived

open Edwards

variable {seeds : List (List UInt8)} {program : Address}

/-! ## The search -/

/-- **The highest bump up to a limit** whose hash names no point of the curve. -/
structure Highest (seeds : List (List UInt8)) (program : Address) (limit : Nat)
    (derived : Derived) : Prop where
  pos : 1 ≤ derived.bump.toNat
  le : derived.bump.toNat ≤ limit
  octets_eq : derived.address.octets = candidate seeds program derived.bump
  off : ¬ OnCurve derived.address.octets
  above : ∀ bump : UInt8, derived.bump < bump → bump.toNat ≤ limit →
    OnCurve (candidate seeds program bump)

/-- **The search finds the highest bump there is.** -/
theorem descend_cases (seeds : List (List UInt8)) (program : Address) (limit : Nat)
    (hlimit : limit < 256) :
    (∃ derived, descend seeds program limit = some derived ∧
      Highest seeds program limit derived) ∨
    descend seeds program limit = none ∧ ∀ bump : UInt8, 1 ≤ bump.toNat → bump.toNat ≤ limit →
      OnCurve (candidate seeds program bump) := by
  induction limit with
  | zero => exact .inr ⟨rfl, fun bump hpos hle => absurd (hpos.trans hle) (by decide)⟩
  | succ limit ih =>
    have hbump : (UInt8.ofNat (limit + 1)).toNat = limit + 1 := UInt8.toNat_ofNat_of_lt' hlimit
    rw [descend]
    split
    · next hpoint =>
      -- The bump of the limit is on the curve, like all others above what is found below.
      have hup : ∀ bump : UInt8, bump.toNat ≤ limit + 1 → ¬ bump.toNat ≤ limit →
          OnCurve (candidate seeds program bump) := fun bump hle hgt => by
        have hlast : bump = UInt8.ofNat (limit + 1) := by
          rw [← UInt8.toNat_inj, hbump]
          omega
        rw [hlast]
        exact isPoint_iff.1 hpoint
      rcases ih (by omega) with ⟨derived, hfound, h⟩ | ⟨hnone, h⟩
      · refine .inl ⟨derived, hfound, h.pos, Nat.le_succ_of_le h.le, h.octets_eq, h.off,
          fun bump hlt hle => ?_⟩
        by_cases hle' : bump.toNat ≤ limit
        · exact h.above bump hlt hle'
        · exact hup bump hle hle'
      · refine .inr ⟨hnone, fun bump hpos hle => ?_⟩
        by_cases hle' : bump.toNat ≤ limit
        · exact h bump hpos hle'
        · exact hup bump hle hle'
    · next hpoint =>
      refine .inl ⟨_, rfl, ?_, hbump.le, rfl, mt isPoint_iff.2 hpoint, fun bump hlt hle => ?_⟩
      · rw [hbump]
        exact Nat.le_add_left 1 limit
      · rw [UInt8.lt_iff_toNat_lt, hbump] at hlt
        exact absurd hle (Nat.not_le.2 hlt)

/-- **A derived address is that of the highest bump.** -/
theorem highest_of_find? {derived : Derived} (h : find? seeds program = some derived) :
    Highest seeds program 255 derived := by
  rcases descend_cases seeds program 255 (by decide) with
    ⟨found, hfound, hhighest⟩ | ⟨hnone, -⟩
  · obtain rfl := Option.some.inj (hfound.symm.trans h)
    exact hhighest
  · cases hnone.symm.trans h

/-- **An address is found if one hash names no point of the curve**, and then no zeros stand in. -/
theorem find?_derived_iff (seeds : List (List UInt8)) (program : Address) :
    (∃ bump, find? seeds program = some ⟨Address.orZero (find? seeds program), bump⟩) ↔
      ∃ bump : UInt8, 1 ≤ bump.toNat ∧ ¬ OnCurve (candidate seeds program bump) := by
  constructor
  · rintro ⟨bump, hfound⟩
    have hhighest := highest_of_find? hfound
    exact ⟨bump, hhighest.pos, hhighest.octets_eq ▸ hhighest.off⟩
  · rintro ⟨bump, hpos, hoff⟩
    rcases descend_cases seeds program 255 (by decide) with ⟨derived, hfound, -⟩ | ⟨-, hon⟩
    · have hfound : find? seeds program = some derived := hfound
      exact ⟨derived.bump, by rw [hfound]; rfl⟩
    · exact absurd (hon bump hpos (Nat.le_of_lt_succ bump.toNat_lt)) hoff

/-! ## What is hashed -/

/-- **What is hashed for a claim status.** -/
def statusText (program claimant distributor : Address) (bump : UInt8) : List UInt8 :=
  Text.Utf8.encode "ClaimStatus".toList ++ (claimant.bytes ++ (distributor.bytes ++
    (bump :: (program.bytes ++ Text.Utf8.encode "ProgramDerivedAddress".toList))))

/-- **What is hashed for a token account.** -/
def tokenText (wallet mint : Address) (bump : UInt8) : List UInt8 :=
  wallet.bytes ++ (Address.tokenProgram.bytes ++ (mint.bytes ++
    (bump :: (Address.tokenAccountProgram.bytes ++
      Text.Utf8.encode "ProgramDerivedAddress".toList))))

section

variable {program' claimant claimant' distributor distributor' wallet mint : Address}
  {bump bump' : UInt8}

theorem preimage_status : preimage [Address.claimStatusSeed, claimant.bytes, distributor.bytes] bump
    program = statusText program claimant distributor bump := by
  simp [preimage, statusText, Address.claimStatusSeed, marker]

theorem preimage_token : preimage [wallet.bytes, Address.tokenProgram.bytes, mint.bytes] bump
    Address.tokenAccountProgram = tokenText wallet mint bump := by
  simp [preimage, tokenText, marker]

/-- **The text tells all that went into it.** -/
theorem statusText_inj
    (h : statusText program claimant distributor bump =
      statusText program' claimant' distributor' bump') :
    (program, claimant, distributor) = (program', claimant', distributor') := by
  obtain ⟨rfl, hrest⟩ := Address.bytes_append_inj (List.append_cancel_left h)
  obtain ⟨rfl, hbump⟩ := Address.bytes_append_inj hrest
  obtain ⟨rfl, -⟩ := Address.bytes_append_inj (List.cons.inj hbump).2
  rfl

/-- A claim status and a token account have texts of different lengths. -/
theorem statusText_ne_tokenText :
    statusText program claimant distributor bump ≠ tokenText wallet mint bump' := fun h => by
  have hseed : (Text.Utf8.encode "ClaimStatus".toList).length = 11 := rfl
  have hlength := congrArg List.length h
  simp only [statusText, tokenText, List.length_append, List.length_cons, Address.length_bytes,
    hseed]
    at hlength
  omega

/-- **A derived address is a hash.** -/
theorem Highest.octets_eq_hash {limit : Nat} {derived : Derived} {text : List UInt8}
    (h : Highest seeds program limit derived) (htext : preimage seeds derived.bump program = text) :
    derived.address.octets = Sha256.hash text := by
  rw [h.octets_eq, candidate, htext]

end

end Derived

open Derived

/-! ## Claim statuses and token accounts -/

/-- **A claim status has a derived address** exactly if one of 255 hashes names no point. -/
theorem Address.claimStatus_derived_iff {program claimant distributor : Address} :
    (∃ bump, claimStatus? program claimant distributor =
      some ⟨claimStatus program claimant distributor, bump⟩) ↔
      ∃ bump : UInt8, 1 ≤ bump.toNat ∧
        ¬ Edwards.OnCurve (Sha256.hash (statusText program claimant distributor bump)) := by
  have h := find?_derived_iff [claimStatusSeed, claimant.bytes, distributor.bytes] program
  simp only [candidate, preimage_status] at h
  exact h

/-- **A token account has a derived address** exactly if one of 255 hashes names no point. -/
theorem Address.tokenAccount_derived_iff {wallet mint : Address} :
    (∃ bump, tokenAccount? wallet mint = some ⟨tokenAccount wallet mint, bump⟩) ↔
      ∃ bump : UInt8, 1 ≤ bump.toNat ∧
        ¬ Edwards.OnCurve (Sha256.hash (tokenText wallet mint bump)) := by
  have h := find?_derived_iff [wallet.bytes, tokenProgram.bytes, mint.bytes] tokenAccountProgram
  simp only [candidate, preimage_token] at h
  exact h

/-- **A claim status has the canonical address of its claimant and distributor.**  It is the hash
with the highest bump for which the hash names no point of the curve.  If another claim status has
it, of whatever program, claimant and distributor, or a token account, of whatever wallet and mint,
then the two hashed texts differ and have one hash. -/
theorem claimStatus_canonical (program claimant distributor address : Address) (bump : UInt8)
    (h : Address.claimStatus? program claimant distributor = some ⟨address, bump⟩) :
    (1 ≤ bump.toNat ∧ bump.toNat ≤ 255 ∧
      address.octets = Sha256.hash (statusText program claimant distributor bump) ∧
      ¬ Edwards.OnCurve address.octets ∧
      ∀ higher, bump < higher →
        Edwards.OnCurve (Sha256.hash (statusText program claimant distributor higher))) ∧
    (∀ program' claimant' distributor' bump',
      (program, claimant, distributor) ≠ (program', claimant', distributor') →
      Address.claimStatus? program' claimant' distributor' = some ⟨address, bump'⟩ →
      Collide (statusText program claimant distributor bump)
        (statusText program' claimant' distributor' bump')) ∧
    ∀ wallet mint bump', Address.tokenAccount? wallet mint = some ⟨address, bump'⟩ →
      Collide (statusText program claimant distributor bump) (tokenText wallet mint bump') := by
  have hhighest := highest_of_find? h
  have hhash := hhighest.octets_eq_hash preimage_status
  refine ⟨⟨hhighest.pos, hhighest.le, hhash, hhighest.off, fun higher hlt => ?_⟩,
    fun program' claimant' distributor' bump' hne h' => ⟨mt statusText_inj hne, ?_⟩,
    fun wallet mint bump' h' => ⟨statusText_ne_tokenText, ?_⟩⟩
  · have hon := hhighest.above higher hlt (Nat.le_of_lt_succ higher.toNat_lt)
    rwa [candidate, preimage_status] at hon
  · exact hhash.symm.trans ((highest_of_find? h').octets_eq_hash preimage_status)
  · exact hhash.symm.trans ((highest_of_find? h').octets_eq_hash preimage_token)

/-- The claim status of the address of zeros, with itself, under the program of zeros. -/
theorem claimStatus_canonical_of_default : ∃ address bump,
    Address.claimStatus? default default default = some ⟨address, bump⟩ ∧
      address.octets = Sha256.hash (statusText default default default bump) ∧
      ¬ Edwards.OnCurve address.octets := by
  have hsome : (Address.claimStatus? default default default).isSome = true := by decide +kernel
  obtain ⟨⟨address, bump⟩, hfound⟩ := Option.isSome_iff_exists.1 hsome
  obtain ⟨⟨-, -, hhash, hoff, -⟩, -⟩ := claimStatus_canonical _ _ _ address bump hfound
  exact ⟨address, bump, hfound, hhash, hoff⟩

end Airdrop
