import Airdrop.Deployment
import Airdrop.Proofs.Instruction

/-!
# Proofs/Deployment/Assembly — what a claim is put together from

A claim takes two readings: of its distributor, and of the token account that it pays to.  It is put
together **exactly if both can be read, the distributor is one of the program, and four bytes can
count the nodes of the proof** (`claimInstructions_eq_ok_iff`); then its last instruction says the
amount and the proof, and nothing is locked.  This takes the claim status and the token account to
have derived addresses; a claim without them is put together here with zeros, where a client stops.

A record is read from an account of the program alone, which every reading of a distributor or of a
claim rests on (`decode_eq_ok_iff`).
-/

namespace Airdrop

namespace Deployment

variable {d : Deployment} {distributor claimant : Address}

/-! ## Records -/

/-- **An account is the record of a program that owns it.** -/
theorem decode_eq_ok_iff {ρ : Type} [Record ρ] {address : Address} {account : Account}
    {record : ρ} :
    d.decode ρ address account = .ok record ↔
      account.owner = d.program ∧ Record.decode ρ account.data = .ok record := by
  rw [← Record.decodeOwned_eq_ok_iff, decode]
  cases Record.decodeOwned ρ d.program account.owner account.data <;> simp

/-- **Why an account is no record**: it is another program's, or cannot be decoded. -/
theorem decode_eq_error {ρ : Type} [Record ρ] {address : Address} {account : Account}
    {error : LedgerError} (h : d.decode ρ address account = .error error) :
    ∃ fault, error = .undecodable address fault ∧
      (account.owner ≠ d.program ∨ Record.decode ρ account.data = .error fault) := by
  unfold decode Record.decodeOwned at h
  split at h
  · cases h
  · next fault hfault =>
    refine ⟨fault, (Except.error.inj h).symm, ?_⟩
    split at hfault
    · next hforeign => exact .inl hforeign
    · exact .inr hfault

variable {record : Distributor}

theorem outcome_distributor : (d.distributor distributor).outcome =
    d.ledger.read distributor >>= d.distributorOf distributor := by
  rw [Deployment.distributor, Traced.outcome_bind]
  rfl

/-- **There is a distributor exactly if the program owns an account that decodes to it.** -/
theorem outcome_distributor_eq_ok_iff : (d.distributor distributor).outcome = .ok record ↔
    ∃ account, d.ledger.read distributor = .ok (some account) ∧ account.owner = d.program ∧
      Record.decode Distributor account.data = .ok record := by
  rw [outcome_distributor, bind_eq_ok_iff]
  constructor
  · rintro ⟨found, hread, hdecode⟩
    match found, hdecode with
    | some account, hdecode => exact ⟨account, hread, decode_eq_ok_iff.1 hdecode⟩
  · rintro ⟨account, hread, hdecode⟩
    exact ⟨some account, hread, decode_eq_ok_iff.2 hdecode⟩

/-! ## Claims -/

variable {amount : UInt64} {proof : List Digest}

/-- The instruction of a claim has its data, for the program. -/
theorem claimInstruction_eq_ok_iff {claim : Instruction} :
    d.claimInstruction distributor claimant record amount proof = .ok claim ↔
      ∃ data, (Action.newClaim amount 0 proof).data = .ok data ∧
        claim = ⟨d.program, Action.Kind.newClaim.accounts (d.claimRoles distributor claimant record),
          data⟩ := by
  rw [claimInstruction, Action.instruction]
  constructor
  · intro h
    split at h
    · next instruction hinstruction =>
      cases h
      obtain ⟨data, hdata, rfl⟩ := map_eq_ok_iff.1 hinstruction
      exact ⟨data, hdata, rfl⟩
    · cases h
  · rintro ⟨data, hdata, rfl⟩
    rw [hdata]
    rfl

/-- **Its arguments are the amount, nothing locked, and the proof.** -/
theorem exists_arguments_of_claimInstruction {claim : Instruction}
    (h : d.claimInstruction distributor claimant record amount proof = .ok claim) :
    ∃ arguments, claim.data = Action.Kind.newClaim.tag.toList ++ arguments ∧
      Action.Kind.newClaim.ofArguments arguments = .ok (.newClaim amount 0 proof) := by
  obtain ⟨data, hdata, rfl⟩ := claimInstruction_eq_ok_iff.1 h
  obtain ⟨arguments, harguments, hbytes⟩ := Action.data_eq_ok_iff.1 hdata
  exact ⟨arguments, hbytes, Action.Kind.ofArguments_eq_ok_iff.2 ⟨rfl, harguments⟩⟩

/-- There is one exactly if four bytes can count the nodes. -/
theorem exists_claimInstruction_iff :
    (∃ claim, d.claimInstruction distributor claimant record amount proof = .ok claim) ↔
      proof.length < UInt32.size := by
  simp only [claimInstruction_eq_ok_iff, Action.data_eq_ok_iff,
    Action.arguments_newClaim_eq_ok_iff]
  constructor
  · rintro ⟨-, -, ⟨-, ⟨hlt, -⟩, -⟩, -⟩
    exact hlt
  · intro hlt
    exact ⟨_, _, ⟨_, ⟨hlt, rfl⟩, rfl⟩, rfl⟩

/-- **What a claim is put together from.** -/
theorem claimInstructions_eq_ok_iff {instructions : List Instruction} :
    (d.claimInstructions distributor claimant amount proof).outcome = .ok instructions ↔
      ∃ record held claim, (d.distributor distributor).outcome = .ok record ∧
        d.ledger.read (Address.tokenAccount claimant record.mint) = .ok held ∧
        d.claimInstruction distributor claimant record amount proof = .ok claim ∧
        instructions = (if Account.isPresent held then []
          else [.createTokenAccount claimant record.mint]) ++ [claim] := by
  unfold claimInstructions
  constructor
  · intro h
    obtain ⟨record, hrecord, h, -⟩ := Traced.exists_of_bind h
    obtain ⟨held, hheld, h, -⟩ := Traced.exists_of_bind h
    refine ⟨record, held, ?_⟩
    split at h
    · next hpresent =>
      obtain ⟨claim, hclaim, h, -⟩ := Traced.exists_of_bind h
      cases h
      exact ⟨claim, hrecord, hheld, hclaim, by rw [if_pos hpresent, List.nil_append]⟩
    · next hpresent =>
      obtain ⟨-, -, h, -⟩ := Traced.exists_of_bind h
      obtain ⟨claim, hclaim, h, -⟩ := Traced.exists_of_bind h
      cases h
      exact ⟨claim, hrecord, hheld, hclaim, by rw [if_neg hpresent, List.singleton_append]⟩
  · rintro ⟨record, held, claim, hrecord, hheld, hclaim, rfl⟩
    rw [Traced.outcome_bind_of_ok hrecord, Traced.outcome_bind_of_ok hheld]
    split
    · rw [Traced.outcome_bind_of_ok hclaim]
      rfl
    · rw [Traced.outcome_bind_of_ok rfl, Traced.outcome_bind_of_ok hclaim]
      rfl

end Deployment

end Airdrop
