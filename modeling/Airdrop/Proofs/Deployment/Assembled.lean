import Airdrop.Proofs.Deployment.Claimed

/-!
# Proofs/Deployment/Assembled — the instructions of a claim, from a snapshot

On a snapshot every reading succeeds, so what comes of a claim depends on two accounts alone: that of
the distributor and the token account to be paid.  **There are four cases** (`claim_cases`): no
distributor, one that cannot be decoded, a proof that four bytes cannot count, and the instructions.

The token account is derived twice, for the claim and for the instruction that creates it.  **It is
one account**, and it is created exactly if it holds nothing.  Its address is derived whenever one of
255 hashes names no point of the curve (`Address.tokenAccount_derived_iff`); otherwise zeros stand in
for it, where a client would stop.
-/

namespace Airdrop

namespace Snapshot

/-- **A distributor is recorded at an address** if an account of the program decodes to it. -/
def Records (s : Snapshot) (program address : Address) (record : Distributor) : Prop :=
  ∃ account, s.get? address = some account ∧ account.owner = program ∧
    Record.decode Distributor account.data = .ok record

/-- An account at an address is no distributor of a program. -/
def Foreign (s : Snapshot) (program address : Address) : Prop :=
  ∃ account, s.get? address = some account ∧
    (account.owner ≠ program ∨ ∃ fault, Record.decode Distributor account.data = .error fault)

/-- Nothing is held at an address. -/
def Bare (s : Snapshot) (address : Address) : Prop :=
  s.get? address = none ∨ ∃ account, s.get? address = some account ∧ account.data = []

variable {s : Snapshot} {program address : Address} {record record' : Distributor}

theorem Foreign.ne_none (h : s.Foreign program address) : s.get? address ≠ none := by
  obtain ⟨account, hfound, -⟩ := h
  simp [hfound]

theorem Records.ne_none (h : s.Records program address record) : s.get? address ≠ none := by
  obtain ⟨account, hfound, -⟩ := h
  simp [hfound]

/-- There is one record at most. -/
theorem Records.unique (h : s.Records program address record)
    (h' : s.Records program address record') : record = record' := by
  obtain ⟨account, hfound, -, hdecode⟩ := h
  obtain ⟨account', hfound', -, hdecode'⟩ := h'
  obtain rfl := Option.some.inj (hfound.symm.trans hfound')
  exact Except.ok.inj (hdecode.symm.trans hdecode')

/-- What is recorded is the program's. -/
theorem Records.not_foreign (h : s.Records program address record) :
    ¬ s.Foreign program address := by
  rintro ⟨account', hfound', hforeign⟩
  obtain ⟨account, hfound, howner, hdecode⟩ := h
  obtain rfl := Option.some.inj (hfound.symm.trans hfound')
  rcases hforeign with hforeign | ⟨fault, hfault⟩
  · exact hforeign howner
  · cases hdecode.symm.trans hfault

end Snapshot

namespace Instruction

/-- **An instruction claims an amount**, all of it at once, for the token account of a claimant. -/
structure Claims (claim : Instruction) (program distributor claimant : Address)
    (record : Distributor) (amount : UInt64) (proof : List Digest) : Prop where
  program_eq : claim.program = program
  /-- The claimant alone signs, and the last two are not changed. -/
  accounts_eq : claim.accounts = [
    ⟨distributor, false, true⟩, ⟨Address.claimStatus program claimant distributor, false, true⟩,
    ⟨record.tokenVault, false, true⟩, ⟨Address.tokenAccount claimant record.mint, false, true⟩,
    ⟨claimant, true, true⟩, ⟨Address.tokenProgram, false, false⟩,
    ⟨Address.systemProgram, false, false⟩]
  data_eq : ∃ arguments, claim.data = Action.Kind.newClaim.tag.toList ++ arguments ∧
    Action.Kind.newClaim.ofArguments arguments = .ok (.newClaim amount 0 proof)

/-- **An instruction creates an account** that holds a mint for a wallet, at the wallet's cost. -/
structure Creates (creation : Instruction) (account wallet mint : Address) : Prop where
  program_eq : creation.program = Address.tokenAccountProgram
  /-- The wallet comes twice: it pays, as the one that signs, and it is whom the account is for. -/
  accounts_eq : creation.accounts = [
    ⟨wallet, true, true⟩, ⟨account, false, true⟩, ⟨wallet, false, false⟩, ⟨mint, false, false⟩,
    ⟨Address.systemProgram, false, false⟩, ⟨Address.tokenProgram, false, false⟩]
  /-- The first action of that program, which takes no arguments. -/
  data_eq : creation.data = [0]

theorem creates_createTokenAccount (wallet mint : Address) :
    (createTokenAccount wallet mint).Creates (Address.tokenAccount wallet mint) wallet mint :=
  ⟨rfl, rfl, rfl⟩

end Instruction

namespace Deployment

variable {program distributor claimant : Address} {s : Snapshot} {record : Distributor}
  {amount : UInt64} {proof : List Digest}

/-- A claim that can be written is one. -/
theorem claims_of_claimInstruction {d : Deployment} {claim : Instruction}
    (h : d.claimInstruction distributor claimant record amount proof = .ok claim) :
    claim.Claims d.program distributor claimant record amount proof := by
  obtain ⟨data, -, rfl⟩ := claimInstruction_eq_ok_iff.1 h
  exact ⟨rfl, rfl, exists_arguments_of_claimInstruction h⟩

/-- A claim that cannot be written says so. -/
theorem exists_serialization {d : Deployment} (h : UInt32.size ≤ proof.length) : ∃ cause,
    d.claimInstruction distributor claimant record amount proof = .error (.serialization cause) := by
  cases hclaim : d.claimInstruction distributor claimant record amount proof with
  | ok claim => exact absurd (exists_claimInstruction_iff.1 ⟨claim, hclaim⟩) (Nat.not_lt.2 h)
  | error error =>
    unfold claimInstruction at hclaim
    split at hclaim
    · cases hclaim
    · exact ⟨_, hclaim.symm⟩

/-- **What comes of a claim** once its distributor is known. -/
theorem outcome_claimInstructions
    (h : (Deployment.distributor ⟨program, s.ledger⟩ distributor).outcome = .ok record) :
    (claimInstructions ⟨program, s.ledger⟩ distributor claimant amount proof).outcome =
      (claimInstruction ⟨program, s.ledger⟩ distributor claimant record amount proof).map
        fun claim => (if Account.isPresent (s.get? (Address.tokenAccount claimant record.mint))
          then [] else [.createTokenAccount claimant record.mint]) ++ [claim] := by
  have hread : (Ledger.account s.ledger (Address.tokenAccount claimant record.mint)).outcome =
      .ok (s.get? (Address.tokenAccount claimant record.mint)) := rfl
  rw [claimInstructions, Traced.outcome_bind_of_ok h, Traced.outcome_bind_of_ok hread]
  dsimp only
  split <;>
    cases claimInstruction ⟨program, s.ledger⟩ distributor claimant record amount proof <;> rfl

/-- **There are four cases**: no distributor, none that can be decoded, a proof that is too long, or
the instructions. -/
theorem claim_cases (program distributor claimant : Address) (s : Snapshot) (amount : UInt64)
    (proof : List Digest) {outcome : Except LedgerError (List Instruction)}
    (h : (claimInstructions ⟨program, s.ledger⟩ distributor claimant amount proof).outcome = outcome) :
    (s.get? distributor = none ∧ outcome = .error (.notFound distributor)) ∨
    (s.Foreign program distributor ∧ ∃ fault, outcome = .error (.undecodable distributor fault)) ∨
    ∃ record, s.Records program distributor record ∧
      ((2 ^ 32 ≤ proof.length ∧ ∃ cause, outcome = .error (.serialization cause)) ∨
      (proof.length < 2 ^ 32 ∧
        ∃ claim : Instruction, claim.Claims program distributor claimant record amount proof ∧
        outcome = .ok ((if Account.isPresent (s.get? (Address.tokenAccount claimant record.mint))
          then [] else [.createTokenAccount claimant record.mint]) ++ [claim]))) := by
  have houtcome : (Deployment.distributor ⟨program, s.ledger⟩ distributor).outcome =
      distributorOf ⟨program, s.ledger⟩ distributor (s.get? distributor) := outcome_distributor
  have hfails : ∀ error, (Deployment.distributor ⟨program, s.ledger⟩ distributor).outcome =
      .error error → outcome = .error error := fun error herror => by
    rw [← h, claimInstructions, Traced.outcome_bind, herror]
    rfl
  cases hfound : s.get? distributor with
  | none => exact .inl ⟨rfl, hfails _ (by rw [houtcome, hfound]; rfl)⟩
  | some account =>
    rw [hfound, distributorOf] at houtcome
    cases hdecode : decode Distributor ⟨program, s.ledger⟩ distributor account with
    | error error =>
      obtain ⟨fault, rfl, hforeign⟩ := decode_eq_error hdecode
      exact .inr (.inl ⟨⟨account, hfound, hforeign.imp_right fun h => ⟨fault, h⟩⟩, fault,
        hfails _ (houtcome.trans hdecode)⟩)
    | ok record =>
      refine .inr (.inr ⟨record, ⟨account, hfound, decode_eq_ok_iff.1 hdecode⟩, ?_⟩)
      rw [outcome_claimInstructions (houtcome.trans hdecode)] at h
      rcases Nat.lt_or_ge proof.length (2 ^ 32) with hlt | hge
      · obtain ⟨claim, hclaim⟩ := exists_claimInstruction_iff.2 hlt
        rw [hclaim] at h
        exact .inr ⟨hlt, claim, claims_of_claimInstruction hclaim, h.symm⟩
      · obtain ⟨cause, hcause⟩ := exists_serialization hge
        rw [hcause] at h
        exact .inl ⟨hge, cause, h.symm⟩

/-- **The instructions of a claim.**  On a snapshot, a claim fails exactly if there is no account of
the distributor, if it belongs to another program or cannot be decoded, or if four bytes cannot count
the nodes of the proof.  Otherwise it is one instruction, preceded by one that creates the token
account to be paid exactly if nothing is held there. -/
theorem claim_assembled (program distributor claimant : Address) (s : Snapshot) (amount : UInt64)
    (proof : List Digest) :
    ((claimInstructions ⟨program, s.ledger⟩ distributor claimant amount proof).outcome =
        .error (.notFound distributor) ↔ s.get? distributor = none) ∧
    ((∃ fault, (claimInstructions ⟨program, s.ledger⟩ distributor claimant amount proof).outcome =
        .error (.undecodable distributor fault)) ↔ s.Foreign program distributor) ∧
    ((∃ cause, (claimInstructions ⟨program, s.ledger⟩ distributor claimant amount proof).outcome =
        .error (.serialization cause)) ↔
      (∃ record, s.Records program distributor record) ∧ 2 ^ 32 ≤ proof.length) ∧
    ∀ record, s.Records program distributor record → proof.length < 2 ^ 32 →
      ∃ creation claim : Instruction,
        creation.Creates (Address.tokenAccount claimant record.mint) claimant record.mint ∧
        claim.Claims program distributor claimant record amount proof ∧
        creation.accounts[1]? = claim.accounts[3]? ∧
        (s.Bare (Address.tokenAccount claimant record.mint) →
          (claimInstructions ⟨program, s.ledger⟩ distributor claimant amount proof).outcome =
            .ok [creation, claim]) ∧
        (¬ s.Bare (Address.tokenAccount claimant record.mint) →
          (claimInstructions ⟨program, s.ledger⟩ distributor claimant amount proof).outcome =
            .ok [claim]) := by
  generalize houtcome :
    (claimInstructions ⟨program, s.ledger⟩ distributor claimant amount proof).outcome = outcome
  rcases claim_cases program distributor claimant s amount proof houtcome with
    ⟨hnone, rfl⟩ | ⟨hforeign, fault, rfl⟩ | ⟨record, hrecord, ⟨hlong, cause, rfl⟩ |
      ⟨hshort, claim, hclaim, rfl⟩⟩
  · have hforeign : ¬ s.Foreign program distributor := fun h => h.ne_none hnone
    have hrecords : ∀ record, ¬ s.Records program distributor record := fun _ h => h.ne_none hnone
    simp [hnone, hforeign, hrecords]
  · have hrecords : ∀ record, ¬ s.Records program distributor record :=
      fun _ h => h.not_foreign hforeign
    simp [hforeign, hforeign.ne_none, hrecords]
  · refine ⟨by simp [hrecord.ne_none], by simp [hrecord.not_foreign], ?_,
      fun _ _ hshort => absurd hshort (Nat.not_lt.2 hlong)⟩
    exact ⟨fun _ => ⟨⟨record, hrecord⟩, hlong⟩, fun _ => ⟨cause, rfl⟩⟩
  · refine ⟨by simp [hrecord.ne_none], by simp [hrecord.not_foreign], ?_,
      fun record' hrecord' _ => ?_⟩
    · constructor
      · rintro ⟨_, ⟨⟩⟩
      · exact fun h => absurd h.2 (Nat.not_le.2 hshort)
    obtain rfl := hrecord.unique hrecord'
    have hcreates := Instruction.creates_createTokenAccount claimant record.mint
    refine ⟨_, claim, hcreates, hclaim, ?_, fun hbare => ?_, fun hbare => ?_⟩
    · simp only [hcreates.accounts_eq, hclaim.accounts_eq, List.getElem?_cons_succ,
        List.getElem?_cons_zero]
    · rw [Account.isPresent_eq_false_iff.2 hbare]
      rfl
    · rw [if_pos ((Bool.not_eq_false _).mp (mt Account.isPresent_eq_false_iff.1 hbare)),
        List.nil_append]

/-- A snapshot with a distributor of zeros and nothing else. -/
def zeros : Snapshot := Snapshot.empty.insert default ⟨default, Record.encode ({} : Distributor)⟩

/-- Its token accounts are not there, so a claim creates one. -/
theorem claim_assembled_of_zeros : ∃ creation claim : Instruction,
    creation.Creates (Address.tokenAccount default default) default default ∧
    claim.Claims default default default {} 5 [] ∧
    (claimInstructions ⟨default, zeros.ledger⟩ default default 5 []).outcome =
      .ok [creation, claim] := by
  have hrecords : zeros.Records default default {} :=
    ⟨⟨default, Record.encode ({} : Distributor)⟩, by simp [zeros, Snapshot.get?, Snapshot.insert],
      rfl, toOption_eq_some_iff.1 (by decide +kernel)⟩
  have hne : Address.tokenAccount default default ≠ default := by decide +kernel
  have hbare : zeros.Bare (Address.tokenAccount default default) :=
    .inl (by simp [zeros, Snapshot.get?, Snapshot.insert, Snapshot.empty, hne.symm])
  obtain ⟨-, -, -, hassembled⟩ := claim_assembled default default default zeros 5 []
  obtain ⟨creation, claim, hcreates, hclaims, -, hcreated, -⟩ := hassembled {} hrecords (by decide)
  exact ⟨creation, claim, hcreates, hclaims, hcreated hbare⟩

end Deployment

end Airdrop
