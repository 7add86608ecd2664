import Airdrop.Ledger.Snapshot
import Airdrop.Proofs.Deployment.Assembly

/-!
# Proofs/Deployment/Claimed — whether a claimant has claimed

Three operations meet in one account: a claim lists it (`claimInstructions`), `hasClaimed` looks
whether it is there, and `claimStatus` decodes it.  **All three derive the same address**, and the
two questions differ only in what they make of the account that was read.  That address is derived
whenever one of 255 hashes names no point of the curve (`Address.claimStatus_derived_iff`); otherwise
zeros stand in for it, where a client would stop.

`Account.isPresent` is what they share: a missing account and an empty one are no claim, and any
other account is one, whatever is in it.
-/

namespace Airdrop

/-! ## Accounts -/

theorem Account.isPresent_eq_false_iff {found : Option Account} :
    Account.isPresent found = false ↔
      found = none ∨ ∃ account, found = some account ∧ account.data = [] := by
  cases found <;> simp [Account.isPresent]

theorem Account.isPresent_eq_true_iff {found : Option Account} :
    Account.isPresent found = true ↔ ∃ account, found = some account ∧ account.data ≠ [] := by
  cases found <;> simp [Account.isPresent]

/-- **An account put on a ledger is read there**, -/
theorem Snapshot.read_insert_self (s : Snapshot) (address : Address) (account : Account) :
    (s.insert address account).ledger.read address = .ok (some account) := by
  simp [Snapshot.ledger, Snapshot.insert, Snapshot.get?]

/-- …and changes no other. -/
theorem Snapshot.read_insert_of_ne (s : Snapshot) {address a : Address} (account : Account)
    (h : a ≠ address) : (s.insert address account).ledger.read a = s.ledger.read a := by
  simp [Snapshot.ledger, Snapshot.insert, Snapshot.get?, Std.HashMap.getElem?_insert, h.symm]

/-- There is no record in no bytes. -/
theorem Record.decode_nil (ρ : Type) [Record ρ] :
    Record.decode ρ [] = .error (.truncated (Record.length ρ) 0) := rfl

namespace Deployment

variable {d : Deployment} {claimant distributor address : Address} {account : Account}

/-- A record that cannot be decoded is reported with its address. -/
theorem exists_undecodable {ρ : Type} [Record ρ]
    (h : ∀ record : ρ, d.decode ρ address account ≠ .ok record) :
    ∃ fault, d.decode ρ address account = .error (.undecodable address fault) := by
  cases hdecode : d.decode ρ address account with
  | ok record => exact absurd hdecode (h record)
  | error error =>
    obtain ⟨fault, rfl, -⟩ := decode_eq_error hdecode
    exact ⟨fault, rfl⟩

/-! ## What the two questions make of an account -/

/-- An account that is no claim has no status, -/
theorem claimStatusOf_of_absent {found : Option Account} (h : Account.isPresent found = false) :
    d.claimStatusOf address found = .ok none := by
  rcases Account.isPresent_eq_false_iff.1 h with rfl | ⟨account, rfl, hempty⟩
  · rfl
  · rw [claimStatusOf, if_pos (by simp [hempty])]

/-- …and any other is decoded. -/
theorem claimStatusOf_of_present (h : account.data ≠ []) :
    d.claimStatusOf address (some account) = (d.decode ClaimStatus address account).map some := by
  rw [claimStatusOf, if_neg (by simpa using h)]

/-- **There is no status exactly if there is no claim.** -/
theorem claimStatusOf_eq_none_iff {found : Option Account} :
    d.claimStatusOf address found = .ok none ↔ Account.isPresent found = false := by
  refine ⟨fun h => ?_, claimStatusOf_of_absent⟩
  cases hpresent : Account.isPresent found with
  | false => rfl
  | true =>
    obtain ⟨account, rfl, hdata⟩ := Account.isPresent_eq_true_iff.1 hpresent
    rw [claimStatusOf_of_present hdata, map_eq_ok_iff] at h
    obtain ⟨record, -, hrecord⟩ := h
    cases hrecord

/-- **The status is the record of an account of the program.** -/
theorem claimStatusOf_eq_some_iff {found : Option Account} {status : ClaimStatus} :
    d.claimStatusOf address found = .ok (some status) ↔
      ∃ account, found = some account ∧ account.owner = d.program ∧
        Record.decode ClaimStatus account.data = .ok status := by
  constructor
  · intro h
    cases hpresent : Account.isPresent found with
    | false =>
      rw [claimStatusOf_of_absent hpresent] at h
      cases h
    | true =>
      obtain ⟨account, rfl, hdata⟩ := Account.isPresent_eq_true_iff.1 hpresent
      rw [claimStatusOf_of_present hdata, map_eq_ok_iff] at h
      obtain ⟨record, hdecode, hrecord⟩ := h
      cases hrecord
      exact ⟨account, rfl, decode_eq_ok_iff.1 hdecode⟩
  · rintro ⟨account, rfl, howner, hdecode⟩
    have hdata : account.data ≠ [] := fun hempty => by
      rw [hempty, Record.decode_nil] at hdecode
      cases hdecode
    rw [claimStatusOf_of_present hdata, map_eq_ok_iff]
    exact ⟨status, decode_eq_ok_iff.2 ⟨howner, hdecode⟩, rfl⟩

/-- **In every remaining case the account is reported.** -/
theorem exists_claimStatusOf_eq_error (hdata : account.data ≠ [])
    (h : ∀ status, ¬ (account.owner = d.program ∧
      Record.decode ClaimStatus account.data = .ok status)) :
    ∃ fault, d.claimStatusOf address (some account) = .error (.undecodable address fault) := by
  have hnone : ∀ status : ClaimStatus, d.decode ClaimStatus address account ≠ .ok status :=
    fun status => mt decode_eq_ok_iff.1 (h status)
  obtain ⟨fault, hfault⟩ := exists_undecodable hnone
  exact ⟨fault, by rw [claimStatusOf_of_present hdata, hfault]; rfl⟩

/-! ## The questions -/

theorem outcome_hasClaimed :
    (d.hasClaimed claimant distributor).outcome =
      (d.ledger.read (d.claimAccount claimant distributor)).map Account.isPresent := by
  unfold hasClaimed
  rw [Traced.outcome_bind]
  rfl

theorem outcome_claimStatus :
    (d.claimStatus claimant distributor).outcome =
      d.ledger.read (d.claimAccount claimant distributor) >>=
        d.claimStatusOf (d.claimAccount claimant distributor) := by
  unfold claimStatus
  rw [Traced.outcome_bind]
  rfl

/-- Both read one account, and nothing else. -/
theorem events_hasClaimed :
    (d.hasClaimed claimant distributor).events = [.read (d.claimAccount claimant distributor)] := by
  unfold hasClaimed
  rw [Traced.events_bind]
  cases h : (d.ledger.account (d.claimAccount claimant distributor)).outcome <;> rfl

theorem events_claimStatus :
    (d.claimStatus claimant distributor).events = [.read (d.claimAccount claimant distributor)] := by
  unfold claimStatus
  rw [Traced.events_bind]
  cases h : (d.ledger.account (d.claimAccount claimant distributor)).outcome <;> rfl

/-! ## The claim -/

variable {record : Distributor} {amount : UInt64} {proof : List Digest} {claim : Instruction}

/-- **A claim lists its claim status second**, to be changed. -/
theorem accounts_claimInstruction
    (h : d.claimInstruction distributor claimant record amount proof = .ok claim) :
    claim.program = d.program ∧
      claim.accounts[1]? = some ⟨d.claimAccount claimant distributor, false, true⟩ := by
  obtain ⟨data, -, rfl⟩ := claimInstruction_eq_ok_iff.1 h
  exact ⟨rfl, rfl⟩

/-- The claim is the last of the instructions. -/
theorem exists_claim_of_claimInstructions {instructions : List Instruction}
    (h : (d.claimInstructions distributor claimant amount proof).outcome = .ok instructions) :
    ∃ record before claim, instructions = before ++ [claim] ∧
      d.claimInstruction distributor claimant record amount proof = .ok claim := by
  obtain ⟨record, held, claim, -, -, hclaim, rfl⟩ := claimInstructions_eq_ok_iff.1 h
  exact ⟨record, _, claim, rfl, hclaim⟩

/-! ## All together -/

/-- The questions about a claimant depend on one account of the ledger. -/
theorem questions_congr (program : Address) {ledger ledger' : Ledger}
    (h : ledger'.read (Address.claimStatus program claimant distributor) =
      ledger.read (Address.claimStatus program claimant distributor)) :
    hasClaimed ⟨program, ledger'⟩ claimant distributor =
        hasClaimed ⟨program, ledger⟩ claimant distributor ∧
      claimStatus ⟨program, ledger'⟩ claimant distributor =
        claimStatus ⟨program, ledger⟩ claimant distributor := by
  have haccount : ledger'.account (Address.claimStatus program claimant distributor) =
      ledger.account (Address.claimStatus program claimant distributor) := by
    rw [Ledger.account, Ledger.account, h]
  constructor
  · unfold hasClaimed claimAccount
    rw [haccount]
  · simp only [claimStatus, claimAccount, haccount]
    rfl

theorem hasClaimed_eq_ok_iff {claimed : Bool} :
    (d.hasClaimed claimant distributor).outcome = .ok claimed ↔
      ∃ found, d.ledger.read (d.claimAccount claimant distributor) = .ok found ∧
        Account.isPresent found = claimed := by
  rw [outcome_hasClaimed, map_eq_ok_iff]

theorem claimStatus_eq_ok_iff {status : Option ClaimStatus} :
    (d.claimStatus claimant distributor).outcome = .ok status ↔
      ∃ found, d.ledger.read (d.claimAccount claimant distributor) = .ok found ∧
        d.claimStatusOf (d.claimAccount claimant distributor) found = .ok status := by
  rw [outcome_claimStatus, bind_eq_ok_iff]

/-- **Claiming twice is detected alike on every path.**  The account that a claim lists is the one
that both questions read.  A claimant has claimed exactly if that account holds anything; then there
is a status, or an error that names the account.  An account put there makes the claimant one who
has claimed, and changes no answer about a claimant with another account.  A failure to read it is
the answer of both questions. -/
theorem claims_detected_alike (d : Deployment) (claimant distributor : Address) :
    (∀ amount proof instructions,
      (d.claimInstructions distributor claimant amount proof).outcome = .ok instructions →
        ∃ before claim, instructions = before ++ [claim] ∧ claim.program = d.program ∧
          claim.accounts[1]? = some ⟨d.claimAccount claimant distributor, false, true⟩) ∧
    (d.hasClaimed claimant distributor).events = [.read (d.claimAccount claimant distributor)] ∧
    (d.claimStatus claimant distributor).events = [.read (d.claimAccount claimant distributor)] ∧
    ((d.hasClaimed claimant distributor).outcome = .ok false ↔
      (d.claimStatus claimant distributor).outcome = .ok none) ∧
    ((d.claimStatus claimant distributor).outcome = .ok none ↔
      d.ledger.read (d.claimAccount claimant distributor) = .ok none ∨
      ∃ account, d.ledger.read (d.claimAccount claimant distributor) = .ok (some account) ∧
        account.data = []) ∧
    ((d.hasClaimed claimant distributor).outcome = .ok true ↔
      ∃ account, d.ledger.read (d.claimAccount claimant distributor) = .ok (some account) ∧
        account.data ≠ []) ∧
    (∀ status, (d.claimStatus claimant distributor).outcome = .ok (some status) ↔
      ∃ account, d.ledger.read (d.claimAccount claimant distributor) = .ok (some account) ∧
        account.owner = d.program ∧ Record.decode ClaimStatus account.data = .ok status) ∧
    (∀ account, d.ledger.read (d.claimAccount claimant distributor) = .ok (some account) →
      account.data ≠ [] →
      (∀ status, ¬ (account.owner = d.program ∧
        Record.decode ClaimStatus account.data = .ok status)) →
      ∃ fault, (d.claimStatus claimant distributor).outcome =
        .error (.undecodable (d.claimAccount claimant distributor) fault)) ∧
    (∀ error, d.ledger.read (d.claimAccount claimant distributor) = .error error →
      (d.hasClaimed claimant distributor).outcome = .error error ∧
      (d.claimStatus claimant distributor).outcome = .error error) ∧
    (∀ account ledger', account.data ≠ [] →
      ledger'.read (d.claimAccount claimant distributor) = .ok (some account) →
      (∀ a, a ≠ d.claimAccount claimant distributor → ledger'.read a = d.ledger.read a) →
      (hasClaimed ⟨d.program, ledger'⟩ claimant distributor).outcome = .ok true ∧
      ∀ claimant' distributor',
        d.claimAccount claimant' distributor' ≠ d.claimAccount claimant distributor →
        hasClaimed ⟨d.program, ledger'⟩ claimant' distributor' =
            d.hasClaimed claimant' distributor' ∧
          claimStatus ⟨d.program, ledger'⟩ claimant' distributor' =
            d.claimStatus claimant' distributor') := by
  refine ⟨fun amount proof instructions h => ?_, events_hasClaimed, events_claimStatus, ?_, ?_, ?_,
    fun status => ?_, fun account hread hdata hnone => ?_, fun error hread => ?_,
    fun account ledger' hdata hplaced helse => ⟨?_, fun claimant' distributor' hne => ?_⟩⟩
  · obtain ⟨record, before, claim, hlist, hclaim⟩ := exists_claim_of_claimInstructions h
    exact ⟨before, claim, hlist, accounts_claimInstruction hclaim⟩
  · simp only [hasClaimed_eq_ok_iff, claimStatus_eq_ok_iff, claimStatusOf_eq_none_iff]
  · simp only [claimStatus_eq_ok_iff, claimStatusOf_eq_none_iff, Account.isPresent_eq_false_iff]
    constructor
    · rintro ⟨found, hread, rfl | ⟨account, rfl, hempty⟩⟩
      · exact .inl hread
      · exact .inr ⟨account, hread, hempty⟩
    · rintro (hread | ⟨account, hread, hempty⟩)
      · exact ⟨none, hread, .inl rfl⟩
      · exact ⟨some account, hread, .inr ⟨account, rfl, hempty⟩⟩
  · simp only [hasClaimed_eq_ok_iff, Account.isPresent_eq_true_iff]
    constructor
    · rintro ⟨found, hread, account, rfl, hdata⟩
      exact ⟨account, hread, hdata⟩
    · rintro ⟨account, hread, hdata⟩
      exact ⟨some account, hread, account, rfl, hdata⟩
  · simp only [claimStatus_eq_ok_iff, claimStatusOf_eq_some_iff]
    constructor
    · rintro ⟨found, hread, account, rfl, hrecord⟩
      exact ⟨account, hread, hrecord⟩
    · rintro ⟨account, hread, hrecord⟩
      exact ⟨some account, hread, account, rfl, hrecord⟩
  · rw [outcome_claimStatus, hread]
    exact exists_claimStatusOf_eq_error hdata hnone
  · rw [outcome_hasClaimed, outcome_claimStatus, hread]
    exact ⟨rfl, rfl⟩
  · have hpresent := Account.isPresent_eq_true_iff.2 ⟨account, rfl, hdata⟩
    exact hasClaimed_eq_ok_iff.2 ⟨some account, hplaced, hpresent⟩
  · exact questions_congr d.program (helse _ hne)

/-- Where every account is a distributor a claim can be made, and no claim status is decoded; an
account put on an empty ledger is one claimant's claim and no other's; and a ledger that cannot be
read gives its error. -/
theorem claims_detected_alike_of_default :
    (∃ instructions, (claimInstructions ⟨default, ⟨fun _ => .ok (some ⟨default,
        Record.encode ({} : Distributor)⟩), fun _ => .ok []⟩⟩ default default 5 []).outcome
          = .ok instructions ∧
      ∃ before claim, instructions = before ++ [claim] ∧ claim.program = default ∧
        claim.accounts[1]? = some ⟨Address.claimStatus default default default, false, true⟩) ∧
    (∃ fault, (claimStatus ⟨default, ⟨fun _ => .ok (some ⟨default,
        Record.encode ({} : Distributor)⟩), fun _ => .ok []⟩⟩ default default).outcome =
      .error (.undecodable (Address.claimStatus default default default) fault)) ∧
    (hasClaimed ⟨default, (Snapshot.empty.insert (Address.claimStatus default default default)
        ⟨default, [1]⟩).ledger⟩ default default).outcome = .ok true ∧
    (hasClaimed ⟨default, (Snapshot.empty.insert (Address.claimStatus default default default)
        ⟨default, [1]⟩).ledger⟩ ⟨.replicate 32 1⟩ default).outcome = .ok false ∧
    (claimStatus ⟨default, ⟨fun _ => .error .arithmetic, fun _ => .ok []⟩⟩ default default).outcome =
      .error .arithmetic := by
  have hclaim : (claimInstructions ⟨default, ⟨fun _ => .ok (some ⟨default,
      Record.encode ({} : Distributor)⟩), fun _ => .ok []⟩⟩ default default 5 []).outcome.isOk := by
    decide +kernel
  have hkind : (Record.decode ClaimStatus (Record.encode ({} : Distributor))).isOk = false := by
    decide +kernel
  have hother : Address.claimStatus default ⟨.replicate 32 1⟩ default ≠
      Address.claimStatus default default default := by
    decide +kernel
  obtain ⟨hlisted, -, -, -, -, -, -, hundecodable, -⟩ := claims_detected_alike ⟨default,
    ⟨fun _ => .ok (some ⟨default, Record.encode ({} : Distributor)⟩), fun _ => .ok []⟩⟩
    default default
  obtain ⟨-, -, -, -, -, -, -, -, -, hplaced⟩ := claims_detected_alike
    ⟨default, Snapshot.empty.ledger⟩ default default
  obtain ⟨-, -, -, -, -, -, -, -, hfailing, -⟩ := claims_detected_alike ⟨default,
    ⟨fun _ => .error .arithmetic, fun _ => .ok []⟩⟩ default default
  obtain ⟨hclaimed, helse⟩ := hplaced ⟨default, [1]⟩ _ (by simp)
    (Snapshot.read_insert_self Snapshot.empty _ _)
    fun a hne => Snapshot.read_insert_of_ne Snapshot.empty _ hne
  refine ⟨?_, hundecodable _ rfl (by decide +kernel) ?_, hclaimed, ?_, (hfailing _ rfl).2⟩
  · cases houtcome : (claimInstructions ⟨default, ⟨fun _ => .ok (some ⟨default,
      Record.encode ({} : Distributor)⟩), fun _ => .ok []⟩⟩ default default 5 []).outcome with
    | ok instructions => exact ⟨instructions, rfl, hlisted _ _ _ houtcome⟩
    | error e =>
      rw [houtcome] at hclaim
      cases hclaim
  · rintro status ⟨-, hdecode⟩
    rw [hdecode] at hkind
    cases hkind
  · refine (congrArg Traced.outcome (helse _ _ hother).1).trans (hasClaimed_eq_ok_iff.2 ?_)
    exact ⟨none, by simp [Snapshot.ledger, Snapshot.get?, Snapshot.empty], rfl⟩

end Deployment

end Airdrop
