import Airdrop.Proofs.Deployment.Claimed
import Airdrop.Proofs.Deployment.Totals

/-!
# Proofs/Deployment/Together — distributors read together are those read one by one

A ledger reads alike if reading several accounts at once gives what reading each of them gives, as
every snapshot does (`Ledger.ReadsAlike`).  On such a ledger **reading distributors together is
reading them one after the other**, but that one which is not found is left out instead of failing
(`outcome_distributors_eq`).  Everything else follows from that equation, position by position.

A reading that gives another number of accounts than were asked for is refused as a whole, so no
account is ever taken for that of another address.
-/

namespace Airdrop

variable {α : Type} {result : Except LedgerError α} {a : α} {e : LedgerError}

/-! ## Reading alike -/

/-- **A ledger reads some addresses alike**, one by one or together. -/
def Ledger.ReadsAlike (ledger : Ledger) (addresses : List Address) : Prop :=
  ∃ accounts, ledger.readMany addresses = .ok accounts ∧
    List.Forall₂ (fun address found => ledger.read address = .ok found) addresses accounts

/-- Every snapshot does. -/
theorem Snapshot.readsAlike (s : Snapshot) (addresses : List Address) :
    s.ledger.ReadsAlike addresses :=
  ⟨_, rfl, List.forall₂_map_right_iff.2 (List.forall₂_same.2 fun _ _ => rfl)⟩

/-- What is not found is left out. -/
def orMissing : Except LedgerError α → Except LedgerError (Option α)
  | .ok a => .ok (some a)
  | .error (.notFound _) => .ok none
  | .error e => .error e

theorem orMissing_eq_some_iff : orMissing result = .ok (some a) ↔ result = .ok a := by
  unfold orMissing
  split <;> simp_all

namespace Deployment

variable {d : Deployment} {addresses : List Address} {address : Address}
  {found : Option Account} {accounts : List (Option Account)}

/-! ## One distributor -/

/-- Of one account, reading together makes what reading it alone makes. -/
theorem distributorOf?_eq (d : Deployment) (address : Address) (found : Option Account) :
    d.distributorOf? address found = orMissing (d.distributorOf address found) := by
  cases found with
  | none => rfl
  | some account =>
    rw [distributorOf?, distributorOf, decode]
    cases Record.decodeOwned Distributor d.program account.owner account.data <;> rfl

theorem outcome_distributor_of_read (h : d.ledger.read address = .ok found) :
    (d.distributor address).outcome = d.distributorOf address found := by
  rw [outcome_distributor, h]
  rfl

/-- **An account that was read** is a distributor, is not there, or cannot be decoded. -/
theorem outcome_distributor_cases (h : d.ledger.read address = .ok found) :
    (∃ record, (d.distributor address).outcome = .ok record) ∨
      (d.distributor address).outcome = .error (.notFound address) ∨
      ∃ fault, (d.distributor address).outcome = .error (.undecodable address fault) := by
  rw [outcome_distributor_of_read h]
  cases found with
  | none => exact .inr (.inl rfl)
  | some account =>
    rw [distributorOf, decode]
    cases Record.decodeOwned Distributor d.program account.owner account.data with
    | ok record => exact .inl ⟨record, rfl⟩
    | error fault => exact .inr (.inr ⟨fault, rfl⟩)

/-! ## Several distributors -/

theorem outcome_distributors_of_read (hread : d.ledger.readMany addresses = .ok accounts) :
    (d.distributors addresses).outcome = paired addresses accounts >>= fun pairs =>
      pairs.mapM fun pair => d.distributorOf? pair.1 pair.2 := by
  have haccounts : (d.ledger.accounts addresses).outcome = .ok accounts := hread
  rw [distributors, Traced.outcome_bind_of_ok haccounts]
  rfl

/-- A pass over addresses and what was read for them is a pass over the addresses. -/
theorem mapM_zip_eq (h : List.Forall₂ (fun address found => d.ledger.read address = .ok found)
    addresses accounts) :
    ((addresses.zip accounts).mapM fun pair => d.distributorOf? pair.1 pair.2) =
      addresses.mapM fun address => orMissing (d.distributor address).outcome := by
  induction h with
  | nil => rfl
  | @cons address found addresses accounts hread _ ih =>
    rw [List.zip_cons_cons, List.mapM_cons, List.mapM_cons, ih, outcome_distributor_of_read hread,
      distributorOf?_eq]

/-- **Reading together is reading one after the other**, where what is not found is left out. -/
theorem outcome_distributors_eq (h : d.ledger.ReadsAlike addresses) :
    (d.distributors addresses).outcome =
      addresses.mapM fun address => orMissing (d.distributor address).outcome := by
  obtain ⟨accounts, hread, hall⟩ := h
  rw [outcome_distributors_of_read hread, paired, if_pos hall.length_eq.symm, ← mapM_zip_eq hall]
  rfl

section

variable (h : d.ledger.ReadsAlike addresses) (haddress : address ∈ addresses)

include h haddress

/-- Each of the accounts can be read by itself. -/
theorem exists_read : ∃ found, d.ledger.read address = .ok found := by
  obtain ⟨accounts, -, hall⟩ := h
  exact exists_forall₂_iff.1 ⟨accounts, hall⟩ address haddress

/-- **What is left out** was not found under its address, -/
theorem orMissing_eq_none_iff : orMissing (d.distributor address).outcome = .ok none ↔
    (d.distributor address).outcome = .error (.notFound address) := by
  obtain ⟨found, hread⟩ := exists_read h haddress
  rcases outcome_distributor_cases hread with ⟨record, hone⟩ | hone | ⟨fault, hone⟩ <;>
    simp [hone, orMissing]

/-- …what fails cannot be decoded, -/
theorem orMissing_eq_error_iff : orMissing (d.distributor address).outcome = .error e ↔
    ∃ fault, e = .undecodable address fault ∧ (d.distributor address).outcome = .error e := by
  obtain ⟨found, hread⟩ := exists_read h haddress
  rcases outcome_distributor_cases hread with ⟨record, hone⟩ | hone | ⟨fault, hone⟩
  · simp [hone, orMissing]
  · refine iff_of_false (by simp [hone, orMissing]) ?_
    rintro ⟨fault, rfl, heq⟩
    cases hone.symm.trans heq
  · simpa [hone, orMissing] using fun heq => ⟨fault, heq.symm⟩

/-- …and nothing else fails. -/
theorem exists_orMissing_iff :
    (∃ distributor, orMissing (d.distributor address).outcome = .ok distributor) ↔
      ∀ other fault, (d.distributor address).outcome ≠ .error (.undecodable other fault) := by
  obtain ⟨found, hread⟩ := exists_read h haddress
  rcases outcome_distributor_cases hread with ⟨record, hone⟩ | hone | ⟨fault, hone⟩ <;>
    simp [hone, orMissing]

end

/-- **Distributors read together are those read one by one.**  On a ledger that reads alike, they
are there exactly if none of them fails to be decoded by itself; then there is one for each address,
at its place: the distributor that is read there, or nothing where none is found.  Otherwise the
failure is that of the first that cannot be decoded.  All of it takes a single reading, and one that
gives more or fewer accounts than asked for gives no distributors.  Every snapshot reads alike. -/
theorem distributors_agree (d : Deployment) (addresses : List Address) :
    (d.ledger.ReadsAlike addresses →
      ((∃ found, (d.distributors addresses).outcome = .ok found) ↔
        ∀ a ∈ addresses, ∀ other fault,
          (d.distributor a).outcome ≠ .error (.undecodable other fault)) ∧
      (∀ found, (d.distributors addresses).outcome = .ok found →
        found.length = addresses.length ∧ ∀ (i : Nat) a, addresses[i]? = some a →
          (∀ record, found[i]? = some (some record) ↔ (d.distributor a).outcome = .ok record) ∧
          (found[i]? = some none ↔ (d.distributor a).outcome = .error (.notFound a))) ∧
      ∀ e, (d.distributors addresses).outcome = .error e ↔
        ∃ (i : Nat) (a : Address) (fault : DecodeFault), addresses[i]? = some a ∧
          e = .undecodable a fault ∧ (d.distributor a).outcome = .error e ∧
          ∀ (j : Nat) b, j < i → addresses[j]? = some b → ∀ other fault,
            (d.distributor b).outcome ≠ .error (.undecodable other fault)) ∧
    (d.distributors addresses).events = [.readMany addresses] ∧
    (∀ accounts, d.ledger.readMany addresses = .ok accounts →
      accounts.length ≠ addresses.length → (d.distributors addresses).outcome =
        .error (.batchLength addresses.length accounts.length)) ∧
    ∀ s : Snapshot, s.ledger.ReadsAlike addresses := by
  refine ⟨fun h => ?_, ?_, fun accounts hread hlength => ?_, fun s => s.readsAlike addresses⟩
  · rw [outcome_distributors_eq h]
    refine ⟨?_, fun found hfound => ?_, fun e => ?_⟩
    · rw [exists_mapM_iff]
      exact forall₂_congr fun a ha => exists_orMissing_iff h ha
    · obtain ⟨hlength, hget⟩ := getElem?_of_mapM hfound
      refine ⟨hlength, fun i a ha => ?_⟩
      obtain ⟨distributor, hdistributor, hone⟩ := hget i a ha
      rw [hdistributor, ← orMissing_eq_none_iff h (List.mem_of_getElem? ha), hone]
      refine ⟨fun record => ?_, by simp⟩
      rw [← orMissing_eq_some_iff, hone]
      simp
    · rw [mapM_eq_error_iff]
      refine exists_congr fun i => exists_congr fun a => ?_
      constructor
      · rintro ⟨ha, herror, hearlier⟩
        obtain ⟨fault, rfl, hone⟩ :=
          (orMissing_eq_error_iff h (List.mem_of_getElem? ha)).1 herror
        exact ⟨fault, ha, rfl, hone, fun j b hj hb =>
          (exists_orMissing_iff h (List.mem_of_getElem? hb)).1 (hearlier j b hj hb)⟩
      · rintro ⟨fault, ha, rfl, hone, hearlier⟩
        exact ⟨ha, (orMissing_eq_error_iff h (List.mem_of_getElem? ha)).2 ⟨fault, rfl, hone⟩,
          fun j b hj hb =>
            (exists_orMissing_iff h (List.mem_of_getElem? hb)).2 (hearlier j b hj hb)⟩
  · rw [distributors, Traced.events_bind]
    cases (d.ledger.accounts addresses).outcome <;> rfl
  · rw [outcome_distributors_of_read hread, paired, if_neg hlength]
    rfl

/-- A distributor, and an account of another program. -/
def mixed : Snapshot :=
  (Snapshot.empty.insert default ⟨default, Record.encode halfClaimed⟩).insert (.ofNumber 1)
    ⟨.ofNumber 1, []⟩

theorem read_mixed : mixed.ledger.read default = .ok (some ⟨default, Record.encode halfClaimed⟩) ∧
    mixed.ledger.read (.ofNumber 1) = .ok (some ⟨.ofNumber 1, []⟩) ∧
    mixed.ledger.read (.ofNumber 2) = .ok none := by
  have hone : (default : Address) ≠ .ofNumber 1 := by decide +kernel
  have htwo : Address.ofNumber 2 ≠ .ofNumber 1 ∧ Address.ofNumber 2 ≠ default := by decide +kernel
  refine ⟨?_, Snapshot.read_insert_self _ _ _, ?_⟩
  · rw [mixed, Snapshot.read_insert_of_ne _ _ hone, Snapshot.read_insert_self]
  · rw [mixed, Snapshot.read_insert_of_ne _ _ htwo.1, Snapshot.read_insert_of_ne _ _ htwo.2]
    simp [Snapshot.ledger, Snapshot.get?, Snapshot.empty]

/-- Its deployment. -/
def mixedDeployment : Deployment := ⟨default, mixed.ledger⟩

theorem outcome_mixed : (mixedDeployment.distributor default).outcome = .ok halfClaimed ∧
    (mixedDeployment.distributor (.ofNumber 1)).outcome =
      .error (.undecodable (.ofNumber 1) (.foreign default (.ofNumber 1))) ∧
    (mixedDeployment.distributor (.ofNumber 2)).outcome = .error (.notFound (.ofNumber 2)) := by
  obtain ⟨hgood, hforeign, hmissing⟩ := read_mixed
  have hne : Address.ofNumber 1 ≠ default := by decide +kernel
  refine ⟨outcome_distributor_eq_ok_iff.2 ⟨_, hgood, rfl, decode_halfClaimed⟩,
    (outcome_distributor_of_read hforeign).trans ?_,
    (outcome_distributor_of_read hmissing).trans rfl⟩
  have hfault : Record.decodeOwned Distributor mixedDeployment.program
      (⟨.ofNumber 1, []⟩ : Account).owner (⟨.ofNumber 1, []⟩ : Account).data =
        .error (.foreign default (.ofNumber 1)) := if_pos hne
  rw [distributorOf, decode, hfault]

/-- One that is missing is left out, but the foreign one is told of; and with an answer too few,
nothing is made of the others. -/
theorem distributors_agree_of_mixed :
    (∃ found, (mixedDeployment.distributors [.ofNumber 2, default]).outcome = .ok found ∧
      found[0]? = some none ∧ found[1]? = some (some halfClaimed)) ∧
    (mixedDeployment.distributors [.ofNumber 2, .ofNumber 1, default]).outcome =
      .error (.undecodable (.ofNumber 1) (.foreign default (.ofNumber 1))) ∧
    ((⟨default, Disturbance.short.apply mixed.ledger⟩ : Deployment).distributors
      [.ofNumber 2, default]).outcome = .error (.batchLength 2 1) := by
  obtain ⟨hgood, hforeign, hmissing⟩ := outcome_mixed
  obtain ⟨halike, -, -, hsnapshot⟩ := distributors_agree mixedDeployment [.ofNumber 2, default]
  obtain ⟨halike', -⟩ :=
    distributors_agree mixedDeployment [.ofNumber 2, .ofNumber 1, default]
  obtain ⟨-, -, hshort, -⟩ := distributors_agree
    ⟨default, Disturbance.short.apply mixed.ledger⟩ [.ofNumber 2, default]
  obtain ⟨hthere, hfound, -⟩ := halike (hsnapshot mixed)
  obtain ⟨-, -, hfails⟩ := halike' (mixed.readsAlike _)
  refine ⟨?_, (hfails _).2 ⟨1, .ofNumber 1, _, rfl, rfl, hforeign, ?_⟩, hshort _ rfl (by decide)⟩
  · obtain ⟨found, hok⟩ := hthere.2 (by simp [hmissing, hgood])
    obtain ⟨-, hat⟩ := hfound found hok
    exact ⟨found, hok, (hat 0 _ rfl).2.2 hmissing, ((hat 1 _ rfl).1 _).2 hgood⟩
  · intro j b hj hb
    obtain rfl : j = 0 := Nat.lt_one_iff.1 hj
    cases hb
    simp [hmissing]

end Deployment

end Airdrop
