import Airdrop.Proofs.Deployment.Assembly
import Airdrop.Proofs.Record
import Airdrop.Proofs.Word
import Mathlib.Data.List.Perm.Basic

/-!
# Proofs/Deployment/Totals — stats are added up exactly, or not at all

A reading of several accounts gives totals exactly if every one of them holds a distributor whose
progress can be told (`Reports`) and each of the four sums fits in 64 bits.  There are then **no
totals but the exact ones**, and the order of the request does not matter to them.

Otherwise the request fails, and `NoTotals` says why.  The accounts are decoded in a first pass and
reported in a second one, so **an account that cannot be decoded is told of before a missing one**,
even if it stands behind it.
-/

namespace Airdrop

/-! ## Sums -/

namespace Totals

variable {part : Progress → UInt64} {list : List Progress} {total : UInt64} {t : Totals}
  {e : LedgerError}

theorem sum_eq_ok_iff :
    sum part list = .ok total ↔ (list.map fun p => (part p).toNat).sum = total.toNat := by
  rw [← Function.comp_def, ← List.map_map, ← Word.sum?_eq_some_iff, sum]
  split <;> simp_all

/-- A sum fails only by overflowing. -/
theorem eq_arithmetic_of_sum (h : sum part list = .error e) : e = .arithmetic := by
  rw [sum] at h
  split at h
  · cases h
  · exact (Except.error.inj h).symm

/-- **Totals are exact for a list**: each is the sum of its numbers. -/
structure Exact (t : Totals) (list : List Progress) : Prop where
  distributors : t.distributors = list
  claimed : (list.map fun p => p.claimed.toNat).sum = t.claimed.toNat
  remaining : (list.map fun p => p.remaining.toNat).sum = t.remaining.toNat
  users : (list.map fun p => p.users.toNat).sum = t.users.toNat
  usersClaimed : (list.map fun p => p.usersClaimed.toNat).sum = t.usersClaimed.toNat

/-- **The four sums of a list fit in 64 bits.** -/
structure Fits (list : List Progress) : Prop where
  claimed : (list.map fun p => p.claimed.toNat).sum < 2 ^ 64
  remaining : (list.map fun p => p.remaining.toNat).sum < 2 ^ 64
  users : (list.map fun p => p.users.toNat).sum < 2 ^ 64
  usersClaimed : (list.map fun p => p.usersClaimed.toNat).sum < 2 ^ 64

/-- **Exact totals do not depend on the order**, -/
theorem Exact.perm {list' : List Progress} (h : t.Exact list) (hperm : list'.Perm list) :
    ({ t with distributors := list' } : Totals).Exact list' where
  distributors := rfl
  claimed := (hperm.map _).sum_eq.trans h.claimed
  remaining := (hperm.map _).sum_eq.trans h.remaining
  users := (hperm.map _).sum_eq.trans h.users
  usersClaimed := (hperm.map _).sum_eq.trans h.usersClaimed

theorem ofList_eq_ok_iff : ofList list = .ok t ↔ t.Exact list := by
  simp only [ofList, bind_eq_ok_iff, sum_eq_ok_iff]
  constructor
  · rintro ⟨claimed, hclaimed, remaining, hremaining, users, husers, usersClaimed, hboth, h⟩
    obtain rfl := Except.ok.inj h
    exact ⟨rfl, hclaimed, hremaining, husers, hboth⟩
  · rintro ⟨rfl, hclaimed, hremaining, husers, hboth⟩
    exact ⟨_, hclaimed, _, hremaining, _, husers, _, hboth, rfl⟩

/-- …there are some if all sums fit, -/
theorem exists_exact_iff : (∃ t : Totals, t.Exact list) ↔ Fits list := by
  constructor
  · rintro ⟨t, h⟩
    exact ⟨h.claimed ▸ t.claimed.toNat_lt, h.remaining ▸ t.remaining.toNat_lt,
      h.users ▸ t.users.toNat_lt, h.usersClaimed ▸ t.usersClaimed.toNat_lt⟩
  · intro h
    exact ⟨⟨.ofNat _, .ofNat _, .ofNat _, .ofNat _, list⟩, rfl,
      (UInt64.toNat_ofNat_of_lt' h.claimed).symm, (UInt64.toNat_ofNat_of_lt' h.remaining).symm,
      (UInt64.toNat_ofNat_of_lt' h.users).symm, (UInt64.toNat_ofNat_of_lt' h.usersClaimed).symm⟩

theorem eq_arithmetic_of_ofList (h : ofList list = .error e) : e = .arithmetic := by
  simp only [ofList, bind_eq_error_iff] at h
  rcases h with h | ⟨_, -, h | ⟨_, -, h | ⟨_, -, h | ⟨_, -, hpure⟩⟩⟩⟩
  · exact eq_arithmetic_of_sum h
  · exact eq_arithmetic_of_sum h
  · exact eq_arithmetic_of_sum h
  · exact eq_arithmetic_of_sum h
  · cases hpure

/-- …and otherwise a sum has overflowed. -/
theorem ofList_eq_error_iff : ofList list = .error e ↔ e = .arithmetic ∧ ¬ Fits list := by
  rw [← exists_exact_iff]
  simp only [← ofList_eq_ok_iff]
  constructor
  · intro h
    exact ⟨eq_arithmetic_of_ofList h, fun ⟨t, ht⟩ => by simp [h] at ht⟩
  · rintro ⟨rfl, hnone⟩
    rcases h : ofList list with e | t
    · rw [eq_arithmetic_of_ofList h]
    · exact absurd ⟨t, h⟩ hnone

end Totals

/-! ## One distributor -/

namespace Deployment

variable {d : Deployment} {addresses addresses' : List Address}
  {accounts accounts' : List (Option Account)} {found : Option Account} {address : Address}
  {record : Distributor} {p : Progress} {e : LedgerError}

/-- **A progress reports on an account that was read**: the program owns the account, it decodes to
a distributor, and what is claimed and what remains are all that the distributor had. -/
def Reports (d : Deployment) (address : Address) (found : Option Account) (p : Progress) : Prop :=
  ∃ account record, found = some account ∧ account.owner = d.program ∧
    Record.decode Distributor account.data = .ok record ∧ p.address = address ∧
    p.claimed = record.claimedTotal ∧
    p.claimed.toNat + p.remaining.toNat = record.maxTotal.toNat ∧
    p.users = record.maxNodes ∧ p.usersClaimed = record.claimedNodes

theorem ofDistributor_eq_ok_iff : Progress.ofDistributor address record = .ok p ↔
    p.address = address ∧ p.claimed = record.claimedTotal ∧
      p.claimed.toNat + p.remaining.toNat = record.maxTotal.toNat ∧
      p.users = record.maxNodes ∧ p.usersClaimed = record.claimedNodes := by
  obtain ⟨a, claimed, remaining, users, usersClaimed⟩ := p
  by_cases hle : record.claimedTotal ≤ record.maxTotal
  · have hsub := UInt64.toNat_sub_of_le _ _ hle
    have hnat := UInt64.le_iff_toNat_le.1 hle
    simp only [Progress.ofDistributor, Distributor.remaining?, Word.sub?, if_pos hle,
      Except.ok.injEq, Progress.mk.injEq, ← UInt64.toNat_inj, hsub]
    constructor <;> rintro ⟨rfl, hclaimed, hremaining, husers, hboth⟩
    · exact ⟨rfl, by omega, by omega, by omega, by omega⟩
    · exact ⟨rfl, by omega, by omega, by omega, by omega⟩
  · have hnat := mt UInt64.le_iff_toNat_le.2 hle
    simp only [Progress.ofDistributor, Distributor.remaining?, Word.sub?, if_neg hle]
    constructor
    · nofun
    · rintro ⟨-, rfl, hsum, -⟩
      omega

/-- A progress fails only if more has been claimed than there was. -/
theorem ofDistributor_eq_error_iff : Progress.ofDistributor address record = .error e ↔
    record.maxTotal < record.claimedTotal ∧
      e = .inconsistent address record.claimedTotal record.maxTotal := by
  rw [← UInt64.not_le]
  by_cases hle : record.claimedTotal ≤ record.maxTotal
  · simp [Progress.ofDistributor, Distributor.remaining?, Word.sub?, hle]
  · simp [Progress.ofDistributor, Distributor.remaining?, Word.sub?, hle, eq_comm]

/-! ## Two passes -/

/-- **An account that was read decodes**, if it is there. -/
def Decodes (d : Deployment) (found : Option Account) : Prop :=
  ∀ account, found = some account → ∃ record,
    Record.decodeOwned Distributor d.program account.owner account.data = .ok record

/-- **The first pass** finds nothing where nothing is, and a distributor where it decodes. -/
theorem distributorOf?_eq_ok_iff {distributor : Option Distributor} :
    d.distributorOf? address found = .ok distributor ↔
      (found = none ∧ distributor = none) ∨
      ∃ account record, found = some account ∧ distributor = some record ∧
        Record.decodeOwned Distributor d.program account.owner account.data = .ok record := by
  rcases found with _ | account
  · simp [distributorOf?, eq_comm]
  · rw [distributorOf?, map_eq_ok_iff, decode]
    cases h : Record.decodeOwned Distributor d.program account.owner account.data <;>
      simp [h, eq_comm]

theorem distributorOf?_eq_error_iff : d.distributorOf? address found = .error e ↔
    ∃ account fault, found = some account ∧ e = .undecodable address fault ∧
      Record.decodeOwned Distributor d.program account.owner account.data = .error fault := by
  rcases found with _ | account
  · simp [distributorOf?]
  · rw [distributorOf?, decode]
    cases h : Record.decodeOwned Distributor d.program account.owner account.data <;>
      simp [h, Except.map, eq_comm]

theorem exists_distributorOf?_iff :
    (∃ distributor, d.distributorOf? address found = .ok distributor) ↔ d.Decodes found := by
  rcases found with _ | account
  · exact ⟨fun _ _ => nofun, fun _ => ⟨none, rfl⟩⟩
  · simp [distributorOf?_eq_ok_iff, Decodes]

section

variable {distributor : Option Distributor} (h : d.distributorOf? address found = .ok distributor)

include h

/-- **The second pass** reports on what the first one has found, -/
theorem progressOf_eq_ok_iff : progressOf address distributor = .ok p ↔
    d.Reports address found p := by
  rcases distributorOf?_eq_ok_iff.1 h with ⟨rfl, rfl⟩ | ⟨account, record, rfl, rfl, hdecode⟩
  · simp [progressOf, Reports]
  · obtain ⟨howner, hrecord⟩ := Record.decodeOwned_eq_ok_iff.1 hdecode
    simp [progressOf, Reports, howner, hrecord, ofDistributor_eq_ok_iff]

/-- …and fails where there is none, or one that has given out more than it had. -/
theorem progressOf_eq_error_iff : progressOf address distributor = .error e ↔
    (found = none ∧ e = .notFound address) ∨
    ∃ account record, found = some account ∧
      Record.decodeOwned Distributor d.program account.owner account.data = .ok record ∧
      record.maxTotal < record.claimedTotal ∧
      e = .inconsistent address record.claimedTotal record.maxTotal := by
  rcases distributorOf?_eq_ok_iff.1 h with ⟨rfl, rfl⟩ | ⟨account, record, rfl, rfl, hdecode⟩
  · simp [progressOf, eq_comm]
  · simp [progressOf, hdecode, ofDistributor_eq_error_iff]

end

/-- **Both passes give the reports on all accounts.** -/
theorem passes_eq_ok_iff : ∀ (addresses : List Address) (accounts : List (Option Account))
    (list : List Progress), accounts.length = addresses.length →
    ((∃ found, ((addresses.zip accounts).mapM fun pair => d.distributorOf? pair.1 pair.2) =
        .ok found ∧
      ((addresses.zip found).mapM fun pair => progressOf pair.1 pair.2) = .ok list) ↔
      List.Forall₂ (fun pair p => d.Reports pair.1 pair.2 p) (addresses.zip accounts) list)
  | [], [], list, _ => by
      simp only [mapM_eq_ok_iff, List.zip_nil_left, List.forall₂_nil_left_iff]
      exact ⟨fun ⟨_, _, h⟩ => h, fun h => ⟨[], rfl, h⟩⟩
  | a :: addresses, found :: accounts, list, hlength => by
      have ih := fun list => passes_eq_ok_iff addresses accounts list (Nat.succ.inj hlength)
      simp only [mapM_eq_ok_iff] at ih ⊢
      simp only [List.zip_cons_cons, List.forall₂_cons_left_iff]
      constructor
      · rintro ⟨_, ⟨distributor, others, hfirst, hothers, rfl⟩, hsecond⟩
        rw [List.zip_cons_cons, List.forall₂_cons_left_iff] at hsecond
        obtain ⟨p, rest, hp, hrest, rfl⟩ := hsecond
        exact ⟨p, rest, (progressOf_eq_ok_iff hfirst).1 hp, (ih rest).1 ⟨others, hothers, hrest⟩, rfl⟩
      · rintro ⟨p, rest, hp, hrest, rfl⟩
        obtain ⟨others, hothers, hsecond⟩ := (ih rest).2 hrest
        obtain ⟨account, record, rfl, howner, hrecord, -⟩ := id hp
        have hfirst : d.distributorOf? a (some account) = .ok (some record) :=
          distributorOf?_eq_ok_iff.2 (.inr ⟨account, record, rfl, rfl,
            Record.decodeOwned_eq_ok_iff.2 ⟨howner, hrecord⟩⟩)
        exact ⟨some record :: others, ⟨_, _, hfirst, hothers, rfl⟩,
          .cons ((progressOf_eq_ok_iff hfirst).2 hp) hsecond⟩

/-! ## All of them -/

theorem outcome_totals : (d.totals addresses).outcome =
    d.ledger.readMany addresses >>= fun accounts => paired addresses accounts >>= fun pairs =>
      (pairs.mapM fun pair => d.distributorOf? pair.1 pair.2) >>= fun found =>
        ((addresses.zip found).mapM fun pair => progressOf pair.1 pair.2) >>= Totals.ofList := by
  simp only [totals, distributors, Traced.outcome_bind, Traced.outcome_ofExcept,
    Traced.outcome_note, Traced.outcome_pure, bind_assoc]
  exact bind_congr fun accounts => bind_congr fun pairs => bind_congr fun found =>
    bind_congr fun list => bind_pure (Totals.ofList list)

theorem paired_eq_ok_iff {pairs : List (Address × Option Account)} :
    paired addresses accounts = .ok pairs ↔
      accounts.length = addresses.length ∧ pairs = addresses.zip accounts := by
  unfold paired
  split <;> simp_all [eq_comm]

theorem paired_eq_error_iff : paired addresses accounts = .error e ↔
    accounts.length ≠ addresses.length ∧ e = .batchLength addresses.length accounts.length := by
  unfold paired
  split <;> simp_all [eq_comm]

/-- **The totals of a request** are exact for the reports on its accounts. -/
theorem totals_eq_ok_iff {t : Totals} : (d.totals addresses).outcome = .ok t ↔
    ∃ accounts, d.ledger.readMany addresses = .ok accounts ∧
      accounts.length = addresses.length ∧
      List.Forall₂ (fun pair p => d.Reports pair.1 pair.2 p) (addresses.zip accounts)
        t.distributors ∧
      t.Exact t.distributors := by
  simp only [outcome_totals, bind_eq_ok_iff, paired_eq_ok_iff, Totals.ofList_eq_ok_iff]
  constructor
  · rintro ⟨accounts, hread, _, ⟨hlength, rfl⟩, found, hfound, list, hlist, ht⟩
    obtain rfl := ht.distributors
    exact ⟨accounts, hread, hlength, (passes_eq_ok_iff _ _ _ hlength).1 ⟨found, hfound, hlist⟩, ht⟩
  · rintro ⟨accounts, hread, hlength, hreports, ht⟩
    obtain ⟨found, hfound, hlist⟩ := (passes_eq_ok_iff _ _ _ hlength).2 hreports
    exact ⟨accounts, hread, _, ⟨hlength, rfl⟩, found, hfound, _, hlist, ht⟩

/-- **Why there are no totals of some addresses**, and what the failure is. -/
inductive NoTotals (d : Deployment) (addresses : List Address) : LedgerError → Prop
  /-- The accounts could not be read. -/
  | unread {e : LedgerError} (hread : d.ledger.readMany addresses = .error e) :
      NoTotals d addresses e
  /-- There are more accounts than addresses, or fewer. -/
  | miscounted {accounts : List (Option Account)}
      (hread : d.ledger.readMany addresses = .ok accounts)
      (hlength : accounts.length ≠ addresses.length) :
      NoTotals d addresses (.batchLength addresses.length accounts.length)
  /-- An account is no distributor of the program, and it is the first such. -/
  | undecodable {accounts : List (Option Account)} {i : Nat} {address : Address}
      {account : Account} {fault : DecodeFault}
      (hread : d.ledger.readMany addresses = .ok accounts)
      (hlength : accounts.length = addresses.length)
      (haddress : addresses[i]? = some address) (haccount : accounts[i]? = some (some account))
      (hfault : Record.decodeOwned Distributor d.program account.owner account.data = .error fault)
      (hearlier : ∀ (j : Nat) found, j < i → accounts[j]? = some found → d.Decodes found) :
      NoTotals d addresses (.undecodable address fault)
  /-- All accounts that are there are distributors; one is not there, and all before it can be
  reported on. -/
  | missing {accounts : List (Option Account)} {i : Nat} {address : Address}
      (hread : d.ledger.readMany addresses = .ok accounts)
      (hlength : accounts.length = addresses.length)
      (hall : ∀ found ∈ accounts, d.Decodes found)
      (haddress : addresses[i]? = some address) (haccount : accounts[i]? = some none)
      (hearlier : ∀ (j : Nat) a found, j < i → addresses[j]? = some a →
        accounts[j]? = some found → ∃ p, d.Reports a found p) :
      NoTotals d addresses (.notFound address)
  /-- …or one has given out more than it had. -/
  | overclaimed {accounts : List (Option Account)} {i : Nat} {address : Address}
      {account : Account} {record : Distributor}
      (hread : d.ledger.readMany addresses = .ok accounts)
      (hlength : accounts.length = addresses.length)
      (hall : ∀ found ∈ accounts, d.Decodes found)
      (haddress : addresses[i]? = some address) (haccount : accounts[i]? = some (some account))
      (hrecord : Record.decodeOwned Distributor d.program account.owner account.data = .ok record)
      (hover : record.maxTotal < record.claimedTotal)
      (hearlier : ∀ (j : Nat) a found, j < i → addresses[j]? = some a →
        accounts[j]? = some found → ∃ p, d.Reports a found p) :
      NoTotals d addresses (.inconsistent address record.claimedTotal record.maxTotal)
  /-- All accounts can be reported on, and a sum does not fit in 64 bits. -/
  | overflow {accounts : List (Option Account)} {list : List Progress}
      (hread : d.ledger.readMany addresses = .ok accounts)
      (hlength : accounts.length = addresses.length)
      (hreports : List.Forall₂ (fun pair p => d.Reports pair.1 pair.2 p) (addresses.zip accounts)
        list)
      (hsum : ¬ Totals.Fits list) :
      NoTotals d addresses .arithmetic

/-- The first pass fails at the first account that is no distributor. -/
theorem firstPass_eq_error_iff :
    ((addresses.zip accounts).mapM fun pair => d.distributorOf? pair.1 pair.2) = .error e ↔
      ∃ (i : Nat) (address : Address) (account : Account) (fault : DecodeFault),
        addresses[i]? = some address ∧ accounts[i]? = some (some account) ∧
        Record.decodeOwned Distributor d.program account.owner account.data = .error fault ∧
        e = .undecodable address fault ∧
        ∀ (j : Nat) (found : Option Account), j < i → accounts[j]? = some found →
          d.Decodes found := by
  simp only [mapM_eq_error_iff, List.getElem?_zip_eq_some, Prod.exists, Prod.forall,
    exists_distributorOf?_iff, distributorOf?_eq_error_iff]
  grind

/-- It gets through exactly if every account decodes. -/
theorem exists_firstPass_iff (hlength : accounts.length = addresses.length) :
    (∃ found, ((addresses.zip accounts).mapM fun pair => d.distributorOf? pair.1 pair.2) =
      .ok found) ↔ ∀ found ∈ accounts, d.Decodes found := by
  have hsecond : (addresses.zip accounts).map Prod.snd = accounts := by
    rw [List.map_snd_zip (Nat.le_of_eq hlength)]
  rw [exists_mapM_iff]
  simp only [exists_distributorOf?_iff]
  conv_rhs => rw [← hsecond]
  exact List.forall_mem_map.symm

section

variable {found : List (Option Distributor)} (hlength : accounts.length = addresses.length)
  (hfound : ((addresses.zip accounts).mapM fun pair => d.distributorOf? pair.1 pair.2) = .ok found)

include hlength hfound

/-- What the first pass has found for an address. -/
theorem exists_of_firstPass {i : Nat} (haddress : addresses[i]? = some address) :
    ∃ account distributor, accounts[i]? = some account ∧ found[i]? = some distributor ∧
      d.distributorOf? address account = .ok distributor := by
  obtain ⟨hlt, -⟩ := List.getElem?_eq_some_iff.1 haddress
  have haccount : accounts[i]? = some accounts[i] := List.getElem?_eq_getElem (hlength ▸ hlt)
  obtain ⟨distributor, hdistributor, hdecode⟩ := (getElem?_of_mapM hfound).2 i
    (address, accounts[i]) (List.getElem?_zip_eq_some.2 ⟨haddress, haccount⟩)
  exact ⟨accounts[i], distributor, haccount, hdistributor, hdecode⟩

/-- The second pass fails at the first account that cannot be reported on. -/
theorem secondPass_eq_error_iff :
    ((addresses.zip found).mapM fun pair => progressOf pair.1 pair.2) = .error e ↔
      ∃ (i : Nat) (address : Address) (account : Option Account),
        addresses[i]? = some address ∧ accounts[i]? = some account ∧
        ((account = none ∧ e = .notFound address) ∨
          ∃ account' record, account = some account' ∧
            Record.decodeOwned Distributor d.program account'.owner account'.data = .ok record ∧
            record.maxTotal < record.claimedTotal ∧
            e = .inconsistent address record.claimedTotal record.maxTotal) ∧
        ∀ (j : Nat) (a : Address) (account : Option Account), j < i → addresses[j]? = some a →
          accounts[j]? = some account → ∃ p, d.Reports a account p := by
  simp only [mapM_eq_error_iff, List.getElem?_zip_eq_some, Prod.exists, Prod.forall]
  constructor
  · rintro ⟨i, a, distributor, ⟨ha, hdistributor⟩, herror, hearlier⟩
    obtain ⟨account, _, haccount, heq, hfirst⟩ := exists_of_firstPass hlength hfound ha
    obtain rfl := Option.some.inj (hdistributor.symm.trans heq)
    refine ⟨i, a, account, ha, haccount, (progressOf_eq_error_iff hfirst).1 herror,
      fun j b account' hj hb haccount' => ?_⟩
    obtain ⟨_, distributor', heq', hdistributor', hfirst'⟩ := exists_of_firstPass hlength hfound hb
    obtain rfl := Option.some.inj (haccount'.symm.trans heq')
    obtain ⟨p, hp⟩ := hearlier j b distributor' hj ⟨hb, hdistributor'⟩
    exact ⟨p, (progressOf_eq_ok_iff hfirst').1 hp⟩
  · rintro ⟨i, a, account, ha, haccount, herror, hearlier⟩
    obtain ⟨_, distributor, heq, hdistributor, hfirst⟩ := exists_of_firstPass hlength hfound ha
    obtain rfl := Option.some.inj (haccount.symm.trans heq)
    refine ⟨i, a, distributor, ⟨ha, hdistributor⟩, (progressOf_eq_error_iff hfirst).2 herror,
      fun j b distributor' hj hb => ?_⟩
    obtain ⟨account', _, haccount', heq', hfirst'⟩ := exists_of_firstPass hlength hfound hb.1
    obtain rfl := Option.some.inj (hb.2.symm.trans heq')
    obtain ⟨p, hp⟩ := hearlier j b account' hj hb.1 haccount'
    exact ⟨p, (progressOf_eq_ok_iff hfirst').2 hp⟩

end

/-- **A request fails for one of these reasons**, and the failure tells which. -/
theorem totals_eq_error_iff :
    (d.totals addresses).outcome = .error e ↔ NoTotals d addresses e := by
  simp only [outcome_totals, bind_eq_error_iff, paired_eq_error_iff, paired_eq_ok_iff,
    Totals.ofList_eq_error_iff]
  constructor
  · rintro (hread | ⟨accounts, hread, ⟨hne, rfl⟩ | ⟨_, ⟨hlength, rfl⟩, hpass⟩⟩)
    · exact .unread hread
    · exact .miscounted hread hne
    · rcases hpass with hfirst | ⟨found, hfound, hsecond | ⟨list, hlist, rfl, hsum⟩⟩
      · obtain ⟨i, address, account, fault, haddress, haccount, hfault, rfl, hearlier⟩ :=
          firstPass_eq_error_iff.1 hfirst
        exact .undecodable hread hlength haddress haccount hfault hearlier
      · have hall := (exists_firstPass_iff hlength).1 ⟨found, hfound⟩
        obtain ⟨i, address, account, haddress, haccount, ⟨rfl, rfl⟩ | ⟨account, record, rfl, hrecord,
          hover, rfl⟩, hearlier⟩ := (secondPass_eq_error_iff hlength hfound).1 hsecond
        · exact .missing hread hlength hall haddress haccount hearlier
        · exact .overclaimed hread hlength hall haddress haccount hrecord hover hearlier
      · exact .overflow hread hlength ((passes_eq_ok_iff _ _ _ hlength).1 ⟨found, hfound, hlist⟩)
          hsum
  · intro h
    cases h with
    | unread hread => exact .inl hread
    | miscounted hread hlength => exact .inr ⟨_, hread, .inl ⟨hlength, rfl⟩⟩
    | undecodable hread hlength haddress haccount hfault hearlier =>
      refine .inr ⟨_, hread, .inr ⟨_, ⟨hlength, rfl⟩, .inl (firstPass_eq_error_iff.2 ?_)⟩⟩
      exact ⟨_, _, _, _, haddress, haccount, hfault, rfl, hearlier⟩
    | missing hread hlength hall haddress haccount hearlier =>
      obtain ⟨found, hfound⟩ := (exists_firstPass_iff hlength).2 hall
      refine .inr ⟨_, hread, .inr ⟨_, ⟨hlength, rfl⟩, .inr ⟨found, hfound, .inl ?_⟩⟩⟩
      exact (secondPass_eq_error_iff hlength hfound).2
        ⟨_, _, _, haddress, haccount, .inl ⟨rfl, rfl⟩, hearlier⟩
    | overclaimed hread hlength hall haddress haccount hrecord hover hearlier =>
      obtain ⟨found, hfound⟩ := (exists_firstPass_iff hlength).2 hall
      refine .inr ⟨_, hread, .inr ⟨_, ⟨hlength, rfl⟩, .inr ⟨found, hfound, .inl ?_⟩⟩⟩
      exact (secondPass_eq_error_iff hlength hfound).2
        ⟨_, _, _, haddress, haccount, .inr ⟨_, _, rfl, hrecord, hover, rfl⟩, hearlier⟩
    | overflow hread hlength hreports hsum =>
      obtain ⟨found, hfound, hlist⟩ := (passes_eq_ok_iff _ _ _ hlength).2 hreports
      exact .inr ⟨_, hread, .inr ⟨_, ⟨hlength, rfl⟩, .inr ⟨found, hfound, .inr
        ⟨_, hlist, rfl, hsum⟩⟩⟩⟩

/-- The reports stand in the order of the request. -/
theorem addresses_of_reports : ∀ {addresses : List Address} {accounts : List (Option Account)}
    {list : List Progress}, accounts.length = addresses.length →
    List.Forall₂ (fun pair p => d.Reports pair.1 pair.2 p) (addresses.zip accounts) list →
    list.map Progress.address = addresses
  | [], _, _, _, h => by
      rw [List.zip_nil_left, List.forall₂_nil_left_iff] at h
      rw [h, List.map_nil]
  | a :: addresses, found :: accounts, _, hlength, h => by
      rw [List.zip_cons_cons, List.forall₂_cons_left_iff] at h
      obtain ⟨p, rest, ⟨_, _, -, -, -, ha, -⟩, hrest, rfl⟩ := h
      rw [List.map_cons, ha, addresses_of_reports (Nat.succ.inj hlength) hrest]

/-- **Stats are added up exactly, or not at all.**  There are totals exactly if the reading gave one
account for each address, every account is there, belongs to the program and decodes to a
distributor that has not given out more than it had, and no sum reaches `2 ^ 64`.  Then they are the
sums, with one report for each address in the order of the request.  The same accounts in another
order give the same sums, and their reports in another order.  In every other case the request
fails, for the first reason that there is: the reading, the number of accounts, an account that
cannot be decoded, one that is missing or has given out too much, a sum. -/
theorem totals_exact (d : Deployment) (addresses : List Address) :
    ((∃ t, (d.totals addresses).outcome = .ok t) ↔
      ∃ accounts list, d.ledger.readMany addresses = .ok accounts ∧
        accounts.length = addresses.length ∧
        List.Forall₂ (fun pair p => d.Reports pair.1 pair.2 p) (addresses.zip accounts) list ∧
        Totals.Fits list) ∧
    (∀ t, (d.totals addresses).outcome = .ok t →
      t.Exact t.distributors ∧ t.distributors.map Progress.address = addresses ∧
      ∃ accounts, d.ledger.readMany addresses = .ok accounts ∧
        accounts.length = addresses.length ∧
        List.Forall₂ (fun pair p => d.Reports pair.1 pair.2 p) (addresses.zip accounts)
          t.distributors) ∧
    (∀ t accounts addresses' accounts', (d.totals addresses).outcome = .ok t →
      d.ledger.readMany addresses = .ok accounts → d.ledger.readMany addresses' = .ok accounts' →
      accounts'.length = addresses'.length →
      (addresses'.zip accounts').Perm (addresses.zip accounts) →
      ∃ t', (d.totals addresses').outcome = .ok t' ∧ t'.distributors.Perm t.distributors ∧
        t'.claimed = t.claimed ∧ t'.remaining = t.remaining ∧ t'.users = t.users ∧
        t'.usersClaimed = t.usersClaimed) ∧
    ∀ e, (d.totals addresses).outcome = .error e ↔ NoTotals d addresses e := by
  refine ⟨⟨?_, ?_⟩, fun t ht => ?_, fun t accounts addresses' accounts' ht hread hread' hlength'
    hperm => ?_, fun e => totals_eq_error_iff⟩
  · rintro ⟨t, ht⟩
    obtain ⟨accounts, hread, hlength, hreports, hexact⟩ := totals_eq_ok_iff.1 ht
    exact ⟨accounts, t.distributors, hread, hlength, hreports,
      Totals.exists_exact_iff.1 ⟨t, hexact⟩⟩
  · rintro ⟨accounts, list, hread, hlength, hreports, hfits⟩
    obtain ⟨t, hexact⟩ := Totals.exists_exact_iff.2 hfits
    obtain rfl := hexact.distributors
    exact ⟨t, totals_eq_ok_iff.2 ⟨accounts, hread, hlength, hreports, hexact⟩⟩
  · obtain ⟨accounts, hread, hlength, hreports, hexact⟩ := totals_eq_ok_iff.1 ht
    exact ⟨hexact, addresses_of_reports hlength hreports, accounts, hread, hlength, hreports⟩
  · obtain ⟨_, heq, hlength, hreports, hexact⟩ := totals_eq_ok_iff.1 ht
    obtain rfl := Except.ok.inj (hread.symm.trans heq)
    obtain ⟨list, hreports', hlist⟩ := List.perm_comp_forall₂ hperm hreports
    exact ⟨{ t with distributors := list }, totals_eq_ok_iff.2 ⟨accounts', hread', hlength',
      hreports', hexact.perm hlist⟩, hlist, rfl, rfl, rfl, rfl⟩

/-- A distributor with seven tokens, three of them claimed by one of two claimants. -/
def halfClaimed : Distributor where
  maxTotal := 7
  claimedTotal := 3
  maxNodes := 2
  claimedNodes := 1

/-- A ledger on which every account is this distributor. -/
def alike : Deployment where
  program := default
  ledger := {
    read := fun _ => .ok none
    readMany := fun addresses =>
      .ok (addresses.map fun _ => some ⟨default, Record.encode halfClaimed⟩) }

/-- A ledger that answers with no account and one of another program. -/
def lastForeign : Deployment where
  program := default
  ledger := {
    read := fun _ => .ok none
    readMany := fun _ => .ok [none, some ⟨⟨.replicate 32 1⟩, []⟩] }

theorem decode_halfClaimed :
    Record.decode Distributor (Record.encode halfClaimed) = .ok halfClaimed := by
  have hdecode := Record.decode_encode_append Distributor.inverts_take halfClaimed []
  rwa [List.append_nil] at hdecode

theorem claimed_of_reports {p : Progress}
    (h : alike.Reports default (some ⟨default, Record.encode halfClaimed⟩) p) : p.claimed = 3 := by
  obtain ⟨_, record, haccount, -, hrecord, -, hclaimed, -⟩ := h
  obtain rfl := Option.some.inj haccount
  obtain rfl := Except.ok.inj (decode_halfClaimed.symm.trans hrecord)
  exact hclaimed

/-- One distributor asked for twice counts twice; and of two accounts, one missing and one of
another program, the second is told of. -/
theorem totals_exact_of_two :
    (∃ t, (alike.totals [default, default]).outcome = .ok t ∧ t.claimed.toNat = 6 ∧
      t.distributors.map Progress.address = [default, default]) ∧
    (lastForeign.totals [default, default]).outcome =
      .error (.undecodable default (.foreign default ⟨.replicate 32 1⟩)) := by
  obtain ⟨hiff, hexact, -⟩ := totals_exact alike [default, default]
  obtain ⟨-, -, -, herror⟩ := totals_exact lastForeign [default, default]
  have hreports : alike.Reports default (some ⟨default, Record.encode halfClaimed⟩)
      ⟨default, 3, 4, 2, 1⟩ :=
    ⟨_, halfClaimed, rfl, rfl, decode_halfClaimed, rfl, rfl, rfl, rfl, rfl⟩
  obtain ⟨t, ht⟩ := hiff.2 ⟨_, _, rfl, rfl, .cons hreports (.cons hreports .nil),
    by decide, by decide, by decide, by decide⟩
  obtain ⟨hsums, haddresses, accounts, hread, -, hall⟩ := hexact t ht
  refine ⟨⟨t, ht, ?_, haddresses⟩, (herror _).2 (.undecodable (i := 1) rfl rfl rfl rfl rfl ?_)⟩
  · obtain rfl := Except.ok.inj hread
    obtain ⟨p, _, hp, hrest, hlist⟩ := List.forall₂_cons_left_iff.1 hall
    obtain ⟨q, _, hq, hnil, rfl⟩ := List.forall₂_cons_left_iff.1 hrest
    obtain rfl := List.forall₂_nil_left_iff.1 hnil
    rw [← hsums.claimed, hlist, List.map_cons, List.map_cons, claimed_of_reports hp,
      claimed_of_reports hq]
    rfl
  · intro j found hj hfound
    obtain rfl : j = 0 := Nat.lt_one_iff.1 hj
    cases hfound
    nofun

end Deployment

end Airdrop
