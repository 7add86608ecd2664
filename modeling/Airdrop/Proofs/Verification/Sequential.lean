import Airdrop.Proofs.Verification.Progress

/-!
# Proofs/Verification/Sequential — a run against the plain check

The plain check takes one entry after another.  Of the outcomes allowed to an entry the first one
that is a claim or a failure not worth another try counts (`firstFinal?`), and it has to be a claim
that agrees.

A run asks in batches, for many entries side by side, and asks again after a pause; **its verdict is
that of the plain check** (`run_ok_iff_sequential`), whatever the width of a batch and in whatever
order the answers come.  The order is the pace of the API, which `answering` leaves entirely open.
-/

namespace Airdrop.Verification

variable {σ : Type}

/-! ## The plain check -/

/-- **The outcome that counts**: of those of the attempts allowed, counted from one, the first that
is not worth another try. -/
def firstFinal? (attempts : Nat) (outcome : Nat → Outcome) : Option Outcome :=
  ((List.range' 1 attempts).map outcome).find? fun o => !worthRetrying o

/-- **An API with given outcomes**, one for each position, address and attempt.  How long an answer
takes may depend on everything asked before. -/
def answering (outcome : Nat → Address → Nat → Outcome) (pace : σ → Call → Nat × σ) :
    Service σ where
  answer state call :=
    (⟨outcome call.position call.address call.attempt, (pace state call).1⟩, (pace state call).2)

/-- The promise of given outcomes. -/
def given (outcome : Nat → Address → Nat → Outcome) : Promise :=
  fun i address attempt o => o = outcome i address attempt

theorem keeps_answering (outcome : Nat → Address → Nat → Outcome) (pace : σ → Call → Nat × σ) :
    Keeps (answering outcome pace) (given outcome) := fun _ _ => rfl

/-- The outcomes heard so far are the first of those given. -/
theorem Kept.eq_map {outcome : Nat → Address → Nat → Outcome} {i : Nat} {address : Address}
    {outcomes : List Outcome} (h : Kept (given outcome) i address outcomes) :
    outcomes = (List.range' 1 outcomes.length).map (outcome i address) := by
  refine List.ext_getElem (by simp) fun n hn _ => ?_
  have := h n _ (List.getElem?_eq_getElem hn)
  rw [List.getElem_map, List.getElem_range', this]
  congr 1
  omega

/-- …and the ones that follow are not looked at. -/
theorem Kept.exists_later {outcome : Nat → Address → Nat → Outcome} {i attempts : Nat}
    {address : Address} {outcomes : List Outcome} (h : Kept (given outcome) i address outcomes)
    (hle : outcomes.length ≤ attempts) :
    ∃ later, (List.range' 1 attempts).map (outcome i address) = outcomes ++ later ∧
      (outcomes.length = attempts → later = []) := by
  refine ⟨(List.range' (1 + outcomes.length) (attempts - outcomes.length)).map (outcome i address),
    ?_, fun heq => by simp [heq]⟩
  have hsplit : attempts = outcomes.length + (attempts - outcomes.length) := by omega
  conv_lhs => rw [hsplit, ← List.range'_append_1, List.map_append]
  rw [← h.eq_map]

/-- Failures worth another try are passed over. -/
theorem find?_final {earlier : List Outcome} (retried : ∀ o ∈ earlier, worthRetrying o)
    (later : List Outcome) :
    (earlier ++ later).find? (fun o => !worthRetrying o) =
      later.find? fun o => !worthRetrying o := by
  rw [List.find?_append, List.find?_eq_none.2 fun o ho => by simp [retried o ho], Option.none_or]

/-- **A lookup serves a claim exactly if that is the outcome that counts.** -/
theorem Concludes.eq_ok_iff {c : Config} {outcome : Nat → Address → Nat → Outcome} {i : Nat}
    {address : Address} {outcomes : List Outcome} {result : Except VerificationError Claim}
    (h : Concludes c address outcomes result) (hkept : Kept (given outcome) i address outcomes)
    (claim : Claim) :
    result = .ok claim ↔ firstFinal? c.attempts (outcome i address) = some (.ok claim) := by
  unfold firstFinal?
  cases h with
  | @served earlier served retried allowed =>
    have hle : (earlier ++ [Except.ok served]).length ≤ c.attempts := by
      simpa using Nat.succ_le_of_lt allowed
    obtain ⟨later, hlater, -⟩ := hkept.exists_later hle
    rw [hlater, List.append_assoc, find?_final retried]
    simp [worthRetrying]
  | @gaveUp earlier fault retried allowed last =>
    have hle : (earlier ++ [Except.error fault]).length ≤ c.attempts := by
      simpa using Nat.succ_le_of_lt allowed
    obtain ⟨later, hlater, hnil⟩ := hkept.exists_later hle
    rw [hlater, List.append_assoc, find?_final retried]
    cases hfault : fault.isRetryable with
    | true =>
      have : later = [] := hnil (by simpa using last hfault)
      simp [worthRetrying, hfault, this]
    | false => simp [worthRetrying, hfault]

/-- **An entry agrees exactly if the plain check passes it.** -/
theorem Judged.eq_ok_iff {outcome : Nat → Address → Nat → Outcome} {c : Config}
    {store : Option ProofStore} {entry : Allocation} {i : Nat} {journal : List Timed}
    {verdict : Except VerificationError Unit}
    (h : Judged (given outcome) c store entry i journal verdict) :
    verdict = .ok () ↔ ∃ claim,
      firstFinal? c.attempts (outcome i entry.address) = some (.ok claim) ∧
        checkClaim entry claim store = .ok () := by
  obtain ⟨result, hconcludes, rfl⟩ := h.settles
  have hkept : Kept (given outcome) i entry.address (answers i journal) := by
    simpa using h.exchanged.kept
  have hiff := fun claim => hconcludes.eq_ok_iff hkept claim
  cases result with
  | ok served =>
    constructor
    · exact fun hcheck => ⟨served, (hiff served).1 rfl, hcheck⟩
    · rintro ⟨claim, hclaim, hcheck⟩
      cases (hiff claim).2 hclaim
      exact hcheck
  | error e =>
    constructor
    · exact fun hcheck => nomatch hcheck
    · rintro ⟨claim, hclaim, -⟩
      cases (hiff claim).2 hclaim

/-! ## The verdict of a run -/

section

variable (outcome : Nat → Address → Nat → Outcome) (pace : σ → Call → Nat × σ) (c : Config)
  (store : Option ProofStore) (instant : Nat) (state : σ) (entries : List Allocation)

/-- A run ends well exactly if the plain check passes every entry. -/
theorem exists_report_iff :
    (∃ report, (run (answering outcome pace) c store instant state entries).result = .ok report) ↔
      ∀ i entry, entries[i]? = some entry → ∃ claim,
        firstFinal? c.attempts (outcome i entry.address) = some (.ok claim) ∧
          checkClaim entry claim store = .ok () := by
  constructor
  · rintro ⟨report, hok⟩ i entry hi
    exact ((judged_of_ok (keeps_answering outcome pace) hok).2 i entry hi).eq_ok_iff.1 rfl
  · intro h
    cases hresult : (run (answering outcome pace) c store instant state entries).result with
    | ok report => exact ⟨report, rfl⟩
    | error e =>
      obtain ⟨i, entry, hi, hj⟩ := exists_judged_of_error (keeps_answering outcome pace) hresult
      cases hj.eq_ok_iff.2 (h i entry hi)

end

/-- What does not depend on the place of an entry does not depend on the order of the list. -/
theorem forall_getElem?_congr {entries entries' : List Allocation} (hperm : entries'.Perm entries)
    (P : Allocation → Prop) :
    (∀ (i : Nat) entry, entries'[i]? = some entry → P entry) ↔
      ∀ (i : Nat) entry, entries[i]? = some entry → P entry := by
  have hmem : ∀ list : List Allocation,
      (∀ (i : Nat) entry, list[i]? = some entry → P entry) ↔ ∀ entry ∈ list, P entry := fun list =>
    ⟨fun h entry he => (List.mem_iff_getElem?.1 he).elim fun i hi => h i entry hi,
      fun h i entry hi => h entry (List.mem_of_getElem? hi)⟩
  rw [hmem, hmem]
  exact forall_congr' fun entry => by rw [hperm.mem_iff]

/-- **The batched run gives the verdict of the plain check.**  It ends well exactly if for every
position the first outcome that is a claim or a final failure, within the attempts allowed, is a
claim that agrees.  A run that ends well has looked every position up, in as many batches as the
width makes of them.  And if the outcomes depend on address and attempt alone, the verdict is the
same for every width and delay, every pace of the API and every order of the list. -/
theorem run_ok_iff_sequential (outcome : Nat → Address → Nat → Outcome)
    (pace : σ → Call → Nat × σ) (c : Config) (store : Option ProofStore) (instant : Nat)
    (state : σ) (entries : List Allocation) :
    ((∃ report,
        (run (answering outcome pace) c store instant state entries).result = .ok report) ↔
      ∀ i entry, entries[i]? = some entry → ∃ claim,
        firstFinal? (max c.maxAttempts.toNat 1) (outcome i entry.address) = some (.ok claim) ∧
          checkClaim entry claim store = .ok ()) ∧
    (∀ report,
      (run (answering outcome pace) c store instant state entries).result = .ok report →
        report.batches = entries.length ⌈/⌉ max c.batchSize 1 ∧
        report.addresses = entries.length ∧
        ∀ i entry, entries[i]? = some entry → ∃ t, (⟨t, .called i entry.address⟩ : Timed) ∈
          (run (answering outcome pace) c store instant state entries).journal) ∧
    ((∀ i j, outcome i = outcome j) →
      ∀ {τ : Type} (pace' : τ → Call → Nat × τ) (c' : Config) (instant' : Nat) (state' : τ)
        (entries' : List Allocation),
        max c'.maxAttempts.toNat 1 = max c.maxAttempts.toNat 1 → entries'.Perm entries →
        ((∃ report, (run (answering outcome pace') c' store instant' state' entries').result
            = .ok report) ↔
          ∃ report,
            (run (answering outcome pace) c store instant state entries).result = .ok report)) := by
  refine ⟨exists_report_iff outcome pace c store instant state entries, fun report hok => ?_,
    fun hplace τ pace' c' instant' state' entries' hattempts hperm => ?_⟩
  · obtain ⟨rfl, hjudged⟩ := judged_of_ok (keeps_answering outcome pace) hok
    exact ⟨length_batches c entries, rfl, fun i entry hi => (hjudged i entry hi).exists_called⟩
  · have hattempts : c'.attempts = c.attempts := hattempts
    rw [exists_report_iff, exists_report_iff, hattempts]
    have := forall_getElem?_congr hperm fun entry => ∃ claim,
      firstFinal? c.attempts (outcome 0 entry.address) = some (.ok claim) ∧
        checkClaim entry claim store = .ok ()
    simpa only [hplace _ 0] using this

/-- Two entries whose first answer is a failure: checked one by one, and side by side in the other
order by an API of another pace. -/
theorem run_ok_iff_sequential_of_two :
    (∃ report, (run (answering (fun _ _ attempt =>
          if attempt = 1 then .error .rateLimited else .ok ⟨default, 5, []⟩)
        (fun (asked : Nat) _ => (asked, asked + 1))) ⟨1, 10, 2, 3⟩ none 0 0
        [⟨default, 5⟩, ⟨⟨.replicate 32 1⟩, 5⟩]).result = .ok report ∧ report.batches = 2) ∧
    ∃ report, (run (answering (fun _ _ attempt =>
          if attempt = 1 then .error .rateLimited else .ok ⟨default, 5, []⟩)
        (fun (_ : Unit) call => (7 - call.position, ()))) ⟨30, 0, 2, 0⟩ none 100 ()
        [⟨⟨.replicate 32 1⟩, 5⟩, ⟨default, 5⟩]).result = .ok report := by
  obtain ⟨hverdict, hreport, hsame⟩ := run_ok_iff_sequential
    (fun _ _ attempt => if attempt = 1 then .error .rateLimited else .ok ⟨default, 5, []⟩)
    (fun (asked : Nat) _ => (asked, asked + 1)) ⟨1, 10, 2, 3⟩ none 0 0
    [⟨default, 5⟩, ⟨⟨.replicate 32 1⟩, 5⟩]
  have hok := hverdict.2 fun i entry hi => ⟨⟨default, 5, []⟩, rfl, by
    match i, hi with
    | 0, rfl => rfl
    | 1, rfl => rfl⟩
  refine ⟨hok.imp fun report hr => ⟨hr, (hreport report hr).1⟩, ?_⟩
  exact (hsame (fun _ _ => rfl) (fun (_ : Unit) call => (7 - call.position, ())) ⟨30, 0, 2, 0⟩ 100 ()
    _ rfl (.swap _ _ _)).2 hok

end Airdrop.Verification
