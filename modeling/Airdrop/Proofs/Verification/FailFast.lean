import Airdrop.Proofs.Verification.Forecast
import Airdrop.Proofs.Verification.Progress
import Mathlib.Data.Prod.Lex
import Mathlib.Data.Set.Finite.Lemmas

/-!
# Proofs/Verification/FailFast — which failure ends a run, and when

A narrow batch fails fast: it is over at the instant at which the first of its failing checks
settles, with the error of that check (`Earliest`).

**A wide batch does not.**  It names the failing check that stands first in the list (`Foremost`),
and is over when that check and all checks in front of it have settled, whatever has failed before.
-/

namespace Airdrop.Verification

/-! ## Which failure counts -/

/-- **The failing check that settles first**, and of those at once the one that stands first. -/
structure Earliest (checks : List Check) (check : Check) (error : VerificationError) : Prop where
  mem : check ∈ checks
  fails : check.verdict = .error error
  first : ∀ other ∈ checks, other.Fails → check.settled < other.settled ∨
    check.settled = other.settled ∧ check.position ≤ other.position

/-- **The failing check that stands first in the list.** -/
structure Foremost (checks : List Check) (check : Check) (error : VerificationError) : Prop where
  mem : check ∈ checks
  fails : check.verdict = .error error
  first : ∀ other ∈ checks, other.Fails → check.position ≤ other.position

/-- Of some checks that fail, one settles first. -/
theorem exists_earliest {checks : List Check} (h : ∃ check ∈ checks, check.Fails) :
    ∃ check error, Earliest checks check error := by
  obtain ⟨check, ⟨hmem, error, hfails⟩, hfirst⟩ := Set.exists_min_image
    {check | check ∈ checks ∧ check.Fails} (fun check => toLex (check.settled, check.position))
    (checks.finite_toSet.subset fun _ h => h.1) h
  exact ⟨check, error, hmem, hfails, fun other hother hfails' =>
    Prod.Lex.le_iff.1 (hfirst other ⟨hother, hfails'⟩)⟩

/-- …and one stands first. -/
theorem exists_foremost {checks : List Check} (h : ∃ check ∈ checks, check.Fails) :
    ∃ check error, Foremost checks check error := by
  obtain ⟨check, ⟨hmem, error, hfails⟩, hfirst⟩ := Set.exists_min_image
    {check | check ∈ checks ∧ check.Fails} Check.position
    (checks.finite_toSet.subset fun _ h => h.1) h
  exact ⟨check, error, hmem, hfails, fun other hother hfails' => hfirst other ⟨hother, hfails'⟩⟩

/-- Which failing check settles first depends on what checks there are. -/
theorem Earliest.congr {checks checks' : List Check} {check : Check} {error : VerificationError}
    (h : Earliest checks check error) (hmem : ∀ other, other ∈ checks' ↔ other ∈ checks) :
    Earliest checks' check error :=
  ⟨(hmem check).2 h.mem, h.fails, fun other hother => h.first other ((hmem other).1 hother)⟩

/-- …of which one that agrees does not count. -/
theorem Earliest.of_cons {checks : List Check} {check agreed : Check} {error : VerificationError}
    (h : Earliest (agreed :: checks) check error) (hagrees : agreed.verdict = .ok ()) :
    Earliest checks check error := by
  have hne : check ≠ agreed := by
    rintro rfl
    cases hagrees.symm.trans h.fails
  exact ⟨(List.mem_cons.1 h.mem).resolve_left hne, h.fails,
    fun other hother => h.first other (List.mem_cons_of_mem _ hother)⟩

/-! ## The end of a batch -/

section

variable {reply : Call → Reply} {c : Config} {store : Option ProofStore} {b : Batch Unit}
  {check : Check} {error : VerificationError}

/-- A batch that a failure ends is over. -/
theorem Batch.run_of_ending {p : Plan Unit} (h : b.ending p = some error) :
    b.run p = b.close (some error) := by
  rw [Batch.run, h]

/-- **A narrow batch fails fast.** -/
theorem Lined.run_narrow (h : Lined b) (hnone : b.failing = none)
    (hfirst : Earliest (b.outstanding reply c store) check error) :
    (b.run (.fixed reply c store false)).failure = some error ∧
      (b.run (.fixed reply c store false)).instant = check.settled := by
  generalize hp : Plan.fixed reply c store false = p
  fun_induction Batch.run p b with
  | case1 b e hend => simp [Batch.ending, hnone] at hend
  | case2 b hend hb =>
    have hmem := hfirst.mem
    simp [Batch.outstanding, hb] at hmem
  | case3 b hend f rest hb ih =>
    subst hp
    have hlined : Lined (b.move (.fixed reply c store false) f rest) := h.move hb
    have hinstant := (@Batch.move_cases reply c store false b f rest).1
    rcases @Batch.outstanding_move reply c store false b f rest hb with
      ⟨hfailing, hmem⟩ | ⟨hcons, hsettled, ⟨hagrees, hfailing⟩ | ⟨e, hfails, hfailing⟩⟩
    · exact ih hlined (hfailing.trans hnone) (hfirst.congr hmem)
    · exact ih hlined (hfailing.trans hnone) ((hcons ▸ hfirst).of_cons hagrees)
    · -- The check that fails first is that of the flight.
      obtain ⟨g, hg, rfl⟩ := List.mem_map.1 hfirst.mem
      have hle := hfirst.first (f.check reply c store) (hcons ▸ List.mem_cons_self) ⟨e, hfails⟩
      rw [hsettled, Flight.position_check, Flight.position_check] at hle
      obtain rfl := h.eq_first hb hg hle
      obtain rfl := Except.error.inj (hfails.symm.trans hfirst.fails)
      have hending : (b.move (.fixed reply c store false) g rest).ending
          (.fixed reply c store false) = some e := by
        rw [Batch.ending, hfailing, hnone]
        rfl
      rw [Batch.run_of_ending hending]
      exact ⟨rfl, hinstant.trans hsettled.symm⟩

/-- **The failing check that stands first**, settled or not. -/
structure Batch.Leads (reply : Call → Reply) (c : Config) (store : Option ProofStore)
    (b : Batch Unit) (position : Nat) (error : VerificationError) : Prop where
  known : b.failing = some ⟨position, error⟩ ∨ ∃ check ∈ b.outstanding reply c store,
    check.position = position ∧ check.verdict = .error error
  outstanding : ∀ check ∈ b.outstanding reply c store, check.Fails → position ≤ check.position
  settled : ∀ failing, b.failing = some failing → position ≤ failing.position

/-- A failing check that stands before all others known is the one that counts. -/
theorem Failing.earlier_eq_left {new : Failing} {old? : Option Failing}
    (h : ∀ old, old? = some old → new.position < old.position) :
    Failing.earlier new old? = new := by
  unfold Failing.earlier
  split
  · rfl
  · next old => exact if_pos (h old rfl)

/-- A flight that lands and fails leaves which failing check stands first. -/
theorem Batch.Leads.land {b' : Batch Unit} {position : Nat} {f : Flight} {rest : List Flight}
    {e : VerificationError} (hleads : b.Leads reply c store position error) (h : Lined b)
    (hb : b.flights = f :: rest)
    (hcons : b.outstanding reply c store = f.check reply c store :: b'.outstanding reply c store)
    (hfails : (f.check reply c store).verdict = .error e)
    (hfailing : b'.failing = some (Failing.earlier ⟨f.position, e⟩ b.failing)) :
    b'.Leads reply c store position error := by
  obtain ⟨hknown, houtstanding, hsettled⟩ := hleads
  rw [hcons] at hknown houtstanding
  have hle : position ≤ f.position := by
    have := houtstanding _ List.mem_cons_self ⟨e, hfails⟩
    rwa [Flight.position_check] at this
  refine ⟨?_, fun check hmem => houtstanding check (List.mem_cons_of_mem _ hmem),
    fun failing hf => ?_⟩
  · rcases hknown with hold | ⟨check, hmem, hposition, hcheck⟩
    · rw [hfailing, hold, Failing.earlier, if_neg (Nat.not_lt.2 hle)]
      exact .inl rfl
    · rcases List.mem_cons.1 hmem with rfl | hmem
      · obtain rfl := Except.error.inj (hfails.symm.trans hcheck)
        obtain rfl : f.position = position := f.position_check.symm.trans hposition
        refine .inl (hfailing.trans (congrArg some (Failing.earlier_eq_left fun old hold => ?_)))
        refine Nat.lt_of_le_of_ne (hsettled old hold) fun heq => h.apart old hold ?_
        rw [hb, ← heq]
        exact List.mem_cons_self
      · exact .inr ⟨check, hmem, hposition, hcheck⟩
  · obtain rfl := Option.some.inj (hfailing.symm.trans hf)
    rcases Failing.earlier_eq ⟨f.position, e⟩ b.failing with heq | ⟨old, hold, heq⟩ <;> rw [heq]
    · exact hle
    · exact hsettled old hold

/-- **A move leaves which failing check stands first.** -/
theorem Batch.Leads.move {position : Nat} {f : Flight} {rest : List Flight}
    (hleads : b.Leads reply c store position error) (h : Lined b) (hb : b.flights = f :: rest)
    (wide : Bool) :
    (b.move (.fixed reply c store wide) f rest).Leads reply c store position error := by
  rcases @Batch.outstanding_move reply c store wide b f rest hb with
    ⟨hfailing, hmem⟩ | ⟨hcons, -, ⟨hagrees, hfailing⟩ | ⟨e, hfails, hfailing⟩⟩
  · obtain ⟨hknown, houtstanding, hsettled⟩ := hleads
    simp only [← hmem, ← hfailing] at hknown houtstanding hsettled
    exact ⟨hknown, houtstanding, hsettled⟩
  · obtain ⟨hknown, houtstanding, hsettled⟩ := hleads
    rw [hcons] at hknown houtstanding
    refine ⟨hknown.imp hfailing.trans ?_,
      fun check hmem => houtstanding check (List.mem_cons_of_mem _ hmem), hfailing ▸ hsettled⟩
    rintro ⟨check, hmem, hposition, hfails⟩
    refine ⟨check, (List.mem_cons.1 hmem).resolve_left ?_, hposition, hfails⟩
    rintro rfl
    cases hagrees.symm.trans hfails
  · exact hleads.land h hb hcons hfails hfailing

/-- A wide batch that goes on has an outstanding check up to the failing one that stands first. -/
theorem Batch.Leads.exists_outstanding {position : Nat}
    (hleads : b.Leads reply c store position error)
    (hending : b.ending (.fixed reply c store true) = none) :
    ∃ check ∈ b.outstanding reply c store, check.position ≤ position := by
  rcases hleads.known with hknown | ⟨check, hmem, hposition, -⟩
  · have hopen : ∃ f ∈ b.flights, f.position ≤ position := by
      simpa [Batch.ending, hknown, Failing.ends] using hending
    obtain ⟨f, hf, hle⟩ := hopen
    exact ⟨f.check reply c store, List.mem_map_of_mem hf, by rwa [Flight.position_check]⟩
  · exact ⟨check, hmem, hposition.le⟩

/-- What ends a wide batch is the failing check that stands first, with none outstanding before
it. -/
theorem Batch.Leads.of_ending {position : Nat} {e : VerificationError}
    (hleads : b.Leads reply c store position error)
    (hending : b.ending (.fixed reply c store true) = some e) :
    e = error ∧ ∀ check ∈ b.outstanding reply c store, position < check.position := by
  obtain ⟨failing, hfailing⟩ : ∃ failing, b.failing = some failing := by
    rw [← Option.ne_none_iff_exists']
    intro hnone
    simp [Batch.ending, hnone] at hending
  obtain ⟨hends, rfl⟩ : (∀ f ∈ b.flights, failing.position < f.position) ∧ failing.error = e := by
    simpa [Batch.ending, hfailing, Failing.ends] using hending
  have hafter : ∀ check ∈ b.outstanding reply c store, failing.position < check.position := by
    intro check hmem
    obtain ⟨f, hf, rfl⟩ := List.mem_map.1 hmem
    rw [Flight.position_check]
    exact hends f hf
  rcases hleads.known with hknown | ⟨check, hmem, hposition, -⟩
  · obtain rfl := Option.some.inj (hfailing.symm.trans hknown)
    exact ⟨rfl, hafter⟩
  · have hlt := hafter check hmem
    have hle := hleads.settled failing hfailing
    omega

/-- **A wide batch waits** for all checks up to the failing one that stands first in the list. -/
theorem Batch.Leads.run_wide {position : Nat} (hleads : b.Leads reply c store position error)
    (h : Lined b) :
    (b.run (.fixed reply c store true)).failure = some error ∧
    b.instant ≤ (b.run (.fixed reply c store true)).instant ∧
    (∀ check ∈ b.outstanding reply c store, check.position ≤ position →
      check.settled ≤ (b.run (.fixed reply c store true)).instant) ∧
    ((b.run (.fixed reply c store true)).instant = b.instant ∨
      ∃ check ∈ b.outstanding reply c store, check.position ≤ position ∧
        check.settled = (b.run (.fixed reply c store true)).instant) := by
  generalize hp : Plan.fixed reply c store true = p
  fun_induction Batch.run p b with
  | case1 b e hend =>
    subst hp
    obtain ⟨rfl, hafter⟩ := hleads.of_ending hend
    refine ⟨rfl, Nat.le_refl _, fun check hmem hle => ?_, .inl rfl⟩
    exact absurd hle (Nat.not_le.2 (hafter check hmem))
  | case2 b hend hb =>
    subst hp
    obtain ⟨check, hmem, -⟩ := hleads.exists_outstanding hend
    simp [Batch.outstanding, hb] at hmem
  | case3 b hend f rest hb ih =>
    subst hp
    obtain ⟨hfailure, hbegun, hsettled, hattained⟩ := ih (hleads.move h hb true) (h.move hb)
    have hnow : b.instant ≤ f.due := h.due f (hb ▸ List.mem_cons_self)
    obtain ⟨hkeeps, hcases⟩ := @Batch.settled_of_move reply c store true b f rest hb
    rw [(@Batch.move_cases reply c store true b f rest).1] at hbegun hattained
    generalize (b.move (.fixed reply c store true) f rest).run (.fixed reply c store true) =
      last at *
    have hall : ∀ check ∈ b.outstanding reply c store, check.position ≤ position →
        check.settled ≤ last.instant := fun check hmem hle => by
      rcases hcases check hmem with hmem | hdue
      · exact hsettled check hmem hle
      · exact hdue.trans_le hbegun
    refine ⟨hfailure, hnow.trans hbegun, hall, .inr ?_⟩
    rcases hattained with hdue | ⟨check, hmem, hle, hcheck⟩
    · -- Whatever is outstanding settles when the flight lands or later, so it settles then.
      obtain ⟨check, hmem, hle⟩ := hleads.exists_outstanding hend
      exact ⟨check, hmem, hle, Nat.le_antisymm (hall check hmem hle)
        (hdue.trans_le (h.due_le_settled hb hmem))⟩
    · exact ⟨check, hkeeps check hmem, hle, hcheck⟩

/-- **How a batch ends of which a check fails.**  A narrow one ends with the first failure there is.
A wide one ends with that of the failing check that stands first, when that one and all in front of
it have settled. -/
structure Ends (checks : List Check) (width : Nat) (error : VerificationError) (instant : Nat) :
    Prop where
  narrow : width ≤ narrowWidth → ∃ check, Earliest checks check error ∧ instant = check.settled
  wide : narrowWidth < width → ∃ check, Foremost checks check error ∧
    (∀ other ∈ checks, other.position ≤ check.position → other.settled ≤ instant) ∧
    ∃ other ∈ checks, other.position ≤ check.position ∧ other.settled = instant

/-- **A batch of which a check fails, fails.** -/
theorem Batch.run_start_fails (first begun : Nat) (journal : List Timed) (batch : List Allocation)
    (h : ∃ check ∈ checksOf reply c store begun first batch, check.Fails) :
    ∃ error, ((start c first begun () journal batch).run
        (.fixed reply c store (decide (narrowWidth < batch.length)))).failure = some error ∧
      Ends (checksOf reply c store begun first batch) batch.length error
        ((start c first begun () journal batch).run
          (.fixed reply c store (decide (narrowWidth < batch.length)))).instant := by
  have hlined := Lined.start c first begun journal batch
  have hchecks : (start c first begun () journal batch).outstanding reply c store =
      checksOf reply c store begun first batch := map_check_flightsOf begun first batch
  rw [← hchecks] at h ⊢
  by_cases hwidth : narrowWidth < batch.length
  · rw [decide_eq_true hwidth]
    obtain ⟨check, error, hfirst⟩ := exists_foremost h
    have hleads : (start c first begun () journal batch).Leads reply c store check.position error :=
      ⟨.inr ⟨check, hfirst.mem, rfl, hfirst.fails⟩, hfirst.first, nofun⟩
    obtain ⟨hfailure, -, hall, hattained⟩ := hleads.run_wide hlined
    refine ⟨error, hfailure, fun hle => absurd hwidth (Nat.not_lt.2 hle),
      fun _ => ⟨check, hfirst, hall, ?_⟩⟩
    rcases hattained with hbegun | hattained
    · have hle := hlined.le_settled hfirst.mem
      exact ⟨check, hfirst.mem, Nat.le_refl _,
        Nat.le_antisymm (hall check hfirst.mem (Nat.le_refl _)) (hbegun.trans_le hle)⟩
    · exact hattained
  · rw [decide_eq_false hwidth]
    obtain ⟨check, error, hfirst⟩ := exists_earliest h
    obtain ⟨hfailure, hinstant⟩ := hlined.run_narrow rfl hfirst
    exact ⟨error, hfailure, fun _ => ⟨check, hfirst, hinstant⟩, fun hlt => absurd hlt hwidth⟩

end

/-! ## The end of a run -/

section

variable {reply : Call → Reply} {c : Config} {store : Option ProofStore}
  {done rest : List (List Allocation)} {s : Progression Unit} {batch : List Allocation}
  {entries : List Allocation} {instant : Nat}

/-- **What holds of the batches `done`**, all checked: they are those that were fetched, and no
check of them fails. -/
structure Fetched (reply : Call → Reply) (c : Config) (store : Option ProofStore)
    (done : List (List Allocation)) (s : Progression Unit) : Prop where
  sound : Sound (produced (Service.fixed reply)) c store done s
  agreed : ∀ k begun, (⟨begun, .fetching (k + 1)⟩ : Timed) ∈ s.journal → ∃ batch,
    done[k]? = some batch ∧
      ∀ check ∈ checksOf reply c store begun (k * c.width) batch, ¬ check.Fails

theorem Fetched.start (reply : Call → Reply) (c : Config) (store : Option ProofStore)
    (instant : Nat) : Fetched reply c store [] ⟨⟨0, 0⟩, instant, (), []⟩ :=
  ⟨.start instant (), fun _ _ hmem => by cases hmem⟩

/-- The batches fetched when one has been tried are those before it, and that one. -/
theorem Fetched.mem_tried (h : Fetched reply c store done s) {k begun : Nat}
    (hmem : (⟨begun, .fetching (k + 1)⟩ : Timed) ∈
      (s.tried (Service.fixed reply) c store batch).journal) :
    (⟨begun, .fetching (k + 1)⟩ : Timed) ∈ s.journal ∨
      begun = (s.pause c).instant ∧ k = done.length := by
  obtain ⟨-, ⟨news, hjournal, hnews⟩, -⟩ := h.sound.tried_clock (Service.fixed reply) batch
  rw [hjournal, List.mem_append, List.mem_append] at hmem
  rcases hmem with hmem | hmem | hmem
  · obtain ⟨-, _, _, -, hposition, -⟩ := hnews _ hmem
    cases hposition
  · right
    rw [Progression.opening, h.sound.report] at hmem
    split at hmem <;> simpa using hmem
  · exact .inl hmem

/-- **What becomes of a batch of which a check fails**, once it is begun. -/
theorem Fetched.tried_fails (h : Fetched reply c store done s)
    (hall : batches c entries = done ++ batch :: rest)
    (hfails : ∃ check ∈ checksOf reply c store (s.pause c).instant (done.length * c.width) batch,
      check.Fails) :
    ∃ error, (s.tried (Service.fixed reply) c store batch).failure = some error ∧
      Ends (checksOf reply c store (s.pause c).instant (done.length * c.width) batch) batch.length
        error (s.tried (Service.fixed reply) c store batch).instant := by
  rw [← length_flatten_of_batches hall] at hfails ⊢
  rw [h.sound.tried_eq]
  exact Batch.run_start_fails _ _ _ _ hfails

/-- **Every batch that is checked agrees.** -/
theorem Fetched.advance (hall : batches c entries = done ++ batch :: rest)
    (h : Fetched reply c store done s)
    (hfailure : (s.tried (Service.fixed reply) c store batch).failure = none) :
    Fetched reply c store (done ++ [batch]) ((s.enter c batch).advance batch.length
      (s.tried (Service.fixed reply) c store batch)) := by
  refine ⟨h.sound.advance (keeps_produced _) hfailure, fun k begun hmem => ?_⟩
  rcases List.mem_cons.1 hmem with hmem | hmem
  · cases hmem
  · rcases h.mem_tried hmem with hbefore | ⟨rfl, rfl⟩
    · obtain ⟨earlier, hk, hagrees⟩ := h.agreed k begun hbefore
      have hlt := (List.getElem?_eq_some_iff.1 hk).1
      exact ⟨earlier, by rw [List.getElem?_append_left hlt, hk], hagrees⟩
    · refine ⟨batch, by simp, fun check hcheck hfails => ?_⟩
      obtain ⟨error, herror, -⟩ := h.tried_fails hall ⟨check, hcheck, hfails⟩
      cases hfailure.symm.trans herror

/-- **The first batch is begun at once**, and ends the run if one of its checks fails. -/
theorem run_first_fails (hall : batches c entries = batch :: rest)
    (hfails : ∃ check ∈ checksOf reply c store instant 0 batch, check.Fails) :
    (⟨instant, .fetching 1⟩ : Timed) ∈
        (run (Service.fixed reply) c store instant () entries).journal ∧
      ∃ error, (run (Service.fixed reply) c store instant () entries).result = .error error ∧
        Ends (checksOf reply c store instant 0 batch) batch.length error
          (run (Service.fixed reply) c store instant () entries).instant := by
  have hstart : Fetched reply c store [] ⟨⟨0, 0⟩, instant, (), []⟩ := .start reply c store instant
  obtain ⟨-, ⟨news, hjournal, -⟩, -⟩ := hstart.sound.tried_clock (Service.fixed reply) batch
  have hplace : ([] : List (List Allocation)).length * c.width = 0 := Nat.zero_mul _
  obtain ⟨error, herror, hends⟩ := hstart.tried_fails hall (by rwa [hplace])
  rw [hplace] at hends
  have hrun : run (Service.fixed reply) c store instant () entries =
      (Progression.enter c ⟨⟨0, 0⟩, instant, (), []⟩ batch).abort error
        (Progression.tried (Service.fixed reply) c store ⟨⟨0, 0⟩, instant, (), []⟩ batch) := by
    unfold run
    rw [hall, runBatches]
    simp only [Progression.tried, Progression.enter] at herror ⊢
    rw [herror]
  rw [hrun]
  refine ⟨List.mem_reverse.2 (List.mem_cons_of_mem _ ?_), error, rfl, hends⟩
  rw [hjournal]
  exact List.mem_append_right _ List.mem_cons_self

/-- **A run ends with all batches checked, or with the first that fails.** -/
theorem run_fetched (reply : Call → Reply) (c : Config) (store : Option ProofStore) (instant : Nat)
    (entries : List Allocation) :
    (∃ last, Fetched reply c store (batches c entries) last ∧
      run (Service.fixed reply) c store instant () entries = last.finish) ∨
    (∃ before batch after last error, batches c entries = before ++ batch :: after ∧
      Fetched reply c store before last ∧
      (last.tried (Service.fixed reply) c store batch).failure = some error ∧
      run (Service.fixed reply) c store instant () entries =
        (last.enter c batch).abort error (last.tried (Service.fixed reply) c store batch)) :=
  runBatches_induction (fun _ _ _ _ hall h hfailure => h.advance hall hfailure) _ [] _ rfl
    (.start reply c store instant)

/-- A batch of which a check fails is none of those that have been checked. -/
theorem Fetched.not_begun {k begun : Nat} (h : Fetched reply c store done s)
    (hall : batches c entries = done ++ rest) (hbatch : (batches c entries)[k]? = some batch)
    (hfails : ∃ check ∈ checksOf reply c store begun (k * c.width) batch, check.Fails) :
    (⟨begun, .fetching (k + 1)⟩ : Timed) ∉ s.journal := by
  intro hmem
  obtain ⟨agreed, hk, hagrees⟩ := h.agreed k begun hmem
  have hlt := (List.getElem?_eq_some_iff.1 hk).1
  rw [hall, List.getElem?_append_left hlt, hk] at hbatch
  obtain rfl := Option.some.inj hbatch
  obtain ⟨check, hcheck, hfails⟩ := hfails
  exact hagrees check hcheck hfails

/-- **Which failure ends a run, and when.**  If a check fails of a batch that was begun at some
instant, the run ends with that batch.  A batch of at most 30 entries ends at the instant at which
its earliest failing check settles, with the error of that check.  A wider one ends with the error
of the failing check that stands first in the list, at the instant at which the last of the checks
up to that one settles. -/
theorem run_fails (reply : Call → Reply) (c : Config) (store : Option ProofStore) (instant : Nat)
    (entries : List Allocation) (k begun : Nat) (batch : List Allocation)
    (hbatch : (batches c entries)[k]? = some batch)
    (hbegun : (⟨begun, .fetching (k + 1)⟩ : Timed) ∈
      (run (Service.fixed reply) c store instant () entries).journal)
    (hfails : ∃ check ∈ checksOf reply c store begun (k * c.width) batch, check.Fails) :
    ∃ error, (run (Service.fixed reply) c store instant () entries).result = .error error ∧
      Ends (checksOf reply c store begun (k * c.width) batch) batch.length error
        (run (Service.fixed reply) c store instant () entries).instant := by
  rcases run_fetched reply c store instant entries with
    ⟨last, hlast, hrun⟩ | ⟨before, failed, after, last, error, hall, hlast, hfailure, hrun⟩ <;>
    rw [hrun] at hbegun ⊢ <;> rcases List.mem_cons.1 (List.mem_reverse.1 hbegun) with hmem | hmem
  · cases hmem
  · exact absurd hmem (hlast.not_begun (List.append_nil _).symm hbatch hfails)
  · cases hmem
  · rcases hlast.mem_tried hmem with hmem | ⟨rfl, rfl⟩
    · exact absurd hmem (hlast.not_begun hall hbatch hfails)
    · have hself : failed = batch := by
        rw [hall, List.getElem?_append_right (Nat.le_refl _), Nat.sub_self] at hbatch
        exact Option.some.inj hbatch
      subst hself
      obtain ⟨error', herror, hends⟩ := hlast.tried_fails hall hfails
      obtain rfl := Option.some.inj (hfailure.symm.trans herror)
      exact ⟨error, rfl, hends⟩

end

/-! ## Thirty entries and thirty-one -/

/-- A list of so many entries, all alike. -/
def alike (n : Nat) : List Allocation := List.replicate n ⟨default, 5⟩

/-- An API that serves another amount for the first two entries: for the first late, for the second
soon. -/
def lateFirst (call : Call) : Reply :=
  if call.position = 0 then ⟨.ok ⟨default, 6, []⟩, 1000⟩
  else if call.position = 1 then ⟨.ok ⟨default, 7, []⟩, 10⟩
  else ⟨.ok ⟨default, 5, []⟩, 0⟩

/-- What the checks of such entries come to. -/
def lateFirstCheck : (position : Nat) → Check
  | 0 => ⟨0, 1000, .error (.amount default .list 5 6)⟩
  | 1 => ⟨1, 10, .error (.amount default .list 5 7)⟩
  | k + 2 => ⟨k + 2, 0, .ok ()⟩

/-- A claim that is served settles a check at once. -/
theorem foretold_of_served {reply : Call → Reply} {c : Config} {store : Option ProofStore}
    {position left instant delay : Nat} {entry : Allocation} {claim : Claim}
    (h : reply ⟨position, entry.address, c.made left, instant⟩ = ⟨.ok claim, delay⟩) :
    foretold reply c store position entry left instant =
      ⟨position, instant + delay, checkClaim entry claim store⟩ := by
  rw [foretold_eq, h]
  rfl

theorem foretold_lateFirst (left : Nat) : ∀ position : Nat,
    foretold lateFirst {} none position ⟨default, 5⟩ left 0 = lateFirstCheck position
  | 0 => by rw [foretold_of_served rfl]; rfl
  | 1 => by rw [foretold_of_served rfl]; rfl
  | k + 2 => by
    have hreply : lateFirst ⟨k + 2, default, Config.made {} left, 0⟩ =
        ⟨.ok ⟨default, 5, []⟩, 0⟩ := by simp [lateFirst]
    rw [foretold_of_served hreply]
    rfl

theorem mem_checksOf_alike {n : Nat} {check : Check} :
    check ∈ checksOf lateFirst {} none 0 0 (alike n) ↔ ∃ k < n, check = lateFirstCheck k := by
  rw [mem_checksOf]
  constructor
  · rintro ⟨k, entry, hk, rfl⟩
    rw [alike, List.getElem?_replicate, Option.ite_none_right_eq_some] at hk
    obtain ⟨hlt, hentry⟩ := hk
    obtain rfl := Option.some.inj hentry
    exact ⟨k, hlt, by rw [Nat.zero_add, foretold_lateFirst]⟩
  · rintro ⟨k, hlt, rfl⟩
    refine ⟨k, ⟨default, 5⟩, ?_, by rw [Nat.zero_add, foretold_lateFirst]⟩
    rw [alike, List.getElem?_replicate, if_pos hlt]

theorem position_lateFirstCheck : ∀ k, (lateFirstCheck k).position = k
  | 0 => rfl
  | 1 => rfl
  | _ + 2 => rfl

/-- The first two checks fail. -/
theorem of_fails_lateFirstCheck : ∀ {k : Nat}, (lateFirstCheck k).Fails → k = 0 ∨ k = 1
  | 0, _ => .inl rfl
  | 1, _ => .inr rfl
  | _ + 2, ⟨_, h⟩ => nomatch h

/-- One batch is enough. -/
theorem batches_alike {n : Nat} (hpos : 0 < n) (hle : n ≤ 10000) :
    batches {} (alike n) = [alike n] := by
  refine List.ext_getElem? fun k => ?_
  have hwidth : Config.width {} = 10000 := rfl
  rw [getElem?_batches, hwidth, alike, List.length_replicate]
  cases k with
  | zero => simp [hpos, hle]
  | succ k => simp; omega

/-- The second check fails first. -/
theorem earliest_alike {n : Nat} (h : 1 < n) : Earliest (checksOf lateFirst {} none 0 0 (alike n))
    ⟨1, 10, .error (.amount default .list 5 7)⟩ (.amount default .list 5 7) := by
  refine ⟨mem_checksOf_alike.2 ⟨1, h, rfl⟩, rfl, fun other hmem hfails => ?_⟩
  obtain ⟨k, -, rfl⟩ := mem_checksOf_alike.1 hmem
  rcases of_fails_lateFirstCheck hfails with rfl | rfl
  · exact .inl (by decide)
  · exact .inr ⟨rfl, Nat.le_refl _⟩

/-- **Thirty entries**: the run ends when the second check fails. -/
theorem run_fails_of_thirty :
    (run (Service.fixed lateFirst) {} none 0 () (alike 30)).result =
        .error (.amount default .list 5 7) ∧
      (run (Service.fixed lateFirst) {} none 0 () (alike 30)).instant = 10 := by
  have hall := batches_alike (n := 30) (by decide) (by decide)
  have hearliest := earliest_alike (n := 30) (by decide)
  have hfails : ∃ check ∈ checksOf lateFirst {} none 0 0 (alike 30), check.Fails :=
    ⟨_, hearliest.mem, _, hearliest.fails⟩
  obtain ⟨error, hresult, hends⟩ := run_fails lateFirst {} none 0 (alike 30) 0 0 (alike 30)
    (by rw [hall]; rfl) (run_first_fails hall hfails).1 hfails
  obtain ⟨check, hfirst, hinstant⟩ := hends.narrow (by decide)
  obtain ⟨k, -, rfl⟩ := mem_checksOf_alike.1 hfirst.mem
  rcases of_fails_lateFirstCheck ⟨error, hfirst.fails⟩ with rfl | rfl
  · exact absurd (hfirst.first _ hearliest.mem ⟨_, hearliest.fails⟩) (by decide)
  · obtain rfl := Except.error.inj hfirst.fails
    exact ⟨hresult, hinstant⟩

/-- **Thirty-one entries**: the second check fails first, and the run ends a while later, when the
first one does. -/
theorem run_fails_late_of_thirtyOne :
    Earliest (checksOf lateFirst {} none 0 0 (alike 31))
        ⟨1, 10, .error (.amount default .list 5 7)⟩ (.amount default .list 5 7) ∧
      (run (Service.fixed lateFirst) {} none 0 () (alike 31)).result =
        .error (.amount default .list 5 6) ∧
      (run (Service.fixed lateFirst) {} none 0 () (alike 31)).instant = 1000 := by
  have hall := batches_alike (n := 31) (by decide) (by decide)
  have hearliest := earliest_alike (n := 31) (by decide)
  obtain ⟨-, error, hresult, hends⟩ := run_first_fails hall ⟨_, hearliest.mem, _, hearliest.fails⟩
  obtain ⟨check, hfirst, -, other, hmem, hle, hinstant⟩ := hends.wide (by decide)
  have hlate : lateFirstCheck 0 ∈ checksOf lateFirst {} none 0 0 (alike 31) :=
    mem_checksOf_alike.2 ⟨0, by decide, rfl⟩
  have hposition : check.position = 0 := Nat.le_zero.1 (hfirst.first _ hlate ⟨_, rfl⟩)
  obtain ⟨k, -, rfl⟩ := mem_checksOf_alike.1 hfirst.mem
  obtain ⟨j, -, rfl⟩ := mem_checksOf_alike.1 hmem
  rw [position_lateFirstCheck] at hposition hle
  rw [position_lateFirstCheck, hposition] at hle
  obtain rfl := hposition
  obtain rfl := Nat.le_zero.1 hle
  obtain rfl := Except.error.inj hfirst.fails
  exact ⟨hearliest, hresult, hinstant.symm⟩

end Airdrop.Verification
