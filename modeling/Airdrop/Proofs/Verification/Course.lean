import Airdrop.Proofs.Verification.Answers
import Mathlib.Data.List.Perm.Basic

/-!
# Proofs/Verification/Course — a batch on its way

A batch moves one flight after another, in whatever order their answers come.  `Course` is what
every move keeps: a flight has so far heard nothing but failures worth another try, and **an entry
without a flight has settled**, with the batch failing if it did not agree.

So when the batch is over (`exists_judged_of_failure`, `judged_of_no_failure`), it either names an
entry of its own that failed, or all of its entries agree.
-/

namespace Airdrop.Verification

variable {σ : Type}

/-! ## Induction over moves -/

theorem Flight.perm_insert (f : Flight) :
    ∀ flights : List Flight, (f.insert flights).Perm (f :: flights)
  | [] => .refl _
  | g :: rest => by
      unfold Flight.insert
      split
      · exact .refl _
      · exact ((f.perm_insert rest).cons g).trans (.swap f g rest)

theorem Flight.mem_insert {f g : Flight} {flights : List Flight} :
    g ∈ f.insert flights ↔ g = f ∨ g ∈ flights :=
  (f.perm_insert flights).mem_iff.trans List.mem_cons

/-- **What every move keeps holds when the batch is over**, and a batch is over when a failure ends
it or no flight is left. -/
theorem Batch.run_invariant {p : Plan σ} {motive : Batch σ → Prop}
    (hmove : ∀ b f rest, b.flights = f :: rest → motive b → motive (b.move p f rest))
    (b : Batch σ) (h : motive b) :
    ∃ last, motive last ∧ b.run p = last.close (last.ending p) ∧
      (last.ending p = none → last.flights = []) := by
  fun_induction Batch.run p b with
  | case1 b error hend => exact ⟨b, h, by rw [hend], fun hnone => by simp [hend] at hnone⟩
  | case2 b hend hflights => exact ⟨b, h, by rw [hend], fun _ => hflights⟩
  | case3 b hend f rest hflights ih => exact ih (hmove b f rest hflights h)

/-! ## What an API keeps to -/

/-- Which outcomes may answer for a position, an address and an attempt. -/
abbrev Promise := Nat → Address → Nat → Outcome → Prop

/-- **An API keeps a promise** if every outcome it gives is one that may answer. -/
def Keeps (service : Service σ) (promise : Promise) : Prop :=
  ∀ state call, promise call.position call.address call.attempt
    (service.answer state call).1.outcome

/-- The promise that every API keeps: an outcome is one that it has for the question, in some state
and at some instant. -/
def produced (service : Service σ) : Promise := fun i address attempt o =>
  ∃ state instant, (service.answer state ⟨i, address, attempt, instant⟩).1.outcome = o

theorem keeps_produced (service : Service σ) : Keeps service (produced service) :=
  fun state call => ⟨state, call.instant, rfl⟩

/-- Successive outcomes are those promised for successive attempts. -/
def Kept (promise : Promise) (i : Nat) (address : Address) (outcomes : List Outcome) : Prop :=
  ∀ n o, outcomes[n]? = some o → promise i address (n + 1) o

theorem Kept.concat {promise : Promise} {i : Nat} {address : Address} {outcomes : List Outcome}
    {o : Outcome} (h : Kept promise i address outcomes)
    (ho : promise i address (outcomes.length + 1) o) :
    Kept promise i address (outcomes ++ [o]) := by
  intro n o' hn
  rcases Nat.lt_trichotomy n outcomes.length with hlt | rfl | hgt
  · rw [List.getElem?_append_left hlt] at hn
    exact h n o' hn
  · rw [List.getElem?_concat_length] at hn
    cases hn
    exact ho
  · rw [List.getElem?_eq_none (by simp; omega)] at hn
    cases hn

/-! ## What a journal owes a position -/

/-- **Every question on behalf of a position was for its address and has its answer**, those still
due included, and the answers are as promised. -/
structure Exchanged (promise : Promise) (i : Nat) (address : Address) (journal : List Timed)
    (due : List Outcome) : Prop where
  answered : asked i journal = List.replicate (answers i journal ++ due).length address
  kept : Kept promise i address (answers i journal ++ due)

/-- **An entry is judged** when its answers settle it and no question is open. -/
structure Judged (promise : Promise) (c : Config) (store : Option ProofStore) (entry : Allocation)
    (i : Nat) (journal : List Timed) (verdict : Except VerificationError Unit) : Prop where
  settles : Settles c store entry (answers i journal) verdict
  exchanged : Exchanged promise i entry.address journal []

namespace Flight

/-- The attempts left after the present one. -/
def left (f : Flight) : Nat :=
  match f.phase with
  | .ask left => left
  | .hear left _ => left

/-- The answer that is due, if a question is open. -/
def answerDue (f : Flight) : List Outcome :=
  match f.phase with
  | .ask _ => []
  | .hear _ outcome => [outcome]

/-- **A flight agrees with a journal**: it has heard only what is worth another try, and counts its
attempts right. -/
structure Fits (promise : Promise) (c : Config) (f : Flight) (journal : List Timed) : Prop where
  retried : ∀ o ∈ answers f.position journal, worthRetrying o
  attempts : (answers f.position journal).length + 1 + f.left = c.attempts
  exchanged : Exchanged promise f.position f.entry.address journal f.answerDue

end Flight

variable {promise : Promise} {c : Config} {store : Option ProofStore} {entry : Allocation} {i : Nat}
  {J K : List Timed}

/-! Only what a journal tells about the position counts. -/

theorem Exchanged.congr {address : Address} {due : List Outcome}
    (h : Exchanged promise i address J due) (hanswers : answers i K = answers i J)
    (hasked : asked i K = asked i J) : Exchanged promise i address K due :=
  ⟨by rw [hanswers, hasked, h.answered], by rw [hanswers]; exact h.kept⟩

theorem Judged.congr {verdict : Except VerificationError Unit}
    (h : Judged promise c store entry i J verdict) (hanswers : answers i K = answers i J)
    (hasked : asked i K = asked i J) : Judged promise c store entry i K verdict :=
  ⟨by rw [hanswers]; exact h.settles, h.exchanged.congr hanswers hasked⟩

/-- Whoever is judged has been asked for. -/
theorem Judged.exists_called {verdict : Except VerificationError Unit}
    (h : Judged promise c store entry i J verdict) :
    ∃ t, (⟨t, .called i entry.address⟩ : Timed) ∈ J := by
  obtain ⟨result, hconcludes, -⟩ := h.settles
  rw [← mem_asked, h.exchanged.answered, List.mem_replicate]
  exact ⟨by simpa using hconcludes.ne_nil, rfl⟩

/-- **Whoever agrees has been answered with a claim that agrees**, and that answer was promised. -/
theorem Judged.exists_claim (h : Judged promise c store entry i J (.ok ())) :
    ∃ claim attempt, Except.ok claim ∈ answers i J ∧ promise i entry.address attempt (.ok claim) ∧
      checkClaim entry claim store = .ok () := by
  obtain ⟨claim, hmem, -, hcheck⟩ := h.settles.exists_claim
  obtain ⟨n, hn⟩ := List.mem_iff_getElem?.1 hmem
  have hkept := h.exchanged.kept
  rw [List.append_nil] at hkept
  exact ⟨claim, n + 1, hmem, hkept n _ hn, hcheck⟩

theorem Flight.Fits.congr {f : Flight} (h : f.Fits promise c J)
    (hanswers : answers f.position K = answers f.position J)
    (hasked : asked f.position K = asked f.position J) : f.Fits promise c K :=
  ⟨by rw [hanswers]; exact h.retried, by rw [hanswers]; exact h.attempts,
    h.exchanged.congr hanswers hasked⟩

/-! ## What every move keeps -/

/-- **A batch on its way**, whose first entry stands at `first` in the list. -/
structure Course (promise : Promise) (p : Plan σ) (first : Nat) (batch : List Allocation)
    (b : Batch σ) : Prop where
  /-- No position has two flights. -/
  nodup : (b.flights.map Flight.position).Nodup
  /-- A flight is that of an entry, and has failed so far. -/
  flying : ∀ f ∈ b.flights, (∃ k, f.position = first + k ∧ batch[k]? = some f.entry) ∧
    f.Fits promise p.config b.journal.reverse
  /-- An entry without a flight has settled, and fails the batch if it does not agree. -/
  landed : ∀ k entry, batch[k]? = some entry → first + k ∉ b.flights.map Flight.position →
    ∃ verdict, Judged promise p.config p.store entry (first + k) b.journal.reverse verdict ∧
      (b.failing = none → verdict = .ok ())
  /-- What fails the batch is an entry that did not agree. -/
  failing : ∀ failing, b.failing = some failing →
    ∃ k entry, batch[k]? = some entry ∧ first + k ∉ b.flights.map Flight.position ∧
      Judged promise p.config p.store entry (first + k) b.journal.reverse (.error failing.error)

theorem mem_flightsOf {c : Config} {instant first : Nat} {batch : List Allocation} {f : Flight} :
    f ∈ Batch.flightsOf c instant first batch ↔
      ∃ k entry, batch[k]? = some entry ∧ f = ⟨instant, first + k, entry, .ask (c.attempts - 1)⟩ := by
  induction batch generalizing first with
  | nil => simp [Batch.flightsOf]
  | cons entry rest ih =>
    rw [Batch.flightsOf, List.mem_cons, ih]
    constructor
    · rintro (rfl | ⟨k, e, hk, rfl⟩)
      · exact ⟨0, entry, rfl, rfl⟩
      · exact ⟨k + 1, e, hk, by rw [Nat.add_assoc, Nat.add_comm 1]⟩
    · rintro ⟨k, e, hk, rfl⟩
      cases k with
      | zero => exact .inl (by cases hk; rfl)
      | succ k => exact .inr ⟨k, e, hk, by rw [Nat.add_assoc, Nat.add_comm 1]⟩

theorem map_position_flightsOf (c : Config) (instant first : Nat) (batch : List Allocation) :
    (Batch.flightsOf c instant first batch).map Flight.position
      = List.range' first batch.length := by
  induction batch generalizing first with
  | nil => rfl
  | cons entry rest ih => simp [Batch.flightsOf, ih, List.range'_succ]

namespace Course

variable {p : Plan σ} {first : Nat} {batch : List Allocation} {b b' : Batch σ} {f moved : Flight}
  {rest : List Flight}

/-- What a move of the flight `f` leaves as it is: what the journal tells about the others. -/
def Elsewhere (f : Flight) (b b' : Batch σ) : Prop :=
  ∀ i, i ≠ f.position → answers i b'.journal.reverse = answers i b.journal.reverse ∧
    asked i b'.journal.reverse = asked i b.journal.reverse

/-- A flight that has moved and is still on its way. -/
theorem still (h : Course promise p first batch b) (hb : b.flights = f :: rest)
    (hflights : b'.flights = moved.insert rest) (hposition : moved.position = f.position)
    (hentry : moved.entry = f.entry) (hfailing : b'.failing = b.failing)
    (helse : Elsewhere f b b') (hfits : moved.Fits promise p.config b'.journal.reverse) :
    Course promise p first batch b' := by
  have hperm : (b'.flights.map Flight.position).Perm (b.flights.map Flight.position) := by
    rw [hflights, hb]
    refine ((Flight.perm_insert moved rest).map _).trans ?_
    simp [hposition]
  have hdistinct : f.position ∉ rest.map Flight.position := by
    have := h.nodup
    rw [hb, List.map_cons, List.nodup_cons] at this
    exact this.1
  -- A position without a flight is not the one of `f`.
  have hother : ∀ i, i ∉ b'.flights.map Flight.position → i ≠ f.position := by
    rintro i hi rfl
    exact hi (hperm.mem_iff.2 (by simp [hb]))
  refine ⟨hperm.nodup_iff.2 h.nodup, fun g hg => ?_, fun k entry hk hi => ?_,
    fun failing hf => ?_⟩
  · rw [hflights, Flight.mem_insert] at hg
    rcases hg with rfl | hg
    · have := (h.flying f (by simp [hb])).1
      exact ⟨by rwa [hposition, hentry], hfits⟩
    · have hne : g.position ≠ f.position := fun he =>
        hdistinct (he ▸ List.mem_map_of_mem hg)
      obtain ⟨hplace, hg⟩ := h.flying g (by simp [hb, hg])
      exact ⟨hplace, hg.congr (helse _ hne).1 (helse _ hne).2⟩
  · have hne := helse _ (hother _ hi)
    obtain ⟨verdict, hj, hv⟩ := h.landed k entry hk fun hm => hi (hperm.mem_iff.2 hm)
    exact ⟨verdict, hj.congr hne.1 hne.2, by rwa [hfailing]⟩
  · rw [hfailing] at hf
    obtain ⟨k, entry, hk, hi, hj⟩ := h.failing failing hf
    have hi' : first + k ∉ b'.flights.map Flight.position := fun hm => hi (hperm.mem_iff.1 hm)
    have hne := helse _ (hother _ hi')
    exact ⟨k, entry, hk, hi', hj.congr hne.1 hne.2⟩

/-- **A question is asked.** -/
theorem ask (h : Course promise p first batch b) (hb : b.flights = f :: rest)
    (hkeeps : Keeps p.service promise) {left : Nat} (hphase : f.phase = .ask left) :
    Course promise p first batch (b.ask p f left rest) := by
  obtain ⟨hretried, hattempts, hanswered, hkept⟩ := (h.flying f (by simp [hb])).2
  have hleft : f.left = left := by rw [Flight.left, hphase]
  have hdue : f.answerDue = [] := by rw [Flight.answerDue, hphase]
  have hmade : p.config.made left = (answers f.position b.journal.reverse).length + 1 :=
    made_eq (by rw [← hleft]; exact hattempts)
  have hpromise := hkeeps b.state ⟨f.position, f.entry.address, p.config.made left, f.due⟩
  have hanswers : ∀ i, answers i (b.ask p f left rest).journal.reverse
      = answers i b.journal.reverse := fun i => by simp [Batch.ask]
  have hasked : ∀ i, asked i (b.ask p f left rest).journal.reverse
      = asked i b.journal.reverse ++ if f.position = i then [f.entry.address] else [] :=
    fun i => by simp [Batch.ask, asked_called]
  rw [hdue, List.append_nil] at hanswered hkept
  refine h.still hb rfl rfl rfl rfl (fun i hi => ⟨hanswers i, ?_⟩) ⟨?_, ?_, ?_, ?_⟩
  · rw [hasked, if_neg (Ne.symm hi), List.append_nil]
  · rw [hanswers]
    exact hretried
  · rw [hanswers]
    exact hleft ▸ hattempts
  · rw [hanswers, hasked, if_pos rfl, hanswered]
    simp [Flight.answerDue, List.replicate_succ']
  · rw [hanswers]
    exact hkept.concat (hmade ▸ hpromise)

/-- **A question failed and will be asked again.** -/
theorem askAgain (h : Course promise p first batch b) (hb : b.flights = f :: rest)
    {left more : Nat} {outcome : Outcome} {fault : ApiFault} (attempt : Nat)
    (hphase : f.phase = .hear left outcome)
    (hv : verdict p.config f.entry.address left outcome = .again more fault) :
    Course promise p first batch (b.askAgain p f attempt more fault rest) := by
  obtain ⟨rfl, hfault, rfl⟩ := worthRetrying_of_verdict hv
  obtain ⟨hretried, hattempts, hanswered, hkept⟩ := (h.flying f (by simp [hb])).2
  have hleft : f.left = more + 1 := by rw [Flight.left, hphase]
  have hdue : f.answerDue = [.error fault] := by rw [Flight.answerDue, hphase]
  have hanswers : ∀ i, answers i (b.askAgain p f attempt more fault rest).journal.reverse
      = answers i b.journal.reverse ++ if f.position = i then [.error fault] else [] :=
    fun i => by simp [Batch.askAgain, answers_answered]
  have hasked : ∀ i, asked i (b.askAgain p f attempt more fault rest).journal.reverse
      = asked i b.journal.reverse := fun i => by simp [Batch.askAgain]
  rw [hdue] at hanswered hkept
  refine h.still hb rfl rfl rfl rfl (fun i hi => ⟨?_, hasked i⟩) ⟨?_, ?_, ?_, ?_⟩
  · rw [hanswers, if_neg (Ne.symm hi), List.append_nil]
  · rw [hanswers, if_pos rfl]
    intro o ho
    rcases List.mem_append.1 ho with ho | ho
    · exact hretried o ho
    · rw [List.mem_singleton.1 ho]
      exact hfault
  · rw [hanswers, if_pos rfl, List.length_append, List.length_singleton]
    change (answers f.position b.journal.reverse).length + 1 + 1 + more = p.config.attempts
    omega
  · rw [hanswers, hasked, if_pos rfl, hanswered]
    simp [Flight.answerDue]
  · rw [hanswers, if_pos rfl]
    simpa [Flight.answerDue] using hkept

/-- A batch that does not fail after a landing did not fail before, and the entry agrees. -/
theorem failing_land {outcome : Outcome} {result : Except VerificationError Claim}
    (h : (b.land p f outcome result rest).failing = none) :
    Batch.checkResult p.store f.entry result = .ok () ∧ b.failing = none := by
  simp only [Batch.land] at h
  split at h
  · next hok => exact ⟨hok, h⟩
  · cases h

/-- What fails a batch after a landing is the entry that landed, or what failed it before. -/
theorem of_failing_land {outcome : Outcome} {result : Except VerificationError Claim}
    {failing : Failing} (h : (b.land p f outcome result rest).failing = some failing) :
    Batch.checkResult p.store f.entry result = .error failing.error ∨ b.failing = some failing := by
  simp only [Batch.land] at h
  split at h
  · exact .inr h
  · next e he =>
    rw [Option.some.injEq] at h
    subst h
    unfold Failing.earlier
    grind

/-- **A lookup is over**: its entry has settled. -/
theorem land (h : Course promise p first batch b) (hb : b.flights = f :: rest)
    {left : Nat} {outcome : Outcome} {result : Except VerificationError Claim}
    (hphase : f.phase = .hear left outcome)
    (hv : verdict p.config f.entry.address left outcome = .done result) :
    Course promise p first batch (b.land p f outcome result rest) := by
  obtain ⟨⟨k, hk, hentry⟩, hretried, hattempts, hanswered, hkept⟩ := h.flying f (by simp [hb])
  have hleft : f.left = left := by rw [Flight.left, hphase]
  have hdue : f.answerDue = [outcome] := by rw [Flight.answerDue, hphase]
  rw [hdue] at hanswered hkept
  have hanswers : ∀ i, answers i (b.land p f outcome result rest).journal.reverse
      = answers i b.journal.reverse ++ if f.position = i then [outcome] else [] :=
    fun i => by simp [Batch.land, answers_answered]
  have hasked : ∀ i, asked i (b.land p f outcome result rest).journal.reverse
      = asked i b.journal.reverse := fun i => by simp [Batch.land]
  have helse : Elsewhere f b (b.land p f outcome result rest) := fun i hi =>
    ⟨by rw [hanswers, if_neg (Ne.symm hi), List.append_nil], hasked i⟩
  obtain ⟨hdistinct, hnodup⟩ : f.position ∉ rest.map Flight.position ∧
      (rest.map Flight.position).Nodup := by
    have := h.nodup
    rwa [hb, List.map_cons, List.nodup_cons] at this
  have hjudged : Judged promise p.config p.store f.entry f.position
      (b.land p f outcome result rest).journal.reverse
      (Batch.checkResult p.store f.entry result) := by
    refine ⟨⟨result, ?_, rfl⟩, ?_, ?_⟩
    · rw [hanswers, if_pos rfl]
      exact concludes_of_verdict hretried (by rw [← hleft]; exact hattempts) hv
    · rw [hanswers, hasked, if_pos rfl, hanswered, List.append_nil]
    · rw [hanswers, if_pos rfl, List.append_nil]
      exact hkept
  -- An entry without a flight is the one that has just landed, or has been without one before.
  have hcases : ∀ i, i ∉ rest.map Flight.position →
      i = f.position ∨ i ≠ f.position ∧ i ∉ b.flights.map Flight.position := by
    intro i hi
    by_cases he : i = f.position
    · exact .inl he
    · exact .inr ⟨he, by simpa [hb, he] using hi⟩
  refine ⟨hnodup, fun g hg => ?_, fun i entry hi hout => ?_, fun failing hf => ?_⟩
  · have hne : g.position ≠ f.position := fun he => hdistinct (he ▸ List.mem_map_of_mem hg)
    obtain ⟨hplace, hg⟩ := h.flying g (hb ▸ List.mem_cons_of_mem _ hg)
    exact ⟨hplace, hg.congr (helse _ hne).1 (helse _ hne).2⟩
  · rcases hcases _ hout with he | ⟨hne, hout⟩
    · obtain rfl : i = k := by omega
      obtain rfl : entry = f.entry := Option.some.inj (hi.symm.trans hentry)
      exact ⟨_, hk ▸ hjudged, fun hnone => (failing_land hnone).1⟩
    · obtain ⟨verdict, hj, hok⟩ := h.landed i entry hi hout
      exact ⟨verdict, hj.congr (helse _ hne).1 (helse _ hne).2,
        fun hnone => hok (failing_land hnone).2⟩
  · rcases of_failing_land hf with he | hold
    · rw [he] at hjudged
      exact ⟨k, f.entry, hentry, hk ▸ hdistinct, hk ▸ hjudged⟩
    · obtain ⟨i, entry, hi, hout, hj⟩ := h.failing failing hold
      rw [hb, List.map_cons, List.mem_cons, not_or] at hout
      exact ⟨i, entry, hi, hout.2, hj.congr (helse _ hout.1).1 (helse _ hout.1).2⟩

/-- **Every move keeps the course.** -/
theorem move (hkeeps : Keeps p.service promise) (h : Course promise p first batch b)
    (hb : b.flights = f :: rest) : Course promise p first batch (b.move p f rest) := by
  unfold Batch.move
  split
  · next left hphase => exact h.ask hb hkeeps hphase
  · next left outcome hphase =>
    split
    · next more fault hv => exact h.askAgain hb _ hphase hv
    · next result hv => exact h.land hb hphase hv

/-- **At the beginning every entry has a flight**, and nothing has been asked for it. -/
theorem start (c : Config) (hc : p.config = c) (first instant : Nat) (state : σ)
    (journal : List Timed) (batch : List Allocation)
    (hsilent : ∀ i, first ≤ i → answers i journal.reverse = [] ∧ asked i journal.reverse = []) :
    Course promise p first batch (Batch.start c first instant state journal batch) := by
  subst hc
  have hpositions := map_position_flightsOf p.config instant first batch
  refine ⟨?_, fun f hf => ?_, fun k entry hk hout => ?_, fun failing hf => nomatch hf⟩
  · rw [Batch.start, hpositions]
    exact List.nodup_range'
  · obtain ⟨k, entry, hk, rfl⟩ := mem_flightsOf.1 hf
    obtain ⟨hanswers, hasked⟩ := hsilent (first + k) (Nat.le_add_right _ _)
    refine ⟨⟨k, rfl, hk⟩, ?_, ?_, ?_, ?_⟩
    · simp [Batch.start, hanswers]
    · have := p.config.attempts_pos
      simp only [Batch.start, hanswers, List.length_nil, Flight.left]
      omega
    · simp [Batch.start, hanswers, hasked, Flight.answerDue]
    · simp [Batch.start, hanswers, Flight.answerDue, Kept]
  · refine absurd ?_ hout
    rw [Batch.start, hpositions, List.mem_range'_1]
    have := (List.getElem?_eq_some_iff.1 hk).1
    omega

end Course

/-! ## The end of a batch -/

section RunEnd

variable {p : Plan σ} {first : Nat} {batch : List Allocation} {b : Batch σ}

/-- **A batch that fails names one of its own entries**, with the error that it settled with. -/
theorem exists_judged_of_failure (hkeeps : Keeps p.service promise)
    (h : Course promise p first batch b) {error : VerificationError}
    (hfailure : (b.run p).failure = some error) :
    ∃ k entry, batch[k]? = some entry ∧ Judged promise p.config p.store entry (first + k)
      (b.run p).journal.reverse (.error error) := by
  obtain ⟨last, hlast, hrun, -⟩ := b.run_invariant (fun _ _ _ hb h => h.move hkeeps hb) h
  rw [hrun] at hfailure ⊢
  have hfailure : last.ending p = some error := hfailure
  unfold Batch.ending at hfailure
  split at hfailure
  · next failing hf =>
    split at hfailure
    · cases hfailure
      obtain ⟨k, entry, hk, -, hj⟩ := hlast.failing failing hf
      exact ⟨k, entry, hk, hj⟩
    · cases hfailure
  · cases hfailure

/-- **A batch that does not fail has all of its entries agree.** -/
theorem judged_of_no_failure (hkeeps : Keeps p.service promise)
    (h : Course promise p first batch b) (hfailure : (b.run p).failure = none)
    {k : Nat} {entry : Allocation} (hk : batch[k]? = some entry) :
    Judged promise p.config p.store entry (first + k) (b.run p).journal.reverse (.ok ()) := by
  obtain ⟨last, hlast, hrun, hempty⟩ := b.run_invariant (fun _ _ _ hb h => h.move hkeeps hb) h
  rw [hrun] at hfailure ⊢
  have hending : last.ending p = none := hfailure
  have hflights : last.flights = [] := hempty hending
  have hfailing : last.failing = none := by
    unfold Batch.ending at hending
    split at hending
    · simp [Failing.ends, hflights] at hending
    · assumption
  obtain ⟨verdict, hj, hok⟩ := hlast.landed k entry hk (by simp [hflights])
  rw [hok hfailing] at hj
  exact hj

end RunEnd

end Airdrop.Verification
