import Airdrop.Proofs.Verification.Chronicle

/-!
# Proofs/Verification/Width — how many questions are open at once

A question is open from when it is asked until it is answered.  `countOpen` counts them event by
event, and a batch knows them as the flights that are to hear an answer: **the two numbers agree move
by move** (`Crowd.move`).  Since a batch has no more flights than entries, no more questions are ever
open than a batch has room for (`peak_run_le`).
-/

namespace Airdrop.Verification

variable {σ : Type}

/-- Questions open at the end of a journal, and the most that were. -/
def counted (journal : List Timed) : Nat × Nat := journal.foldl countOpen (0, 0)

theorem counted_concat (J : List Timed) (timed : Timed) :
    counted (J ++ [timed]) = countOpen (counted J) timed := by
  rw [counted, List.foldl_append]
  rfl

/-- Events about no position open and answer no question. -/
theorem counted_append_of_marks {J K : List Timed}
    (h : ∀ timed ∈ K, timed.event.position? = none) : counted (J ++ K) = counted J := by
  induction K using List.reverseRecOn with
  | nil => rw [List.append_nil]
  | append_singleton K timed ih =>
    have hmark := h timed (by simp)
    rw [← List.append_assoc, counted_concat, ih fun t ht => h t (by simp [ht])]
    unfold countOpen
    unfold Event.position? at hmark
    grind

/-- Whether a question of a flight is open. -/
def Flight.isOpen (f : Flight) : Bool :=
  match f.phase with
  | .ask _ => false
  | .hear _ _ => true

theorem Flight.countP_insert (f : Flight) (flights : List Flight) :
    (f.insert flights).countP Flight.isOpen =
      flights.countP Flight.isOpen + if f.isOpen then 1 else 0 := by
  rw [(f.perm_insert flights).countP_eq, List.countP_cons]

theorem Flight.length_insert (f : Flight) (flights : List Flight) :
    (f.insert flights).length = flights.length + 1 := (f.perm_insert flights).length_eq

/-- **A batch in a crowd of at most `width` flights**: its open questions are those counted. -/
structure Crowd (width : Nat) (b : Batch σ) : Prop where
  counts : (counted b.journal.reverse).1 = b.flights.countP Flight.isOpen
  peak_le : (counted b.journal.reverse).2 ≤ width
  length_le : b.flights.length ≤ width

namespace Crowd

variable {p : Plan σ} {width : Nat} {b : Batch σ} {f : Flight} {rest : List Flight}

/-- **Every move keeps count.** -/
theorem move (h : Crowd width b) (hb : b.flights = f :: rest) : Crowd width (b.move p f rest) := by
  obtain ⟨hcounts, hpeak, hlength⟩ := h
  rw [hb, List.countP_cons] at hcounts
  rw [hb, List.length_cons] at hlength
  have hrest : rest.countP Flight.isOpen ≤ rest.length := List.countP_le_length
  unfold Batch.move
  split
  · next left hphase =>
    simp only [Flight.isOpen, hphase, Bool.false_eq_true, if_false] at hcounts
    refine ⟨?_, ?_, ?_⟩
    · rw [Batch.ask, List.reverse_cons, counted_concat, Flight.countP_insert]
      exact congrArg (· + 1) hcounts
    · rw [Batch.ask, List.reverse_cons, counted_concat]
      simp only [countOpen]
      omega
    · rw [Batch.ask, Flight.length_insert]
      exact hlength
  · next left outcome hphase =>
    simp only [Flight.isOpen, hphase, if_true] at hcounts
    have hanswered : (countOpen (counted b.journal.reverse)
        ⟨f.due, .answered f.position outcome⟩).1 = rest.countP Flight.isOpen :=
      (congrArg (· - 1) hcounts).trans (Nat.add_sub_cancel _ _)
    split
    · refine ⟨?_, ?_, ?_⟩
      · rw [Batch.askAgain, List.reverse_cons, List.reverse_cons, counted_concat, counted_concat,
          Flight.countP_insert]
        exact hanswered
      · rw [Batch.askAgain, List.reverse_cons, List.reverse_cons, counted_concat, counted_concat]
        exact hpeak
      · rw [Batch.askAgain, Flight.length_insert]
        exact hlength
    · refine ⟨?_, ?_, Nat.le_of_succ_le hlength⟩
      · rw [Batch.land, List.reverse_cons, counted_concat]
        exact hanswered
      · rw [Batch.land, List.reverse_cons, counted_concat]
        exact hpeak

/-- A batch begins with no question open, if none was open before. -/
theorem start (c : Config) (first instant : Nat) (state : σ) (journal : List Timed)
    {batch : List Allocation} (hwidth : batch.length ≤ width)
    (hnone : (counted journal.reverse).1 = 0) (hpeak : (counted journal.reverse).2 ≤ width) :
    Crowd width (Batch.start c first instant state journal batch) := by
  have hasks : ∀ f ∈ Batch.flightsOf c instant first batch, ¬ f.isOpen = true := by
    intro f hf
    obtain ⟨k, entry, -, rfl⟩ := mem_flightsOf.1 hf
    nofun
  refine ⟨hnone.trans (List.countP_eq_zero.2 hasks).symm, hpeak, ?_⟩
  have := congrArg List.length (map_position_flightsOf c instant first batch)
  rw [List.length_map, List.length_range'] at this
  exact this.trans_le hwidth

/-- **No more questions were open in a batch than it has room for**, and none is left open when it
ends well. -/
theorem run (h : Crowd width b) : (counted (b.run p).journal.reverse).2 ≤ width ∧
    ((b.run p).failure = none → (counted (b.run p).journal.reverse).1 = 0) := by
  obtain ⟨last, hlast, hrun, hempty⟩ := b.run_invariant (fun _ _ _ hb h => h.move hb) h
  rw [hrun]
  refine ⟨hlast.peak_le, fun hfailure => hlast.counts.trans ?_⟩
  rw [hempty hfailure]
  rfl

end Crowd

/-- **Between batches** no question is open. -/
structure Quiet (width : Nat) (s : Progression σ) : Prop where
  counts : (counted s.journal.reverse).1 = 0
  peak_le : (counted s.journal.reverse).2 ≤ width

namespace Quiet

variable (service : Service σ) (c : Config) (store : Option ProofStore) {width : Nat}
  {s : Progression σ} {batch : List Allocation}

/-- A batch that is tried is in a crowd from its beginning. -/
theorem tried (h : Quiet width s) (hwidth : batch.length ≤ width) :
    (counted (s.tried service c store batch).journal.reverse).2 ≤ width ∧
      ((s.tried service c store batch).failure = none →
        (counted (s.tried service c store batch).journal.reverse).1 = 0) := by
  have hopening : counted (s.enter c batch).journal.reverse = counted s.journal.reverse := by
    rw [Progression.journal_enter, List.reverse_append]
    exact counted_append_of_marks fun timed ht =>
      (Progression.mem_opening (List.mem_reverse.1 ht)).1
  refine (Crowd.start c _ _ _ _ hwidth ?_ ?_).run <;> rw [hopening]
  · exact h.counts
  · exact h.peak_le

/-- When it has been checked, no question is open. -/
theorem advance (h : Quiet width s) (hwidth : batch.length ≤ width)
    (hfailure : (s.tried service c store batch).failure = none) :
    Quiet width ((s.enter c batch).advance batch.length (s.tried service c store batch)) := by
  obtain ⟨hpeak, hnone⟩ := h.tried service c store hwidth
  refine ⟨?_, ?_⟩ <;> rw [Progression.advance, List.reverse_cons, counted_concat]
  · exact hnone hfailure
  · exact hpeak

end Quiet

/-- **No more questions are ever open at once than a batch has room for.** -/
theorem peak_run_le (service : Service σ) (c : Config) (store : Option ProofStore) (instant : Nat)
    (state : σ) (entries : List Allocation) :
    peak (run service c store instant state entries).journal ≤ c.width := by
  have hwidth : ∀ {done batch rest}, batches c entries = done ++ batch :: rest →
      batch.length ≤ c.width := fun hall =>
    (length_of_getElem?_batches (getElem?_of_eq_append_cons hall)).2.1
  have hstep : ∀ done batch rest (s : Progression σ), batches c entries = done ++ batch :: rest →
      Quiet c.width s → (s.tried service c store batch).failure = none →
      Quiet c.width ((s.enter c batch).advance batch.length (s.tried service c store batch)) :=
    fun _ _ _ _ hall hs => hs.advance service c store (hwidth hall)
  have hstart : Quiet c.width (⟨⟨0, 0⟩, instant, state, []⟩ : Progression σ) :=
    ⟨rfl, Nat.zero_le _⟩
  rcases runBatches_induction hstep (batches c entries) [] _ rfl hstart with
    ⟨last, hlast, hrun⟩ | ⟨before, batch, after, last, error, hall, hlast, -, hrun⟩
  · rw [run, hrun, Progression.finish, List.reverse_cons]
    change (counted _).2 ≤ _
    rw [counted_concat]
    exact hlast.peak_le
  · rw [run, hrun, Progression.abort, List.reverse_cons]
    change (counted _).2 ≤ _
    rw [counted_concat]
    exact (hlast.tried service c store (hwidth hall)).1

end Airdrop.Verification
