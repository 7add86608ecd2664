import Airdrop.Proofs.Verification.Clock
import Mathlib.Algebra.Order.Floor.Div
import Mathlib.Data.Nat.Basic

/-!
# Proofs/Verification/Progress — batch after batch

The list is cut into batches of full width, the last one perhaps shorter (`getElem?_batches`).  A
run checks them in order and ends with all of them checked or with the first that fails
(`runBatches_induction`): **what every checked batch keeps holds either way**.

`Sound` is such a property.  Every entry of the batches so far has been asked for and agreed, and
nothing has been asked on behalf of any other.
-/

namespace Airdrop.Verification

/-! ## The batches -/

theorem flatten_chunksOf {α : Type} (width : Nat) (list : List α) :
    (chunksOf width list).flatten = list := by
  fun_induction chunksOf width list with
  | case1 => rfl
  | case2 a rest ih => simp [ih]

/-- The `k`-th piece begins after `k` full ones. -/
theorem getElem?_chunksOf {α : Type} (width : Nat) (list : List α) (k : Nat) :
    (chunksOf width list)[k]? = if k * (width + 1) < list.length
      then some ((list.drop (k * (width + 1))).take (width + 1)) else none := by
  fun_induction chunksOf width list generalizing k with
  | case1 => simp
  | case2 a rest ih =>
    cases k with
    | zero => simp
    | succ k =>
      have hle : (k + 1) * (width + 1) = width + k * (width + 1) + 1 := by
        rw [Nat.succ_mul]
        omega
      rw [List.getElem?_cons_succ, ih, hle, List.drop_succ_cons, List.drop_drop, List.length_drop,
        List.length_cons]
      refine if_congr ?_ rfl rfl
      omega

section

variable (c : Config) (entries : List Allocation)

theorem flatten_batches : (batches c entries).flatten = entries := flatten_chunksOf _ entries

/-- **The `k`-th batch begins after `k` full ones.** -/
theorem getElem?_batches (k : Nat) :
    (batches c entries)[k]? = if k * c.width < entries.length
      then some ((entries.drop (k * c.width)).take c.width) else none := by
  have hwidth : c.width - 1 + 1 = c.width := Nat.sub_add_cancel c.width_pos
  have := getElem?_chunksOf (c.width - 1) entries k
  rwa [hwidth] at this

/-- **The number of batches is the number of entries over the width, rounded up.** -/
theorem length_batches : (batches c entries).length = entries.length ⌈/⌉ c.width := by
  refine eq_of_forall_ge_iff fun k => ?_
  rw [← List.getElem?_eq_none_iff, getElem?_batches, ceilDiv_le_iff_le_mul c.width_pos,
    Nat.mul_comm c.width]
  split <;> simp <;> omega

/-- **A batch has an entry and at most the full width**; all but the last have the full width. -/
theorem length_of_getElem?_batches {c : Config} {entries : List Allocation} {k : Nat}
    {batch : List Allocation} (hk : (batches c entries)[k]? = some batch) :
    batch ≠ [] ∧ batch.length ≤ c.width ∧
      (k + 1 < (batches c entries).length → batch.length = c.width) := by
  have hpos := c.width_pos
  rw [getElem?_batches] at hk
  split at hk
  · next hlt =>
    cases hk
    refine ⟨?_, List.length_take_le _ _, fun hnext => ?_⟩
    · rw [ne_eq, List.take_eq_nil_iff, List.drop_eq_nil_iff]
      omega
    · -- The next batch has an entry as well.
      have hlast : (k + 1) * c.width < entries.length := by
        by_contra hge
        have := getElem?_batches c entries (k + 1)
        rw [if_neg hge, List.getElem?_eq_none_iff] at this
        omega
      rw [Nat.succ_mul] at hlast
      rw [List.length_take, List.length_drop]
      omega
  · cases hk

/-- The first batches hold the first entries. -/
theorem flatten_take_batches (k : Nat) :
    ((batches c entries).take k).flatten = entries.take (k * c.width) := by
  induction k with
  | zero => simp
  | succ k ih =>
    rw [List.take_add_one, List.flatten_append, ih, getElem?_batches, Nat.succ_mul, List.take_add]
    split
    · simp
    · next h => simp [List.drop_eq_nil_of_le (Nat.le_of_not_lt h)]

end

section

variable {c : Config} {entries : List Allocation} {done rest : List (List Allocation)}
  {batch : List Allocation}

/-- **Where a batch begins**: the batches before it are full. -/
theorem length_flatten_of_batches (h : batches c entries = done ++ batch :: rest) :
    done.flatten.length = done.length * c.width := by
  have hk := getElem?_batches c entries done.length
  have hdone := flatten_take_batches c entries done.length
  rw [h] at hk hdone
  rw [List.getElem?_append_right (Nat.le_refl _), Nat.sub_self, List.getElem?_cons_zero] at hk
  rw [List.take_left] at hdone
  split at hk
  · rw [hdone, List.length_take]
    omega
  · cases hk

/-- An entry of a batch, and its place in the list. -/
theorem getElem?_of_batches (h : batches c entries = done ++ batch :: rest) {k : Nat}
    {entry : Allocation} (hk : batch[k]? = some entry) :
    entries[done.flatten.length + k]? = some entry := by
  have hflatten := flatten_batches c entries
  rw [h, List.flatten_append, List.flatten_cons] at hflatten
  have hlt := (List.getElem?_eq_some_iff.1 hk).1
  rw [← hflatten, List.getElem?_append_right (Nat.le_add_right _ _), Nat.add_sub_cancel_left,
    List.getElem?_append_left hlt, hk]

end

/-! ## Induction over batches -/

variable {σ : Type}

/-- **A batch is entered**: after the pause, it is announced. -/
def Progression.enter (c : Config) (s : Progression σ) (batch : List Allocation) :
    Progression σ := (s.pause c).announce batch.length

/-- What became of a batch that was entered. -/
def Progression.tried (service : Service σ) (c : Config) (store : Option ProofStore)
    (s : Progression σ) (batch : List Allocation) : BatchEnd σ :=
  (s.enter c batch).runBatch service c store batch

/-- **A run checks batch after batch**, up to the first that fails.  What holds at the beginning and
is kept by every batch that does not fail holds at its end, or where a batch fails. -/
theorem runBatches_induction {service : Service σ} {c : Config} {store : Option ProofStore}
    {motive : List (List Allocation) → Progression σ → Prop} {all : List (List Allocation)}
    (hstep : ∀ done batch rest s, all = done ++ batch :: rest → motive done s →
      (s.tried service c store batch).failure = none →
      motive (done ++ [batch]) ((s.enter c batch).advance batch.length
        (s.tried service c store batch)))
    (left : List (List Allocation)) (done : List (List Allocation)) (s : Progression σ)
    (hall : all = done ++ left) (hs : motive done s) :
    (∃ last, motive all last ∧ runBatches service c store s left = last.finish) ∨
    (∃ before batch after last error, all = before ++ batch :: after ∧ motive before last ∧
      (last.tried service c store batch).failure = some error ∧
      runBatches service c store s left =
        (last.enter c batch).abort error (last.tried service c store batch)) := by
  induction left generalizing done s with
  | nil =>
    rw [List.append_nil] at hall
    exact .inl ⟨s, hall ▸ hs, rfl⟩
  | cons batch rest ih =>
    cases hfailure : (s.tried service c store batch).failure with
    | some error =>
      refine .inr ⟨done, batch, rest, s, error, hall, hs, hfailure, ?_⟩
      rw [runBatches]
      simp only [Progression.tried, Progression.enter] at hfailure ⊢
      rw [hfailure]
    | none =>
      have hnext := ih (done ++ [batch]) _ (by rw [hall, List.append_assoc]; rfl)
        (hstep done batch rest s hall hs hfailure)
      rw [runBatches]
      simp only [Progression.tried, Progression.enter] at hfailure hnext ⊢
      rw [hfailure]
      exact hnext

/-! ## What the checked batches keep -/

/-- The events with which a batch is entered, last event first. -/
def Progression.opening (c : Config) (s : Progression σ) (size : Nat) : List Timed :=
  ⟨(s.pause c).instant, .fetching (s.report.batches + 1)⟩ ::
    ⟨(s.pause c).instant, .pending (s.report.batches + 1) size⟩ ::
      if s.report.batches = 0 then [] else [⟨s.instant, .waiting (s.report.batches + 1)⟩]

namespace Progression

variable (c : Config) (s : Progression σ) (batch : List Allocation)

@[simp] theorem report_enter : (s.enter c batch).report = s.report := by
  unfold enter announce pause
  split <;> rfl

@[simp] theorem state_enter : (s.enter c batch).state = s.state := by
  unfold enter announce pause
  split <;> rfl

theorem instant_enter : (s.enter c batch).instant = (s.pause c).instant := rfl

theorem le_instant_pause : s.instant ≤ (s.pause c).instant := by
  unfold pause
  split
  · exact Nat.le_refl _
  · exact Nat.le_add_right _ _

theorem journal_enter :
    (s.enter c batch).journal = s.opening c batch.length ++ s.journal := by
  unfold enter announce pause opening
  split <;> simp_all [pause]

/-- The opening is about no position, and between the end of the last batch and the beginning of
this one. -/
theorem mem_opening {c : Config} {s : Progression σ} {size : Nat} {timed : Timed}
    (h : timed ∈ s.opening c size) : timed.event.position? = none ∧
      s.instant ≤ timed.instant ∧ timed.instant ≤ (s.pause c).instant := by
  have hle := s.le_instant_pause c
  unfold opening at h
  split at h <;> simp only [List.mem_cons, List.not_mem_nil, or_false] at h <;>
    rcases h with rfl | rfl | rfl <;> simp [Event.position?, hle]

theorem pairwise_opening (size : Nat) : (s.opening c size).Pairwise
    fun later earlier => earlier.instant ≤ later.instant := by
  have hle := s.le_instant_pause c
  unfold opening
  split <;> simp [hle]

end Progression

/-- **What holds of the batches `done`**, all checked. -/
structure Sound (promise : Promise) (c : Config) (store : Option ProofStore)
    (done : List (List Allocation)) (s : Progression σ) : Prop where
  report : s.report = ⟨done.length, done.flatten.length⟩
  /-- Every entry agreed. -/
  judged : ∀ i entry, done.flatten[i]? = some entry →
    Judged promise c store entry i s.journal.reverse (.ok ())
  /-- Nobody has asked on behalf of another position. -/
  silent : ∀ timed ∈ s.journal, ∀ i, timed.event.position? = some i → i < done.flatten.length
  /-- Nothing happens after now. -/
  past : ∀ timed ∈ s.journal, timed.instant ≤ s.instant
  /-- The journal, last event first, goes back in time. -/
  ordered : s.journal.Pairwise fun later earlier => earlier.instant ≤ later.instant

/-- **A mark in the journal judges nobody**: an event about no position changes no verdict. -/
theorem Judged.mark {promise : Promise} {c : Config} {store : Option ProofStore}
    {entry : Allocation} {i : Nat} {J : List Timed} {verdict : Except VerificationError Unit}
    {timed : Timed} (hmark : timed.event.position? = none)
    (h : Judged promise c store entry i J.reverse verdict) :
    Judged promise c store entry i (timed :: J).reverse verdict := by
  have hother : ∀ t ∈ [timed], t.event.position? ≠ some i := fun t ht => by
    rw [List.mem_singleton.1 ht, hmark]
    nofun
  rw [List.reverse_cons]
  refine h.congr ?_ ?_
  · rw [answers_append, answers_eq_nil hother, List.append_nil]
  · rw [asked_append, asked_eq_nil hother, List.append_nil]

namespace Sound

variable {promise : Promise} {service : Service σ} {c : Config} {store : Option ProofStore}
  {done : List (List Allocation)} {s : Progression σ} {batch : List Allocation}

theorem start (instant : Nat) (state : σ) :
    Sound promise c store [] ⟨⟨0, 0⟩, instant, state, []⟩ :=
  ⟨rfl, fun _ _ h => by simp at h, by simp, by simp, List.Pairwise.nil⟩

/-- What became of a batch is the end of its run from the opening on. -/
theorem tried_eq (h : Sound promise c store done s) :
    s.tried service c store batch =
      (Batch.start c done.flatten.length (s.pause c).instant s.state
        (s.opening c batch.length ++ s.journal) batch).run
          ⟨service, c, store, decide (narrowWidth < batch.length)⟩ := by
  unfold Progression.tried Progression.runBatch
  rw [Progression.report_enter, Progression.instant_enter, Progression.state_enter,
    Progression.journal_enter, h.report]

/-- A batch is on the clock when it is entered. -/
theorem clock (h : Sound promise c store done s) (batch : List Allocation) :
    OnClock done.flatten.length (s.pause c).instant batch (s.opening c batch.length ++ s.journal)
      (Batch.start c done.flatten.length (s.pause c).instant s.state
        (s.opening c batch.length ++ s.journal) batch) := by
  refine OnClock.start c _ _ s.state batch (fun timed ht => ?_) ?_
  · rcases List.mem_append.1 ht with ht | ht
    · exact (Progression.mem_opening ht).2.2
    · exact (h.past timed ht).trans (s.le_instant_pause c)
  · refine List.pairwise_append.2 ⟨s.pairwise_opening c _, h.ordered, fun later hl earlier he => ?_⟩
    exact (h.past earlier he).trans (Progression.mem_opening hl).2.1

/-- **A batch on the clock**, entered after sound ones. -/
theorem tried_clock (service : Service σ) (batch : List Allocation)
    (h : Sound promise c store done s) :
    (s.pause c).instant ≤ (s.tried service c store batch).instant ∧
    (∃ news, (s.tried service c store batch).journal =
        news ++ (s.opening c batch.length ++ s.journal) ∧
      ∀ timed ∈ news, (s.pause c).instant ≤ timed.instant ∧
        timed.event.Concerns done.flatten.length batch) ∧
    (∀ timed ∈ (s.tried service c store batch).journal,
      timed.instant ≤ (s.tried service c store batch).instant) ∧
    (s.tried service c store batch).journal.Pairwise
      fun later earlier => earlier.instant ≤ later.instant := by
  rw [h.tried_eq]
  exact (h.clock batch).run

/-- **What a batch adds to the journal is about its own positions.** -/
theorem tried_adds (service : Service σ) (batch : List Allocation)
    (h : Sound promise c store done s) :
    ∃ added, (s.tried service c store batch).journal = added ++ s.journal ∧
      ∀ timed ∈ added, ∀ i, timed.event.position? = some i →
        done.flatten.length ≤ i ∧ i < done.flatten.length + batch.length := by
  obtain ⟨-, ⟨news, hnews, hall⟩, -⟩ := h.tried_clock service batch
  refine ⟨news ++ s.opening c batch.length, by rw [hnews, List.append_assoc],
    fun timed ht i hi => ?_⟩
  rcases List.mem_append.1 ht with ht | ht
  · obtain ⟨-, k, entry, hk, hposition, -⟩ := hall timed ht
    have hlt := (List.getElem?_eq_some_iff.1 hk).1
    obtain rfl := Option.some.inj (hi.symm.trans hposition)
    omega
  · rw [(Progression.mem_opening ht).1] at hi
    cases hi

/-- A batch leaves the answers for the positions before it as they are. -/
theorem judged_tried (h : Sound promise c store done s) {i : Nat} {entry : Allocation}
    (hi : done.flatten[i]? = some entry) :
    Judged promise c store entry i (s.tried service c store batch).journal.reverse (.ok ()) := by
  obtain ⟨added, hjournal, hadded⟩ := h.tried_adds service batch
  have hlt := (List.getElem?_eq_some_iff.1 hi).1
  have hother : ∀ timed ∈ added.reverse, timed.event.position? ≠ some i := fun timed ht hp => by
    have := (hadded timed (List.mem_reverse.1 ht) i hp).1
    omega
  rw [hjournal, List.reverse_append]
  refine (h.judged i entry hi).congr ?_ ?_
  · rw [answers_append, answers_eq_nil hother, List.append_nil]
  · rw [asked_append, asked_eq_nil hother, List.append_nil]

/-- When a batch is entered, nobody has asked on its behalf. -/
theorem silent_entered (h : Sound promise c store done s) {i : Nat}
    (hi : done.flatten.length ≤ i) :
    ∀ timed ∈ (s.opening c batch.length ++ s.journal).reverse,
      timed.event.position? ≠ some i := by
  intro timed ht hp
  rcases List.mem_append.1 (List.mem_reverse.1 ht) with ht | ht
  · rw [(Progression.mem_opening ht).1] at hp
    cases hp
  · have := h.silent timed ht i hp
    omega

/-- A batch is on its course when it is entered. -/
theorem course (h : Sound promise c store done s) (wide : Bool) :
    Course promise ⟨service, c, store, wide⟩ done.flatten.length batch
      (Batch.start c done.flatten.length (s.pause c).instant s.state
        (s.opening c batch.length ++ s.journal) batch) :=
  Course.start c rfl _ _ _ _ _ fun _ hi =>
    ⟨answers_eq_nil (h.silent_entered hi), asked_eq_nil (h.silent_entered hi)⟩

/-- **A batch that does not fail is as sound as those before it.** -/
theorem advance (hkeeps : Keeps service promise) (h : Sound promise c store done s)
    (hfailure : (s.tried service c store batch).failure = none) :
    Sound promise c store (done ++ [batch])
      ((s.enter c batch).advance batch.length (s.tried service c store batch)) := by
  obtain ⟨-, -, hpast, hordered⟩ := h.tried_clock service batch
  have hlength : (done ++ [batch]).flatten.length = done.flatten.length + batch.length := by simp
  refine ⟨?_, fun i entry hi => ?_, fun timed ht i hp => ?_, fun timed ht => ?_, ?_⟩
  · simp [Progression.advance, h.report]
  · refine Judged.mark rfl ?_
    rw [List.flatten_append, List.flatten_singleton] at hi
    rcases Nat.lt_or_ge i done.flatten.length with hlt | hge
    · rw [List.getElem?_append_left hlt] at hi
      exact h.judged_tried hi
    · rw [List.getElem?_append_right hge] at hi
      have hplace : done.flatten.length + (i - done.flatten.length) = i := by omega
      rw [h.tried_eq] at hfailure ⊢
      have := judged_of_no_failure hkeeps (h.course _) hfailure hi
      rwa [hplace] at this
  · rw [hlength]
    rcases List.mem_cons.1 ht with rfl | ht
    · cases hp
    · obtain ⟨added, hjournal, hadded⟩ := h.tried_adds service batch
      rw [hjournal] at ht
      rcases List.mem_append.1 ht with ht | ht
      · exact (hadded timed ht i hp).2
      · exact (h.silent timed ht i hp).trans_le (Nat.le_add_right _ _)
  · rcases List.mem_cons.1 ht with rfl | ht
    · exact Nat.le_refl _
    · exact hpast timed ht
  · exact List.pairwise_cons.2 ⟨hpast, hordered⟩

/-- **A batch that fails names one of its own entries.** -/
theorem exists_judged_tried (hkeeps : Keeps service promise) (h : Sound promise c store done s)
    {error : VerificationError} (hfailure : (s.tried service c store batch).failure = some error) :
    ∃ k entry, batch[k]? = some entry ∧ Judged promise c store entry (done.flatten.length + k)
      (s.tried service c store batch).journal.reverse (.error error) := by
  rw [h.tried_eq] at hfailure ⊢
  exact exists_judged_of_failure hkeeps (h.course _) hfailure

end Sound

/-! ## The end of a run -/

section

variable {promise : Promise} {service : Service σ} {c : Config} {store : Option ProofStore}
  {instant : Nat} {state : σ} {entries : List Allocation}

/-- **A run ends with all batches sound, or with the first that fails.** -/
theorem run_sound (hkeeps : Keeps service promise) (c : Config) (store : Option ProofStore)
    (instant : Nat) (state : σ) (entries : List Allocation) :
    (∃ last, Sound promise c store (batches c entries) last ∧
      run service c store instant state entries = last.finish) ∨
    (∃ before batch after last error, batches c entries = before ++ batch :: after ∧
      Sound promise c store before last ∧
      (last.tried service c store batch).failure = some error ∧
      run service c store instant state entries =
        (last.enter c batch).abort error (last.tried service c store batch)) :=
  runBatches_induction (fun _ _ _ _ _ hs hfailure => hs.advance hkeeps hfailure) _ [] _ rfl
    (Sound.start instant state)

/-- **A run that ends well has every entry agree.** -/
theorem judged_of_ok (hkeeps : Keeps service promise) {report : Report}
    (hok : (run service c store instant state entries).result = .ok report) :
    report = ⟨(batches c entries).length, entries.length⟩ ∧
    ∀ i entry, entries[i]? = some entry → Judged promise c store entry i
      (run service c store instant state entries).journal (.ok ()) := by
  rcases run_sound hkeeps c store instant state entries with
    ⟨last, hlast, hrun⟩ | ⟨_, _, _, _, _, _, _, _, hrun⟩ <;> rw [hrun] at hok ⊢
  · cases hok
    refine ⟨by rw [hlast.report, flatten_batches], fun i entry hi => Judged.mark rfl ?_⟩
    exact hlast.judged i entry (by rwa [flatten_batches])
  · cases hok

/-- **A run that fails names an entry of the list**, with the error that it settled with. -/
theorem exists_judged_of_error (hkeeps : Keeps service promise) {error : VerificationError}
    (herror : (run service c store instant state entries).result = .error error) :
    ∃ i entry, entries[i]? = some entry ∧ Judged promise c store entry i
      (run service c store instant state entries).journal (.error error) := by
  rcases run_sound hkeeps c store instant state entries with
    ⟨last, hlast, hrun⟩ | ⟨before, batch, after, last, e, hall, hlast, hfailure, hrun⟩ <;>
    rw [hrun] at herror ⊢
  · cases herror
  · cases herror
    obtain ⟨k, entry, hk, hj⟩ := hlast.exists_judged_tried hkeeps hfailure
    exact ⟨_, entry, getElem?_of_batches hall hk, hj.mark rfl⟩

end

end Airdrop.Verification
