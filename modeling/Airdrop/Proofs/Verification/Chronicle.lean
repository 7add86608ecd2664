import Airdrop.Proofs.Verification.Progress

/-!
# Proofs/Verification/Chronicle — the order of events

The events of a run that are about no single position are its **stages**: batch after batch, each
waited for (but the first), pending, fetching, and then checked or failed.  Between them stand the
questions and answers, each in its turn (`Timed.InTurn`): **nobody is asked about an entry before
every batch in front of it has agreed and the pause after that is over**.

`Chronicle` says all that is known of the journal of a run; it holds of every run (`run_chronicle`).
-/

namespace Airdrop.Verification

variable {σ : Type}

/-! ## Stages -/

/-- **The stages of a journal**: its events that are about no position. -/
def stages (journal : List Timed) : List Event :=
  (journal.map Timed.event).filter fun event => event.position?.isNone

/-- The events with which batch `b` is entered. -/
def entrance (b size : Nat) : List Event :=
  (if b = 1 then [] else [.waiting b]) ++ [.pending b size, .fetching b]

/-- **The stages of checked batches**, counted from `b`. -/
def tale : (b : Nat) → List (List Allocation) → List Event
  | _, [] => []
  | b, batch :: rest => entrance b batch.length ++ .checked b :: tale (b + 1) rest

@[simp] theorem stages_append (J K : List Timed) : stages (J ++ K) = stages J ++ stages K := by
  simp [stages]

/-- Questions and answers are no stages. -/
theorem stages_eq_nil {J : List Timed} (h : ∀ timed ∈ J, timed.event.position? ≠ none) :
    stages J = [] := by
  refine List.filter_eq_nil_iff.2 fun event he => ?_
  obtain ⟨timed, ht, rfl⟩ := List.mem_map.1 he
  simpa using h timed ht

theorem mem_stages {J : List Timed} {timed : Timed} (h : timed ∈ J)
    (hmark : timed.event.position? = none) : timed.event ∈ stages J :=
  List.mem_filter.2 ⟨List.mem_map_of_mem h, by simp [hmark]⟩

theorem tale_concat (b : Nat) (done : List (List Allocation)) (batch : List Allocation) :
    tale b (done ++ [batch]) =
      tale b done ++ (entrance (b + done.length) batch.length ++ [.checked (b + done.length)]) := by
  induction done generalizing b with
  | nil => rfl
  | cons first rest ih =>
    rw [List.cons_append, tale, tale, ih, List.length_cons, Nat.add_right_comm b 1]
    simp [Nat.add_assoc]

/-- A batch is entered neither failed nor verified. -/
theorem not_final_of_mem_entrance {b size : Nat} {event : Event} (h : event ∈ entrance b size) :
    (∀ k e, event ≠ .failed k e) ∧ ∀ n m, event ≠ .verified n m := by
  unfold entrance at h
  split at h <;> simp at h <;> rcases h with rfl | rfl | rfl <;> simp

/-- Checked batches have neither failed nor been verified. -/
theorem not_final_of_mem_tale {done : List (List Allocation)} {b : Nat} {event : Event}
    (h : event ∈ tale b done) :
    (∀ k e, event ≠ .failed k e) ∧ ∀ n m, event ≠ .verified n m := by
  induction done generalizing b with
  | nil => cases h
  | cons batch rest ih =>
    rw [tale, List.mem_append, List.mem_cons] at h
    rcases h with h | rfl | h
    · exact not_final_of_mem_entrance h
    · simp
    · exact ih h

/-! ## Each event in its turn -/

/-- The first `count` entries have been looked up and agree. -/
def Passed (c : Config) (store : Option ProofStore) (entries : List Allocation) (count : Nat)
    (journal : List Timed) : Prop :=
  ∀ i entry, entries[i]? = some entry → i < count →
    Settles c store entry (answers i journal) (.ok ())

/-- **An event comes in its turn** after those before it.  A question is for an entry of the batch
being fetched, with all batches in front of that one passed, and the pause over.  The pause begins
when they have passed, and a batch is pending when the pause is over. -/
def Timed.InTurn (c : Config) (store : Option ProofStore) (entries : List Allocation)
    (before : List Timed) (timed : Timed) : Prop :=
  match timed.event with
  | .called i address =>
    (∃ entry, entries[i]? = some entry ∧ address = entry.address) ∧
    (stages before).getLast? = some (.fetching (i / c.width + 1)) ∧
    Passed c store entries (i / c.width * c.width) before ∧
    (i / c.width = 0 ∨ ∃ u, (⟨u, .waiting (i / c.width + 1)⟩ : Timed) ∈ before ∧
      u + c.batchDelay ≤ timed.instant)
  | .waiting b => Passed c store entries ((b - 1) * c.width) before
  | .pending b _ => b = 1 ∨ ∃ earlier u, before = earlier ++ [⟨u, .waiting b⟩] ∧
      timed.instant = u + c.batchDelay
  | _ => True

/-- Every event of a journal comes in its turn. -/
def InOrder (c : Config) (store : Option ProofStore) (entries : List Allocation)
    (journal : List Timed) : Prop :=
  ∀ before timed after, journal = before ++ timed :: after → timed.InTurn c store entries before

section

variable {c : Config} {store : Option ProofStore} {entries : List Allocation} {J K : List Timed}

theorem InOrder.nil : InOrder c store entries [] := by
  intro before timed after h
  simp at h

/-- **What follows comes in its turn after all that was there.** -/
theorem InOrder.append (h : InOrder c store entries J)
    (hK : ∀ before timed after, K = before ++ timed :: after →
      timed.InTurn c store entries (J ++ before)) : InOrder c store entries (J ++ K) := by
  intro before timed after heq
  rcases List.append_eq_append_iff.1 heq with ⟨gap, rfl, hgap⟩ | ⟨gap, hJ, hgap⟩
  · exact hK gap timed after hgap
  · cases gap with
    | nil =>
      rw [List.append_nil] at hJ
      have := hK [] timed after hgap.symm
      rwa [List.append_nil, hJ] at this
    | cons first rest =>
      obtain ⟨rfl, -⟩ := List.cons.inj hgap
      exact h before timed rest hJ

theorem InOrder.concat {timed : Timed} (h : InOrder c store entries J)
    (ht : timed.InTurn c store entries J) : InOrder c store entries (J ++ [timed]) := by
  refine h.append fun before other after heq => ?_
  obtain ⟨rfl, rfl, -⟩ : before = [] ∧ other = timed ∧ after = [] := by
    cases before <;> simp_all
  rwa [List.append_nil]

/-- Events about other positions leave what has passed. -/
theorem Passed.append {count : Nat} (h : Passed c store entries count J)
    (hK : ∀ timed ∈ K, ∀ i, timed.event.position? = some i → count ≤ i) :
    Passed c store entries count (J ++ K) := by
  intro i entry hi hlt
  have hother : ∀ timed ∈ K, timed.event.position? ≠ some i := fun timed ht hp =>
    absurd (hK timed ht i hp) (Nat.not_le.2 hlt)
  rw [answers_append, answers_eq_nil hother, List.append_nil]
  exact h i entry hi hlt

end

/-! ## What the checked batches tell -/

/-- **What the journal tells of the batches `done`**, all checked. -/
structure Told (service : Service σ) (c : Config) (store : Option ProofStore) (entries : List Allocation)
    (done : List (List Allocation)) (s : Progression σ) : Prop where
  sound : Sound (produced service) c store done s
  staged : stages s.journal.reverse = tale 1 done
  ordered : InOrder c store entries s.journal.reverse

/-- The batch after `done` is the one with its number. -/
theorem getElem?_of_eq_append_cons {α : Type} {list done rest : List α} {a : α}
    (h : list = done ++ a :: rest) : list[done.length]? = some a := by
  rw [h, List.getElem?_append_right (Nat.le_refl _), Nat.sub_self, List.getElem?_cons_zero]

theorem stages_opening (c : Config) (s : Progression σ) (size : Nat) :
    stages (s.opening c size).reverse = entrance (s.report.batches + 1) size := by
  unfold Progression.opening entrance
  by_cases h : s.report.batches = 0 <;> simp [stages, Event.position?, h]

namespace Told

variable {service : Service σ} {c : Config} {store : Option ProofStore} {entries : List Allocation}
  {done rest : List (List Allocation)} {s : Progression σ} {batch : List Allocation}

theorem start (instant : Nat) (state : σ) :
    Told service c store entries [] ⟨⟨0, 0⟩, instant, state, []⟩ :=
  ⟨Sound.start instant state, rfl, InOrder.nil⟩

/-- The batches checked so far have passed. -/
theorem passed (h : Told service c store entries done s)
    (hall : batches c entries = done ++ batch :: rest) :
    Passed c store entries (done.length * c.width) s.journal.reverse := by
  intro i entry hi hlt
  rw [← length_flatten_of_batches hall] at hlt
  have hflatten := flatten_batches c entries
  rw [hall, List.flatten_append] at hflatten
  rw [← hflatten, List.getElem?_append_left hlt] at hi
  exact (h.sound.judged i entry hi).settles

/-- **A batch is entered in its turn.** -/
theorem ordered_opening (h : Told service c store entries done s)
    (hall : batches c entries = done ++ batch :: rest) :
    InOrder c store entries (s.journal.reverse ++ (s.opening c batch.length).reverse) := by
  have hbatches : s.report.batches = done.length := by rw [h.sound.report]
  unfold Progression.opening
  by_cases hfirst : s.report.batches = 0
  · simp only [if_pos hfirst, List.reverse_cons, List.reverse_nil, List.nil_append,
      ← List.append_assoc]
    refine (h.ordered.concat ?_).concat trivial
    exact .inl (by rw [hfirst])
  · simp only [if_neg hfirst, List.reverse_cons, List.reverse_nil, List.nil_append,
      ← List.append_assoc]
    refine ((h.ordered.concat ?_).concat ?_).concat trivial
    · change Passed c store entries ((s.report.batches + 1 - 1) * c.width) _
      rw [Nat.add_sub_cancel, hbatches]
      exact h.passed hall
    · refine .inr ⟨_, s.instant, rfl, ?_⟩
      rw [Progression.pause, if_neg hfirst]

/-- **A question of a batch is asked in its turn.** -/
theorem inTurn_of_concerns (h : Told service c store entries done s)
    (hall : batches c entries = done ++ batch :: rest) {before : List Timed} {timed : Timed}
    (hconcerns : timed.event.Concerns done.flatten.length batch)
    (hlate : (s.pause c).instant ≤ timed.instant)
    (hbefore : ∀ t ∈ before, t.event.Concerns done.flatten.length batch) :
    timed.InTurn c store entries
      (s.journal.reverse ++ (s.opening c batch.length).reverse ++ before) := by
  obtain ⟨k, entry, hk, hposition, haddress⟩ := hconcerns
  have hbatches : s.report.batches = done.length := by rw [h.sound.report]
  have hfirst := length_flatten_of_batches hall
  have hwidth : batch.length ≤ c.width :=
    (length_of_getElem?_batches (getElem?_of_eq_append_cons hall)).2.1
  unfold Timed.InTurn
  split
  · next i address hevent =>
    rw [hevent] at hposition
    obtain rfl : i = done.length * c.width + k := by
      rw [← hfirst]
      exact Option.some.inj hposition
    have hlt := (List.getElem?_eq_some_iff.1 hk).1
    have hdiv : (done.length * c.width + k) / c.width = done.length := by
      rw [Nat.add_comm, Nat.add_mul_div_right _ _ c.width_pos, Nat.div_eq_of_lt (by omega),
        Nat.zero_add]
    have hnostage : stages before = [] := stages_eq_nil fun t ht => by
      obtain ⟨_, _, _, hp, _⟩ := hbefore t ht
      simp [hp]
    rw [hdiv]
    refine ⟨⟨entry, hfirst ▸ getElem?_of_batches hall hk, haddress _ _ hevent⟩, ?_, ?_, ?_⟩
    · rw [stages_append, stages_append, hnostage, stages_opening, hbatches, List.append_nil]
      simp [entrance]
    · refine ((h.passed hall).append fun t ht i hi => ?_).append fun t ht i hi => ?_
      · rw [(Progression.mem_opening (List.mem_reverse.1 ht)).1] at hi
        cases hi
      · obtain ⟨_, _, _, hp, _⟩ := hbefore t ht
        obtain rfl := Option.some.inj (hi.symm.trans hp)
        omega
    · rw [← hbatches]
      by_cases hzero : s.report.batches = 0
      · exact .inl hzero
      · refine .inr ⟨s.instant, ?_, ?_⟩
        · simp [Progression.opening, hzero]
        · rwa [Progression.pause, if_neg hzero] at hlate
  · next hevent =>
    rw [hevent] at hposition
    cases hposition
  · next hevent =>
    rw [hevent] at hposition
    cases hposition
  · trivial

/-- **What the journal tells when a batch is over**, one way or the other. -/
theorem tried (h : Told service c store entries done s)
    (hall : batches c entries = done ++ batch :: rest) :
    stages (s.tried service c store batch).journal.reverse =
      tale 1 done ++ entrance (done.length + 1) batch.length ∧
    InOrder c store entries (s.tried service c store batch).journal.reverse := by
  obtain ⟨-, ⟨news, hnews, hconcerns⟩, -⟩ := h.sound.tried_clock service batch
  have hjournal : (s.tried service c store batch).journal.reverse =
      s.journal.reverse ++ (s.opening c batch.length).reverse ++ news.reverse := by
    rw [hnews, List.reverse_append, List.reverse_append]
  have hnostage : stages news.reverse = [] := stages_eq_nil fun t ht => by
    obtain ⟨_, _, _, hp, _⟩ := (hconcerns t (List.mem_reverse.1 ht)).2
    simp [hp]
  rw [hjournal]
  constructor
  · rw [stages_append, stages_append, hnostage, stages_opening, h.staged, h.sound.report,
      List.append_nil]
  · refine (h.ordered_opening hall).append fun before timed after heq => ?_
    have hmem : ∀ t ∈ before ++ timed :: after, t ∈ news := fun t ht =>
      List.mem_reverse.1 (heq ▸ ht)
    exact h.inTurn_of_concerns hall (hconcerns _ (hmem timed (by simp))).2
      (hconcerns _ (hmem timed (by simp))).1
      fun t ht => (hconcerns _ (hmem t (by simp [ht]))).2

/-- **A batch that does not fail is told of like those before it.** -/
theorem advance (h : Told service c store entries done s)
    (hall : batches c entries = done ++ batch :: rest)
    (hfailure : (s.tried service c store batch).failure = none) :
    Told service c store entries (done ++ [batch])
      ((s.enter c batch).advance batch.length (s.tried service c store batch)) := by
  obtain ⟨hstages, hordered⟩ := h.tried hall
  refine ⟨h.sound.advance (keeps_produced service) hfailure, ?_, ?_⟩
  · rw [Progression.advance, List.reverse_cons, stages_append, hstages, tale_concat,
      Nat.add_comm 1, Progression.report_enter, h.sound.report, List.append_assoc]
    rfl
  · rw [Progression.advance, List.reverse_cons]
    exact hordered.concat trivial

/-- Nobody has asked on behalf of a later batch. -/
theorem lt_of_mem_tried (h : Told service c store entries done s)
    (hall : batches c entries = done ++ batch :: rest) {timed : Timed}
    (ht : timed ∈ (s.tried service c store batch).journal) {i : Nat}
    (hi : timed.event.position? = some i) : i < (done.length + 1) * c.width := by
  have hfirst := length_flatten_of_batches hall
  have hwidth := (length_of_getElem?_batches (getElem?_of_eq_append_cons hall)).2.1
  obtain ⟨added, hjournal, hadded⟩ := h.sound.tried_adds service batch
  rw [hjournal] at ht
  rw [Nat.succ_mul, ← hfirst]
  rcases List.mem_append.1 ht with ht | ht
  · exact (hadded timed ht i hi).2.trans_le (Nat.add_le_add_left hwidth _)
  · exact (h.sound.silent timed ht i hi).trans_le (Nat.le_add_right _ _)

end Told

/-! ## The chronicle of a run -/

/-- **What the journal of a run over some entries tells.** -/
structure Chronicle (service : Service σ) (c : Config) (store : Option ProofStore) (entries : List Allocation)
    (done : Run σ) : Prop where
  /-- The batches are the list, cut up, -/
  concat : (batches c entries).flatten = entries
  /-- into as many pieces as the width makes of it, -/
  count : (batches c entries).length = entries.length ⌈/⌉ c.width
  /-- none of them empty, and all but the last of full width. -/
  full : ∀ k batch, (batches c entries)[k]? = some batch → batch ≠ [] ∧ batch.length ≤ c.width ∧
    (k + 1 < (batches c entries).length → batch.length = c.width)
  /-- Time does not go back. -/
  clock : done.journal.Pairwise fun earlier later => earlier.instant ≤ later.instant
  /-- Every question, pause and batch comes in its turn. -/
  inTurn : InOrder c store entries done.journal
  /-- A pause is announced with the number of its batch and of all batches. -/
  announced : ∀ u b, (⟨u, .waiting b⟩ : Timed) ∈ done.journal →
    Log.debug (spanOf entries.length ++ "waiting " ++ durationText c.batchDelay ++
      " before batch " ++ toString b ++ "/" ++ toString (entries.length ⌈/⌉ c.width)) ∈
        done.log c entries
  /-- A run that ends well has checked all batches, one after another. -/
  verified : ∀ report, done.result = .ok report →
    report = ⟨entries.length ⌈/⌉ c.width, entries.length⟩ ∧
    stages done.journal = tale 1 (batches c entries) ++
      [.verified entries.length (entries.length ⌈/⌉ c.width)] ∧
    done.journal.getLast? =
      some ⟨done.instant, .verified entries.length (entries.length ⌈/⌉ c.width)⟩
  /-- A run that fails has checked some batches, and then one that names an entry of its own which
  did not agree.  Nobody has asked on behalf of a later one. -/
  failed : ∀ error, done.result = .error error →
    ∃ k batch, (batches c entries)[k]? = some batch ∧
      stages done.journal = tale 1 ((batches c entries).take k) ++
        (entrance (k + 1) batch.length ++ [.failed (k + 1) error]) ∧
      (∀ t i address, (⟨t, .called i address⟩ : Timed) ∈ done.journal →
        i < (k + 1) * c.width) ∧
      ∃ j entry, batch[j]? = some entry ∧ entries[k * c.width + j]? = some entry ∧
        Judged (produced service) c store entry (k * c.width + j) done.journal (.error error) ∧
        error.address = entry.address
  /-- A failed batch is the end, and its error the result. -/
  final : ∀ before t b error after, done.journal = before ++ ⟨t, .failed b error⟩ :: after →
    after = [] ∧ done.result = .error error
  /-- All is verified exactly if no batch has failed. -/
  ended : (∃ t n m, (⟨t, .verified n m⟩ : Timed) ∈ done.journal) ↔
    ∀ t b error, (⟨t, .failed b error⟩ : Timed) ∉ done.journal

/-- The announcement of a pause is in the log. -/
theorem mem_log_of_waiting {c : Config} {entries : List Allocation} {done : Run σ} {u b : Nat}
    (h : (⟨u, .waiting b⟩ : Timed) ∈ done.journal) :
    Log.debug (spanOf entries.length ++ "waiting " ++ durationText c.batchDelay ++
      " before batch " ++ toString b ++ "/" ++ toString (entries.length ⌈/⌉ c.width)) ∈
        done.log c entries := by
  rw [← length_batches]
  exact List.mem_filterMap.2 ⟨_, h, rfl⟩

section

variable {service : Service σ} {c : Config} {store : Option ProofStore} {entries : List Allocation}
  {done rest : List (List Allocation)} {s : Progression σ} {batch : List Allocation}

/-- A failed batch is not among the stages of checked ones. -/
theorem not_mem_of_stages {J : List Timed} {told : List Event} (hstages : stages J = told)
    {event : Event} (hmark : event.position? = none) (htold : event ∉ told) (t : Nat) :
    (⟨t, event⟩ : Timed) ∉ J :=
  fun hmem => htold (hstages ▸ mem_stages hmem hmark)

/-- **A run that has checked all its batches has its chronicle.** -/
theorem Told.chronicle_finish (h : Told service c store entries (batches c entries) s) :
    Chronicle service c store entries s.finish := by
  have hcount := length_batches c entries
  have hreport : s.report = ⟨entries.length ⌈/⌉ c.width, entries.length⟩ := by
    rw [h.sound.report, hcount, flatten_batches]
  have hjournal : s.finish.journal = s.journal.reverse ++
      [⟨s.instant, .verified entries.length (entries.length ⌈/⌉ c.width)⟩] := by
    rw [Progression.finish, hreport, List.reverse_cons]
  have hstages : stages s.finish.journal = tale 1 (batches c entries) ++
      [.verified entries.length (entries.length ⌈/⌉ c.width)] := by
    rw [hjournal, stages_append, h.staged]
    rfl
  have hnofail : ∀ t b error, (⟨t, .failed b error⟩ : Timed) ∉ s.finish.journal :=
    fun t b error => by
      refine not_mem_of_stages hstages (by rfl) (fun hmem => ?_) t
      rcases List.mem_append.1 hmem with hmem | hmem
      · exact (not_final_of_mem_tale hmem).1 b error rfl
      · simp at hmem
  refine ⟨flatten_batches c entries, hcount, fun _ _ => length_of_getElem?_batches, ?_, ?_,
    fun _ _ => mem_log_of_waiting, fun report hok => ?_, fun error herror => ?_,
    fun before t b error after hsplit => ?_, fun _ => hnofail, fun _ => ?_⟩
  · rw [Progression.finish, List.pairwise_reverse]
    exact List.pairwise_cons.2 ⟨h.sound.past, h.sound.ordered⟩
  · rw [hjournal]
    exact h.ordered.concat trivial
  · cases hok
    exact ⟨hreport, hstages, by rw [hjournal, List.getLast?_concat]; rfl⟩
  · cases herror
  · exact absurd (by simp [hsplit]) (hnofail t b error)
  · exact ⟨s.instant, entries.length, entries.length ⌈/⌉ c.width, by simp [hjournal]⟩

/-- An event that has not happened before the last one is the last one. -/
theorem eq_nil_of_not_mem {α : Type} {J before after : List α} {a last : α} (hnot : a ∉ J)
    (h : J ++ [last] = before ++ a :: after) : after = [] ∧ last = a := by
  rcases List.eq_nil_or_concat after with rfl | ⟨after', x, rfl⟩
  · obtain ⟨-, hlast⟩ := List.append_inj' h rfl
    exact ⟨rfl, (List.cons.inj hlast).1⟩
  · rw [List.concat_eq_append, ← List.cons_append, ← List.append_assoc] at h
    obtain ⟨rfl, -⟩ := List.append_inj' h rfl
    exact absurd (by simp) hnot

/-- **A run that has failed has its chronicle.** -/
theorem Told.chronicle_abort {error : VerificationError}
    (h : Told service c store entries done s) (hall : batches c entries = done ++ batch :: rest)
    (hfailure : (s.tried service c store batch).failure = some error) :
    Chronicle service c store entries
      ((s.enter c batch).abort error (s.tried service c store batch)) := by
  have hbatch := getElem?_of_eq_append_cons hall
  have hfirst := length_flatten_of_batches hall
  obtain ⟨-, -, hpast, hclock⟩ := h.sound.tried_clock service batch
  obtain ⟨htried, hordered⟩ := h.tried hall
  have hjournal : ((s.enter c batch).abort error (s.tried service c store batch)).journal =
      (s.tried service c store batch).journal.reverse ++
        [⟨(s.tried service c store batch).instant, .failed (done.length + 1) error⟩] := by
    rw [Progression.abort, Progression.report_enter, h.sound.report, List.reverse_cons]
  have hstages : stages ((s.enter c batch).abort error (s.tried service c store batch)).journal =
      tale 1 done ++ (entrance (done.length + 1) batch.length ++
        [.failed (done.length + 1) error]) := by
    rw [hjournal, stages_append, htried, List.append_assoc]
    rfl
  have hfinal : ∀ {event}, event ∈ tale 1 done ++ entrance (done.length + 1) batch.length →
      (∀ b e, event ≠ .failed b e) ∧ ∀ n m, event ≠ .verified n m := fun hmem =>
    (List.mem_append.1 hmem).elim not_final_of_mem_tale not_final_of_mem_entrance
  refine ⟨flatten_batches c entries, length_batches c entries,
    fun _ _ => length_of_getElem?_batches, ?_, ?_, fun _ _ => mem_log_of_waiting,
    fun report hok => ?_, fun e he => ?_, fun before t b e after hsplit => ?_, ?_, fun hno => ?_⟩
  · rw [Progression.abort, List.pairwise_reverse]
    exact List.pairwise_cons.2 ⟨hpast, hclock⟩
  · rw [hjournal]
    exact hordered.concat trivial
  · cases hok
  · cases he
    obtain ⟨j, entry, hj, hjudged⟩ := h.sound.exists_judged_tried (keeps_produced service) hfailure
    have hjudged : Judged (produced service) c store entry (done.flatten.length + j)
        ((s.enter c batch).abort error (s.tried service c store batch)).journal (.error error) :=
      hjudged.mark rfl
    rw [hfirst] at hjudged
    refine ⟨done.length, batch, hbatch, ?_, fun t i address hmem => ?_, j, entry, hj, ?_, hjudged,
      hjudged.settles.address⟩
    · rw [hstages, hall, List.take_left]
    · rw [hjournal] at hmem
      rcases List.mem_append.1 hmem with hmem | hmem
      · exact h.lt_of_mem_tried hall (List.mem_reverse.1 hmem) rfl
      · cases List.mem_singleton.1 hmem
    · rw [← hfirst]
      exact getElem?_of_batches hall hj
  · rw [hjournal] at hsplit
    have hnot : (⟨t, .failed b e⟩ : Timed) ∉ (s.tried service c store batch).journal.reverse :=
      not_mem_of_stages htried rfl (fun hmem => (hfinal hmem).1 b e rfl) t
    obtain ⟨hafter, hlast⟩ := eq_nil_of_not_mem hnot hsplit
    cases hlast
    exact ⟨hafter, rfl⟩
  · rintro ⟨t, n, m, hmem⟩
    refine absurd hmem (not_mem_of_stages hstages rfl (fun hmem => ?_) t)
    rw [← List.append_assoc] at hmem
    rcases List.mem_append.1 hmem with hmem | hmem
    · exact (hfinal hmem).2 n m rfl
    · simp at hmem
  · refine absurd ?_ (hno (s.tried service c store batch).instant (done.length + 1) error)
    simp [hjournal]

end

/-- **Every run has its chronicle**, whatever the API answers and however long it takes. -/
theorem run_chronicle (service : Service σ) (c : Config) (store : Option ProofStore)
    (instant : Nat) (state : σ) (entries : List Allocation) :
    Chronicle service c store entries (run service c store instant state entries) := by
  have hstep : ∀ done batch rest (s : Progression σ), batches c entries = done ++ batch :: rest →
      Told service c store entries done s → (s.tried service c store batch).failure = none →
      Told service c store entries (done ++ [batch])
        ((s.enter c batch).advance batch.length (s.tried service c store batch)) :=
    fun _ _ _ _ hall h hfailure => h.advance hall hfailure
  unfold run
  rcases runBatches_induction hstep (batches c entries) [] _ rfl (Told.start instant state) with
    ⟨last, hlast, hrun⟩ | ⟨before, batch, after, last, error, hall, hlast, hfailure, hrun⟩
  · rw [hrun]
    exact hlast.chronicle_finish
  · rw [hrun]
    exact hlast.chronicle_abort hall hfailure

end Airdrop.Verification
