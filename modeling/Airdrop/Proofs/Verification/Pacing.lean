import Airdrop.Proofs.Verification.Dialogue
import Airdrop.Proofs.Verification.Sequential
import Airdrop.Proofs.Verification.Width
import Mathlib.Algebra.BigOperators.Intervals
import Mathlib.Algebra.Order.Group.Finset
import Mathlib.Data.Set.Card
import Mathlib.Order.Lattice.Nat

/-!
# Proofs/Verification/Pacing — the pace of a run that ends well

All lookups of a batch begin at one instant.  The batch lasts as long as its longest lookup
(`longest`), and the next one begins after the pause.  So **the length of a run is a sum**: one
longest lookup a batch, and a pause between each two batches (`run_paced`).

The journal of a run falls into the batches: what happens to the entries of one is over before
anything happens to those of the next (`Parted`).  So **lookups in flight are always of one batch**.
-/

namespace Airdrop.Verification

variable {σ : Type}

/-! ## One batch after another -/

/-- **A journal falls into batches**: their events do not mix. -/
def Parted (c : Config) (journal : List Timed) : Prop :=
  journal.Pairwise fun earlier later => ∀ i j, earlier.event.position? = some i →
    later.event.position? = some j → i / c.width ≤ j / c.width

/-- What happens to one batch after those before keeps them apart. -/
theorem Parted.append {c : Config} {J K : List Timed} {k : Nat} (h : Parted c J)
    (hbefore : ∀ timed ∈ J, ∀ i, timed.event.position? = some i → i / c.width ≤ k)
    (hadded : ∀ timed ∈ K, ∀ i, timed.event.position? = some i → i / c.width = k) :
    Parted c (J ++ K) := by
  refine List.pairwise_append.2 ⟨h, List.pairwise_of_forall_mem_list fun a ha b hb i j hi hj => ?_,
    fun a ha b hb i j hi hj => ?_⟩
  · rw [hadded a ha i hi, hadded b hb j hj]
  · exact (hadded b hb j hj).symm ▸ hbefore a ha i hi

/-- **A lookup is in flight** between two parts of a journal: it has been begun, and is still to be
answered, be it the last question or one after a pause. -/
def InFlight (i : Nat) (before after : List Timed) : Prop :=
  asked i before ≠ [] ∧ answers i after ≠ []

/-- Who is in flight has an event before and one after. -/
theorem InFlight.exists_events {i : Nat} {before after : List Timed}
    (h : InFlight i before after) : (∃ timed ∈ before, timed.event.position? = some i) ∧
      ∃ timed ∈ after, timed.event.position? = some i := by
  constructor <;> by_contra hnone <;> push Not at hnone
  · exact h.1 (asked_eq_nil hnone)
  · exact h.2 (answers_eq_nil hnone)

/-- **Lookups in flight are of one batch.** -/
theorem Parted.exists_batch {c : Config} {before after : List Timed}
    (h : Parted c (before ++ after)) : ∃ k, ∀ i, InFlight i before after → i / c.width = k := by
  have hle : ∀ i j, InFlight i before after → InFlight j before after →
      i / c.width ≤ j / c.width := by
    intro i j hi hj
    obtain ⟨⟨earlier, hearlier, hi⟩, -⟩ := hi.exists_events
    obtain ⟨-, later, hlater, hj⟩ := hj.exists_events
    exact (List.pairwise_append.1 h).2.2 earlier hearlier later hlater i j hi hj
  by_cases hany : ∃ i, InFlight i before after
  · obtain ⟨i, hi⟩ := hany
    exact ⟨i / c.width, fun j hj => Nat.le_antisymm (hle j i hj hi) (hle i j hi hj)⟩
  · exact ⟨0, fun i hi => absurd ⟨i, hi⟩ hany⟩

/-- …so there are no more of them than a batch has room for. -/
theorem Parted.encard_le {c : Config} {before after : List Timed}
    (h : Parted c (before ++ after)) : {i | InFlight i before after}.encard ≤ c.width := by
  obtain ⟨k, hk⟩ := h.exists_batch
  have hsub : {i | InFlight i before after} ⊆ Finset.Ico (k * c.width) ((k + 1) * c.width) :=
    fun i hi => by
      rw [Finset.coe_Ico, Set.mem_Ico, ← Nat.le_div_iff_mul_le c.width_pos,
        ← Nat.div_lt_iff_lt_mul c.width_pos, hk i hi]
      exact ⟨Nat.le_refl _, Nat.lt_succ_self _⟩
  refine (Set.encard_le_encard hsub).trans ?_
  rw [Set.encard_coe_eq_coe_finsetCard, Nat.card_Ico, Nat.succ_mul, Nat.add_sub_cancel_left]

/-! ## The length of a batch -/

/-- **The places of a batch** in a list of `n` entries. -/
def placesOf (c : Config) (n k : Nat) : Finset Nat :=
  (Finset.range n).filter fun i => i / c.width = k

/-- **How long the longest lookup of a batch takes.** -/
def longest (c : Config) (n : Nat) (journal : List Timed) (k : Nat) : Nat :=
  (placesOf c n k).sup fun i => timeOf c (repliesTo i journal)

/-- When a batch begins: after the longest lookups of those before it, and the pauses. -/
def beginsAt (c : Config) (n instant : Nat) (journal : List Timed) (k : Nat) : Nat :=
  instant + ∑ j ∈ Finset.range k, (longest c n journal j + c.batchDelay)

section

variable {c : Config} {n k : Nat} {J K : List Timed}

theorem mem_placesOf {i : Nat} : i ∈ placesOf c n k ↔ i < n ∧ i / c.width = k := by
  rw [placesOf, Finset.mem_filter, Finset.mem_range]

/-- The places of a batch are those of its entries. -/
theorem mem_placesOf_iff {entries batch : List Allocation} {done rest : List (List Allocation)}
    (hall : batches c entries = done ++ batch :: rest) {i : Nat} :
    i ∈ placesOf c entries.length done.length ↔
      ∃ j entry, batch[j]? = some entry ∧ i = done.flatten.length + j := by
  have hfirst := length_flatten_of_batches hall
  have hlength : batch.length = min c.width (entries.length - done.flatten.length) := by
    have hbatch := getElem?_batches c entries done.length
    rw [getElem?_of_eq_append_cons hall, ← hfirst] at hbatch
    split at hbatch
    · rw [Option.some.inj hbatch, List.length_take, List.length_drop]
    · cases hbatch
  have hpos := c.width_pos
  rw [mem_placesOf, Nat.div_eq_iff hpos, ← hfirst]
  constructor
  · rintro ⟨hlt, hge, hle⟩
    have hj : i - done.flatten.length < batch.length := by omega
    exact ⟨_, _, List.getElem?_eq_getElem hj, by omega⟩
  · rintro ⟨j, entry, hj, rfl⟩
    have := (List.getElem?_eq_some_iff.1 hj).1
    omega

/-- A batch has a place if the list is long enough. -/
theorem nonempty_placesOf (hk : k < n ⌈/⌉ c.width) : (placesOf c n k).Nonempty := by
  refine ⟨k * c.width, mem_placesOf.2 ⟨?_, Nat.mul_div_left k c.width_pos⟩⟩
  by_contra hge
  rw [Nat.not_lt, Nat.mul_comm, ← ceilDiv_le_iff_le_mul c.width_pos] at hge
  exact absurd hk (Nat.not_lt.2 hge)

/-- **When a batch ends**: if all of its lookups are over by then, and one just then. -/
theorem add_longest_eq {begun ended : Nat}
    (hle : ∀ i ∈ placesOf c n k, begun + timeOf c (repliesTo i J) ≤ ended)
    (hattained : ∃ i ∈ placesOf c n k, begun + timeOf c (repliesTo i J) = ended) :
    begun + longest c n J k = ended := by
  obtain ⟨i, hi, heq⟩ := hattained
  rw [longest, Finset.add_sup ⟨i, hi⟩]
  refine Nat.le_antisymm (Finset.sup_le hle) (heq ▸ ?_)
  exact Finset.le_sup (f := fun i => begun + timeOf c (repliesTo i J)) hi

/-- The next batch begins after the longest lookup and the pause. -/
theorem beginsAt_succ (c : Config) (n instant : Nat) (J : List Timed) (k : Nat) :
    beginsAt c n instant J (k + 1) =
      beginsAt c n instant J k + longest c n J k + c.batchDelay := by
  rw [beginsAt, Finset.sum_range_succ, ← Nat.add_assoc, ← Nat.add_assoc, ← beginsAt]

/-- **When a batch ends, as a sum.** -/
theorem beginsAt_add_longest (c : Config) (n instant : Nat) (J : List Timed) (k : Nat) :
    beginsAt c n instant J k + longest c n J k =
      instant + ∑ j ∈ Finset.range (k + 1), longest c n J j + k * c.batchDelay := by
  rw [beginsAt, Finset.sum_add_distrib, Finset.sum_const, Finset.card_range, smul_eq_mul,
    Finset.sum_range_succ]
  omega

/-- The longest lookups depend on what was answered to the first entries only, -/
theorem longest_congr (h : ∀ i, i / c.width = k → repliesTo i K = repliesTo i J) :
    longest c n K k = longest c n J k :=
  Finset.sup_congr rfl fun i hi => by rw [h i (mem_placesOf.1 hi).2]

/-- …and so does when a batch begins. -/
theorem beginsAt_congr {instant : Nat}
    (h : ∀ i, i / c.width < k → repliesTo i K = repliesTo i J) :
    beginsAt c n instant K k = beginsAt c n instant J k := by
  refine congrArg (instant + ·) (Finset.sum_congr rfl fun j hj => congrArg (· + c.batchDelay) ?_)
  exact longest_congr fun i hi => h i (hi.symm ▸ Finset.mem_range.1 hj)

end

/-! ## What the checked batches keep -/

/-- **The batches `done` have kept the schedule.** -/
structure OnSchedule (service : Service σ) (c : Config) (store : Option ProofStore) (n instant : Nat)
    (done : List (List Allocation)) (s : Progression σ) : Prop where
  sound : Sound (produced service) c store done s
  /-- Every entry was served from the beginning of its batch on. -/
  served : ∀ i entry, done.flatten[i]? = some entry →
    Served service c i entry.address (beginsAt c n instant s.journal.reverse (i / c.width))
      s.journal.reverse (repliesTo i s.journal.reverse)
  /-- The next batch begins after the pause. -/
  now : (s.pause c).instant = beginsAt c n instant s.journal.reverse done.length
  /-- The last batch ended with its longest lookup. -/
  ended : ∀ k, done.length = k + 1 →
    s.instant = beginsAt c n instant s.journal.reverse k + longest c n s.journal.reverse k
  parted : Parted c s.journal.reverse

namespace OnSchedule

variable {service : Service σ} {c : Config} {store : Option ProofStore} {instant : Nat}
  {entries batch : List Allocation} {done rest : List (List Allocation)} {s : Progression σ}

theorem start (service : Service σ) (c : Config) (store : Option ProofStore) (n instant : Nat)
    (state : σ) : OnSchedule service c store n instant [] ⟨⟨0, 0⟩, instant, state, []⟩ :=
  ⟨.start instant state, fun _ _ h => by simp at h, rfl, fun _ h => (nomatch h),
    List.Pairwise.nil⟩

/-- **What a batch adds to the journal** when it has been checked is about its own entries. -/
theorem exists_added (h : OnSchedule service c store entries.length instant done s)
    (hall : batches c entries = done ++ batch :: rest) :
    ∃ added, ((s.enter c batch).advance batch.length
        (s.tried service c store batch)).journal.reverse = s.journal.reverse ++ added ∧
      ∀ timed ∈ added, ∀ i, timed.event.position? = some i → i / c.width = done.length := by
  obtain ⟨added, hjournal, hadded⟩ := h.sound.tried_adds service batch
  refine ⟨(⟨(s.tried service c store batch).instant,
    .checked ((s.enter c batch).report.batches + 1)⟩ :: added).reverse, ?_, fun timed ht i hi => ?_⟩
  · rw [Progression.advance, hjournal, ← List.cons_append, List.reverse_append]
  · rcases List.mem_cons.1 (List.mem_reverse.1 ht) with rfl | ht
    · cases hi
    · have hwidth := (length_of_getElem?_batches (getElem?_of_eq_append_cons hall)).2.1
      have hfirst := length_flatten_of_batches hall
      have := hadded timed ht i hi
      rw [Nat.div_eq_iff c.width_pos]
      omega

/-- A batch leaves the dialogues of the entries before it as they are, -/
theorem exchanges_of_lt (h : OnSchedule service c store entries.length instant done s)
    (hall : batches c entries = done ++ batch :: rest) {i : Nat} (hi : i / c.width < done.length) :
    exchanges i ((s.enter c batch).advance batch.length
      (s.tried service c store batch)).journal.reverse = exchanges i s.journal.reverse := by
  obtain ⟨added, hjournal, hadded⟩ := h.exists_added hall
  rw [hjournal]
  exact exchanges_append_of_other fun timed ht hp => hi.ne (hadded timed ht i hp)

/-- …and the mark at its end leaves all of them. -/
theorem exchanges_advance (s : Progression σ) (size : Nat) (ended : BatchEnd σ) (i : Nat) :
    exchanges i (s.advance size ended).journal.reverse = exchanges i ended.journal.reverse := by
  rw [Progression.advance, List.reverse_cons]
  exact exchanges_append_of_other (by simp [Event.position?])

/-- **What became of a batch that was checked**: its entries were served from its beginning on, and
it ended with its longest lookup. -/
theorem tried_served (h : OnSchedule service c store entries.length instant done s)
    (hall : batches c entries = done ++ batch :: rest)
    (hfailure : (s.tried service c store batch).failure = none) :
    (∀ j entry, batch[j]? = some entry → Served service c (done.flatten.length + j) entry.address
      (s.pause c).instant (s.tried service c store batch).journal.reverse
      (repliesTo (done.flatten.length + j) (s.tried service c store batch).journal.reverse)) ∧
    (s.pause c).instant + longest c entries.length (s.tried service c store batch).journal.reverse
      done.length = (s.tried service c store batch).instant := by
  have hbatch := (length_of_getElem?_batches (getElem?_of_eq_append_cons hall)).1
  have hontime : OnTime ⟨service, c, store, decide (narrowWidth < batch.length)⟩
      done.flatten.length (s.pause c).instant batch _ :=
    .start c rfl _ _ s.state (s.opening c batch.length ++ s.journal) hbatch
      fun i hi => exchanges_eq_nil (h.sound.silent_entered hi)
  rw [h.sound.tried_eq] at hfailure ⊢
  obtain ⟨hserved, hlast⟩ := hontime.run (h.sound.course _) (h.sound.clock batch) hfailure
  refine ⟨fun j entry hj => ?_, add_longest_eq (fun i hi => ?_) ?_⟩
  · obtain ⟨replies, hreplies, -⟩ := hserved j entry hj
    rwa [repliesTo_eq hreplies.exchanged]
  · obtain ⟨j, entry, hj, rfl⟩ := (mem_placesOf_iff hall).1 hi
    obtain ⟨replies, hreplies, hle⟩ := hserved j entry hj
    rwa [repliesTo_eq hreplies.exchanged]
  · obtain ⟨j, entry, replies, hj, hreplies, heq⟩ := hlast
    refine ⟨_, (mem_placesOf_iff hall).2 ⟨j, entry, hj, rfl⟩, ?_⟩
    rwa [repliesTo_eq hreplies.exchanged]

/-- **A batch that is checked keeps the schedule.** -/
theorem advance (h : OnSchedule service c store entries.length instant done s)
    (hall : batches c entries = done ++ batch :: rest)
    (hfailure : (s.tried service c store batch).failure = none) :
    OnSchedule service c store entries.length instant (done ++ [batch])
      ((s.enter c batch).advance batch.length (s.tried service c store batch)) := by
  have hsound := h.sound.advance (keeps_produced service) hfailure
  obtain ⟨hserved, hended⟩ := h.tried_served hall hfailure
  have hbefore := fun i (hi : i / c.width < done.length) => h.exchanges_of_lt hall hi
  have hmarked := exchanges_advance (s.enter c batch) batch.length (s.tried service c store batch)
  have hpos := c.width_pos
  have hfirst := length_flatten_of_batches hall
  have hwidth := (length_of_getElem?_batches (getElem?_of_eq_append_cons hall)).2.1
  generalize hnext : (s.enter c batch).advance batch.length (s.tried service c store batch) = next
    at hsound hbefore hmarked ⊢
  have hnow : next.instant = (s.tried service c store batch).instant := by rw [← hnext]; rfl
  have hreplies : ∀ i, repliesTo i next.journal.reverse =
      repliesTo i (s.tried service c store batch).journal.reverse := fun i =>
    repliesTo_congr (hmarked i)
  have hkept : ∀ i, i / c.width < done.length →
      repliesTo i next.journal.reverse = repliesTo i s.journal.reverse := fun i hi =>
    repliesTo_congr (hbefore i hi)
  have hbegins : ∀ k ≤ done.length, beginsAt c entries.length instant next.journal.reverse k =
      beginsAt c entries.length instant s.journal.reverse k := fun k hk =>
    beginsAt_congr fun i hi => hkept i (hi.trans_le hk)
  have hlast : next.instant = beginsAt c entries.length instant next.journal.reverse done.length +
      longest c entries.length next.journal.reverse done.length := by
    rw [hnow, ← hended, hbegins _ le_rfl, h.now, longest_congr fun i _ => hreplies i]
  refine ⟨hsound, fun i entry hi => ?_, ?_, fun k hk => ?_, ?_⟩
  · rw [List.flatten_append, List.flatten_singleton] at hi
    rcases Nat.lt_or_ge i done.flatten.length with hlt | hge
    · rw [List.getElem?_append_left hlt] at hi
      have hk : i / c.width < done.length := (Nat.div_lt_iff_lt_mul hpos).2 (hfirst ▸ hlt)
      rw [hbegins _ hk.le, hkept i hk]
      exact (h.served i entry hi).congr (hbefore i hk)
    · rw [List.getElem?_append_right hge] at hi
      have hlt := (List.getElem?_eq_some_iff.1 hi).1
      have hplace : done.flatten.length + (i - done.flatten.length) = i := by omega
      have hk : i / c.width = done.length := (Nat.div_eq_iff hpos).2 (by omega)
      have hentry := hserved _ entry hi
      rw [hplace] at hentry
      rw [hk, hbegins _ le_rfl, hreplies, ← h.now]
      exact hentry.congr (hmarked i)
  · have hbatches : next.report.batches = done.length + 1 := by
      rw [hsound.report, List.length_append, List.length_singleton]
    rw [Progression.pause, if_neg (by omega), List.length_append, List.length_singleton,
      beginsAt_succ, ← hlast]
  · rw [List.length_append, List.length_singleton, Nat.succ.injEq] at hk
    rw [← hk]
    exact hlast
  · obtain ⟨added, hjournal, hadded⟩ := h.exists_added hall
    rw [← hnext, hjournal]
    refine h.parted.append (fun timed ht i hi => ?_) hadded
    have hlt := h.sound.silent timed (List.mem_reverse.1 ht) i hi
    rw [hfirst, ← Nat.div_lt_iff_lt_mul hpos] at hlt
    exact hlt.le

end OnSchedule

/-! ## The pace of a run -/

/-- **A run keeps the pace**, its batches begun at some instants. -/
structure Paced (service : Service σ) (c : Config) (instant : Nat) (entries : List Allocation)
    (done : Run σ) (begun : Nat → Nat) : Prop where
  /-- **All lookups of a batch begin at one instant**: the questions for an entry and their answers
  are a dialogue with the API from then on. -/
  served : ∀ i entry, entries[i]? = some entry → Served service c i entry.address
    (begun (i / c.width)) done.journal (repliesTo i done.journal)
  /-- **A check settles** with the last answer, when the time of its dialogue is over. -/
  settled : ∀ i entry, entries[i]? = some entry → ∃ outcome,
    (exchanges i done.journal).getLast? =
      some ⟨begun (i / c.width) + timeOf c (repliesTo i done.journal), .answered i outcome⟩
  /-- The first batch begins at once. -/
  first : begun 0 = instant
  /-- **The next batch begins a pause after the last check of this one has settled.** -/
  next : ∀ k, k + 1 < (batches c entries).length → begun (k + 1) =
    ((placesOf c entries.length k).sup fun i =>
      begun (i / c.width) + timeOf c (repliesTo i done.journal)) + c.batchDelay
  /-- **The length of the run**: a longest lookup a batch, and a pause between each two batches. -/
  elapsed : done.instant = instant +
    ∑ k ∈ Finset.range (batches c entries).length, longest c entries.length done.journal k +
    ((batches c entries).length - 1) * c.batchDelay
  /-- Nothing is asked for an empty list. -/
  idle : entries = [] → done.instant = instant ∧ calls done.journal = []
  /-- The journal is in the order of time. -/
  ordered : done.journal.Pairwise fun earlier later => earlier.instant ≤ later.instant
  /-- **Lookups in flight are of one batch**, and no more than it has room for. -/
  together : ∀ before after, done.journal = before ++ after →
    (∃ k, ∀ i, InFlight i before after → i / c.width = k) ∧
      {i | InFlight i before after}.encard ≤ c.width

/-- Marks ask nothing. -/
theorem calls_eq_nil {J : List Timed} (h : ∀ timed ∈ J, timed.event.position? = none) :
    calls J = [] := by
  refine List.filterMap_eq_nil_iff.2 fun timed ht => ?_
  have hnone := h timed ht
  split
  · next hcalled => rw [hcalled] at hnone; cases hnone
  · rfl

namespace OnSchedule

variable {service : Service σ} {c : Config} {store : Option ProofStore} {instant : Nat}
  {entries : List Allocation} {s : Progression σ}

/-- Before the first batch no time has passed. -/
theorem instant_eq {n : Nat} (h : OnSchedule service c store n instant [] s) :
    s.instant = instant := by
  have hnow := h.now
  rwa [Progression.pause, if_pos (by rw [h.sound.report]; rfl)] at hnow

/-- **How long some batches take.** -/
theorem elapsed {n : Nat} {done : List (List Allocation)}
    (h : OnSchedule service c store n instant done s) : s.instant = instant +
      ∑ k ∈ Finset.range done.length, longest c n s.journal.reverse k +
      (done.length - 1) * c.batchDelay := by
  rcases List.eq_nil_or_concat done with rfl | ⟨before, batch, rfl⟩
  · simp [h.instant_eq]
  · have hlength : (before.concat batch).length = before.length + 1 := by simp
    rw [h.ended _ hlength, beginsAt_add_longest, hlength, Nat.add_sub_cancel]

/-- **A finished run has kept the pace.** -/
theorem finish (h : OnSchedule service c store entries.length instant (batches c entries) s) :
    Paced service c instant entries s.finish
      (beginsAt c entries.length instant s.journal.reverse) := by
  obtain ⟨mark, hjournal, hmark, hnow⟩ : ∃ mark, s.finish.journal = s.journal.reverse ++ [mark] ∧
      mark.event.position? = none ∧ mark.instant = s.instant := ⟨_, List.reverse_cons, rfl, rfl⟩
  have hexchanges : ∀ i, exchanges i s.finish.journal = exchanges i s.journal.reverse := fun i => by
    rw [hjournal]
    exact exchanges_append_of_other (by simp [hmark])
  have hreplies : ∀ i, repliesTo i s.finish.journal = repliesTo i s.journal.reverse := fun i =>
    repliesTo_congr (hexchanges i)
  have hlongest : longest c entries.length s.finish.journal =
      longest c entries.length s.journal.reverse :=
    funext fun _ => longest_congr fun i _ => hreplies i
  have hserved : ∀ i entry, entries[i]? = some entry → Served service c i entry.address
      (beginsAt c entries.length instant s.journal.reverse (i / c.width)) s.finish.journal
      (repliesTo i s.finish.journal) := fun i entry hi => by
    rw [hreplies]
    exact (h.served i entry (by rwa [flatten_batches])).congr (hexchanges i)
  refine ⟨hserved, fun i entry hi => (hserved i entry hi).getLast?_exchanges, rfl, fun k hk => ?_,
    ?_, fun hempty => ?_, ?_, fun before after hsplit => ?_⟩
  · have hplaces : (placesOf c entries.length k).Nonempty :=
      nonempty_placesOf (length_batches c entries ▸ Nat.lt_of_succ_lt hk)
    rw [beginsAt_succ, longest, Finset.add_sup hplaces]
    refine congrArg (· + c.batchDelay) (Finset.sup_congr rfl fun i hi => ?_)
    rw [(mem_placesOf.1 hi).2, hreplies]
  · rw [hlongest]
    exact h.elapsed
  · subst hempty
    have hnone : batches c [] = [] := by rw [← List.length_eq_zero_iff, length_batches]; simp
    refine ⟨OnSchedule.instant_eq (by rwa [hnone] at h), calls_eq_nil fun timed ht => ?_⟩
    rw [hjournal] at ht
    rcases List.mem_append.1 ht with ht | ht
    · by_contra hsome
      obtain ⟨i, hi⟩ := Option.ne_none_iff_exists'.1 hsome
      have hlt := h.sound.silent timed (List.mem_reverse.1 ht) i hi
      rw [hnone] at hlt
      exact Nat.not_lt_zero i hlt
    · rw [List.mem_singleton.1 ht, hmark]
  · rw [hjournal, List.pairwise_append]
    refine ⟨List.pairwise_reverse.2 h.sound.ordered, List.pairwise_singleton ..,
      fun earlier he later hl => ?_⟩
    rw [List.mem_singleton.1 hl, hnow]
    exact h.sound.past earlier (List.mem_reverse.1 he)
  · have hparted : Parted c s.finish.journal := by
      rw [hjournal, Parted, List.pairwise_append]
      refine ⟨h.parted, List.pairwise_singleton .., fun earlier _ later hl i j _ hj => ?_⟩
      rw [List.mem_singleton.1 hl, hmark] at hj
      cases hj
    rw [hsplit] at hparted
    exact ⟨hparted.exists_batch, hparted.encard_le⟩

end OnSchedule

/-- **The pace of a run that ends well.**  Whatever the API answers and however long it takes: all
lookups of a batch begin at one instant, the next batch begins a pause after the last check of this
one has settled, and the run takes as long as the longest lookups and the pauses between the
batches.  Lookups in flight are always of one batch, and at most a batch's width of questions is
ever open. -/
theorem run_paced (service : Service σ) (c : Config) (store : Option ProofStore) (instant : Nat)
    (state : σ) (entries : List Allocation) {report : Report}
    (hok : (run service c store instant state entries).result = .ok report) :
    report = ⟨entries.length ⌈/⌉ max c.batchSize 1, entries.length⟩ ∧
    (∃ begun, Paced service c instant entries (run service c store instant state entries) begun) ∧
    peak (run service c store instant state entries).journal ≤ max c.batchSize 1 := by
  obtain ⟨hreport, -⟩ := judged_of_ok (keeps_produced service) hok
  refine ⟨?_, ?_, peak_run_le service c store instant state entries⟩
  · rw [hreport, length_batches, Config.width]
  · rcases runBatches_induction (fun _ _ _ _ hall hs => OnSchedule.advance hs hall)
      (batches c entries) [] _ rfl (OnSchedule.start service c store entries.length instant state)
      with ⟨last, hlast, hrun⟩ | ⟨_, _, _, _, _, _, _, _, hrun⟩
    · rw [run, hrun]
      exact ⟨_, hlast.finish⟩
    · rw [run, hrun] at hok
      cases hok

/-- An API that refuses the first question for an entry and answers the second one. -/
def hesitant : Service Unit :=
  answering (fun _ _ attempt => if attempt = 1 then .error .rateLimited else .ok ⟨default, 5, []⟩)
    fun _ call => (7 - call.position, ())

/-- Three entries in two batches, each of them asked for twice. -/
theorem run_paced_of_three :
    ∃ report, (run hesitant ⟨2, 10, 2, 3⟩ none 0 () (.replicate 3 ⟨default, 5⟩)).result =
        .ok report ∧ report = ⟨2, 3⟩ ∧
      ∃ begun, Paced hesitant ⟨2, 10, 2, 3⟩ 0 (.replicate 3 ⟨default, 5⟩)
        (run hesitant ⟨2, 10, 2, 3⟩ none 0 () (.replicate 3 ⟨default, 5⟩)) begun := by
  obtain ⟨report, hok⟩ : ∃ report, (run hesitant ⟨2, 10, 2, 3⟩ none 0 ()
      (.replicate 3 ⟨default, 5⟩)).result = .ok report :=
    (exists_report_iff _ _ _ _ _ _ _).2 fun i entry hi => ⟨⟨default, 5, []⟩, rfl, by
      rw [List.eq_of_mem_replicate (List.mem_of_getElem? hi)]
      rfl⟩
  obtain ⟨hreport, hpaced, -⟩ :=
    run_paced hesitant ⟨2, 10, 2, 3⟩ none 0 () (.replicate 3 ⟨default, 5⟩) hok
  exact ⟨report, hok, hreport, hpaced⟩

end Airdrop.Verification
