import Airdrop.Proofs.Verification.Course
import Mathlib.Order.Nat

/-!
# Proofs/Verification/Clock — a batch on the clock

The flight that moves is the one that is due first, so **the instants of a journal never go back**
(`OnClock.ordered`).  And a batch leaves everything else alone: what it adds to the journal is about
its own entries (`OnClock.news`), at or after the instant at which it began.
-/

namespace Airdrop.Verification

variable {σ : Type}

/-- The flights stay in the order in which they are due. -/
theorem Flight.pairwise_insert (f : Flight) {flights : List Flight}
    (h : flights.Pairwise fun a b => a.due ≤ b.due) :
    (f.insert flights).Pairwise fun a b => a.due ≤ b.due := by
  induction flights with
  | nil => exact List.pairwise_singleton _ _
  | cons g rest ih =>
    obtain ⟨hg, hrest⟩ := List.pairwise_cons.1 h
    unfold Flight.insert
    split
    · next hbefore =>
      have hle : f.due ≤ g.due := by
        simp only [Flight.before, Bool.or_eq_true, decide_eq_true_eq, Bool.and_eq_true,
          beq_iff_eq] at hbefore
        omega
      refine List.pairwise_cons.2 ⟨fun a ha => ?_, h⟩
      rcases List.mem_cons.1 ha with rfl | ha
      · exact hle
      · exact hle.trans (hg a ha)
    · next hbefore =>
      have hle : g.due ≤ f.due := by
        simp only [Flight.before, Bool.or_eq_true, decide_eq_true_eq, Bool.and_eq_true,
          beq_iff_eq] at hbefore
        omega
      refine List.pairwise_cons.2 ⟨fun a ha => ?_, ih hrest⟩
      rcases Flight.mem_insert.1 ha with rfl | ha
      · exact hle
      · exact hg a ha

/-- **An event about an entry of a batch** whose first entry stands at `first`; a question is for
that entry's address. -/
def Event.Concerns (first : Nat) (batch : List Allocation) (event : Event) : Prop :=
  ∃ k entry, batch[k]? = some entry ∧ event.position? = some (first + k) ∧
    ∀ p address, event = .called p address → address = entry.address

/-- **A batch on the clock**, begun at `since` with the journal `journal₀` behind it. -/
structure OnClock (first since : Nat) (batch : List Allocation) (journal₀ : List Timed)
    (b : Batch σ) : Prop where
  /-- A flight is that of an entry. -/
  flying : ∀ f ∈ b.flights, ∃ k, f.position = first + k ∧ batch[k]? = some f.entry
  /-- The flights are in the order in which they are due. -/
  sorted : b.flights.Pairwise fun f g => f.due ≤ g.due
  /-- None is due before now. -/
  due : ∀ f ∈ b.flights, b.instant ≤ f.due
  begun : since ≤ b.instant
  /-- What the batch adds to the journal is about its entries, and happens from its beginning on. -/
  news : ∃ news, b.journal = news ++ journal₀ ∧
    ∀ timed ∈ news, since ≤ timed.instant ∧ timed.event.Concerns first batch
  /-- Nothing in the journal happens after now. -/
  past : ∀ timed ∈ b.journal, timed.instant ≤ b.instant
  /-- The journal, last event first, goes back in time. -/
  ordered : b.journal.Pairwise fun later earlier => earlier.instant ≤ later.instant

namespace OnClock

variable {p : Plan σ} {first since : Nat} {batch : List Allocation} {journal₀ added : List Timed}
  {b b' : Batch σ} {f : Flight} {rest : List Flight}

/-- **What a move does on the clock**: it adds events of its own instant, and the flight is over or
is due no earlier. -/
theorem step (h : OnClock first since batch journal₀ b) (hb : b.flights = f :: rest)
    (hinstant : b'.instant = f.due) (hjournal : b'.journal = added ++ b.journal)
    (hadded : ∀ timed ∈ added, timed.instant = f.due ∧ timed.event.Concerns first batch)
    (hflights : b'.flights = rest ∨ ∃ moved : Flight, b'.flights = moved.insert rest ∧
      f.due ≤ moved.due ∧ moved.position = f.position ∧ moved.entry = f.entry) :
    OnClock first since batch journal₀ b' := by
  have hfirst : ∀ g ∈ rest, f.due ≤ g.due := by
    have := h.sorted
    rw [hb, List.pairwise_cons] at this
    exact this.1
  have hrest : rest.Pairwise fun f g => f.due ≤ g.due := by
    have := h.sorted
    rw [hb, List.pairwise_cons] at this
    exact this.2
  have hnow : b.instant ≤ f.due := h.due f (by simp [hb])
  have hbegun : since ≤ f.due := h.begun.trans hnow
  have hmem : ∀ g ∈ b'.flights, f.due ≤ g.due ∧ ∃ k, g.position = first + k ∧
      batch[k]? = some g.entry := by
    intro g hg
    rcases hflights with hflights | ⟨moved, hflights, hdue, hposition, hentry⟩ <;>
      rw [hflights] at hg
    · exact ⟨hfirst g hg, h.flying g (hb ▸ List.mem_cons_of_mem _ hg)⟩
    · rcases Flight.mem_insert.1 hg with rfl | hg
      · exact ⟨hdue, by rw [hposition, hentry]; exact h.flying f (by simp [hb])⟩
      · exact ⟨hfirst g hg, h.flying g (hb ▸ List.mem_cons_of_mem _ hg)⟩
  refine ⟨fun g hg => (hmem g hg).2, ?_, fun g hg => ?_, ?_, ?_, ?_, ?_⟩
  · rcases hflights with hflights | ⟨moved, hflights, -⟩ <;> rw [hflights]
    · exact hrest
    · exact moved.pairwise_insert hrest
  · rw [hinstant]
    exact (hmem g hg).1
  · rw [hinstant]
    exact hbegun
  · obtain ⟨news, hnews, hall⟩ := h.news
    refine ⟨added ++ news, by rw [hjournal, hnews, List.append_assoc], fun timed ht => ?_⟩
    rcases List.mem_append.1 ht with ht | ht
    · exact ⟨(hadded timed ht).1 ▸ hbegun, (hadded timed ht).2⟩
    · exact hall timed ht
  · rw [hjournal, hinstant]
    intro timed ht
    rcases List.mem_append.1 ht with ht | ht
    · exact (hadded timed ht).1.le
    · exact (h.past timed ht).trans hnow
  · rw [hjournal, List.pairwise_append]
    refine ⟨?_, h.ordered, fun later hl earlier he => ?_⟩
    · exact List.pairwise_of_forall_mem_list fun a ha c hc =>
        ((hadded c hc).1.trans (hadded a ha).1.symm).le
    · rw [(hadded later hl).1]
      exact (h.past earlier he).trans hnow

/-- **Every move stays on the clock.** -/
theorem move (h : OnClock first since batch journal₀ b) (hb : b.flights = f :: rest) :
    OnClock first since batch journal₀ (b.move p f rest) := by
  obtain ⟨k, hposition, hk⟩ := h.flying f (by simp [hb])
  unfold Batch.move
  split
  · refine h.step hb rfl (List.singleton_append).symm ?_
      (.inr ⟨_, rfl, Nat.le_add_right _ _, rfl, rfl⟩)
    rintro timed ht
    rw [List.mem_singleton.1 ht]
    exact ⟨rfl, k, f.entry, hk, congrArg some hposition, fun _ _ he => by cases he; rfl⟩
  · split
    · refine h.step hb rfl (show _ = [_, _] ++ b.journal from rfl) ?_
        (.inr ⟨_, rfl, Nat.le_add_right _ _, rfl, rfl⟩)
      intro timed ht
      rcases List.mem_pair.1 ht with rfl | rfl <;>
        exact ⟨rfl, k, f.entry, hk, congrArg some hposition, fun _ _ he => nomatch he⟩
    · refine h.step hb rfl (List.singleton_append).symm ?_ (.inl rfl)
      rintro timed ht
      rw [List.mem_singleton.1 ht]
      exact ⟨rfl, k, f.entry, hk, congrArg some hposition, fun _ _ he => nomatch he⟩

/-- A batch begins on the clock if the journal behind it is in order. -/
theorem start (c : Config) (first instant : Nat) (state : σ) (batch : List Allocation)
    (hpast : ∀ timed ∈ journal₀, timed.instant ≤ instant)
    (hordered : journal₀.Pairwise fun later earlier => earlier.instant ≤ later.instant) :
    OnClock first instant batch journal₀ (Batch.start c first instant state journal₀ batch) := by
  have hdue : ∀ f ∈ (Batch.start c first instant state journal₀ batch).flights,
      f.due = instant := by
    intro f hf
    obtain ⟨k, entry, -, rfl⟩ := mem_flightsOf.1 hf
    rfl
  refine ⟨fun f hf => ?_, ?_, fun f hf => (hdue f hf).ge, Nat.le_refl _, ⟨[], rfl, by simp⟩, hpast,
    hordered⟩
  · obtain ⟨k, entry, hk, rfl⟩ := mem_flightsOf.1 hf
    exact ⟨k, rfl, hk⟩
  · exact List.pairwise_of_forall_mem_list fun f hf g hg => ((hdue f hf).trans (hdue g hg).symm).le

/-- **The end of a batch is on the clock.** -/
theorem run (h : OnClock first since batch journal₀ b) :
    since ≤ (b.run p).instant ∧
    (∃ news, (b.run p).journal = news ++ journal₀ ∧
      ∀ timed ∈ news, since ≤ timed.instant ∧ timed.event.Concerns first batch) ∧
    (∀ timed ∈ (b.run p).journal, timed.instant ≤ (b.run p).instant) ∧
    (b.run p).journal.Pairwise fun later earlier => earlier.instant ≤ later.instant := by
  obtain ⟨last, hlast, hrun, -⟩ := b.run_invariant (fun _ _ _ hb h => h.move hb) h
  rw [hrun]
  exact ⟨hlast.begun, hlast.news, hlast.past, hlast.ordered⟩

end OnClock

end Airdrop.Verification
