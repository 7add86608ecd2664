import Airdrop.Proofs.Verification.Clock

/-!
# Proofs/Verification/Forecast — what a check comes to by itself

An API whose answers depend on nothing but the question does not let lookups disturb each other.  So
**a check is known before it is made**: when it settles, and with which verdict (`foretold`).

A flight foretells its check (`Flight.check`).  A move leaves that as it is, unless the flight
lands: then its check has settled as foretold (`Batch.outstanding_move`).  And since the flight that
moves is due first, no outstanding check settles before it (`Lined.due_le_settled`).
-/

namespace Airdrop.Verification

/-! ## Checks -/

/-- **The check of an entry**: when it settles, and how. -/
structure Check where
  /-- Where the entry stands in the list. -/
  position : Nat
  settled : Nat
  verdict : Except VerificationError Unit

/-- A check of an entry that does not agree, or of which nothing is heard. -/
def Check.Fails (check : Check) : Prop := ∃ error, check.verdict = .error error

section

variable (reply : Call → Reply) (c : Config) (store : Option ProofStore)

/-- **What a check comes to by itself**, with a question at an instant and `left` more after it. -/
def foretold (position : Nat) (entry : Allocation) (left instant : Nat) : Check :=
  let lookup := lookupFrom (Service.fixed reply) c position entry.address left instant ()
  ⟨position, lookup.instant, Batch.checkResult store entry lookup.result⟩

/-- **The checks of some entries**, begun at an instant; the first entry stands at `first`. -/
def checksOf (begun : Nat) : (first : Nat) → List Allocation → List Check
  | _, [] => []
  | first, entry :: rest =>
    foretold reply c store first entry (c.attempts - 1) begun :: checksOf begun (first + 1) rest

/-- The check that a flight foretells. -/
def Flight.check (f : Flight) : Check :=
  match f.phase with
  | .ask left => foretold reply c store f.position f.entry left f.due
  | .hear left outcome =>
    match verdict c f.entry.address left outcome with
    | .done result => ⟨f.position, f.due, Batch.checkResult store f.entry result⟩
    | .again more _ => foretold reply c store f.position f.entry more (f.due + c.retryDelay)

end

section

variable {reply : Call → Reply} {c : Config} {store : Option ProofStore}

/-- **An answer settles a check, or it is as after the pause.** -/
theorem foretold_eq (position : Nat) (entry : Allocation) (left instant : Nat) :
    foretold reply c store position entry left instant =
      let answer := reply ⟨position, entry.address, c.made left, instant⟩
      match verdict c entry.address left answer.outcome with
      | .done result =>
        ⟨position, instant + answer.delay, Batch.checkResult store entry result⟩
      | .again more _ =>
        foretold reply c store position entry more (instant + answer.delay + c.retryDelay) := by
  unfold foretold
  rw [lookupFrom]
  dsimp only [Service.fixed]
  split <;> simp_all

/-- A check settles no earlier than it is begun. -/
theorem le_settled_foretold (position : Nat) (entry : Allocation) (left instant : Nat) :
    instant ≤ (foretold reply c store position entry left instant).settled := by
  induction left using Nat.strongRecOn generalizing instant with
  | _ left ih =>
    rw [foretold_eq]
    dsimp only
    split
    · exact Nat.le_add_right _ _
    · next more fault hv =>
      have hle := ih more (lt_of_verdict_again hv) (instant +
        (reply ⟨position, entry.address, c.made left, instant⟩).delay + c.retryDelay)
      omega

theorem Flight.position_check (f : Flight) : (f.check reply c store).position = f.position := by
  unfold Flight.check
  split
  · rfl
  · split <;> rfl

theorem Flight.due_le_settled (f : Flight) : f.due ≤ (f.check reply c store).settled := by
  unfold Flight.check
  split
  · exact le_settled_foretold _ _ _ _
  · split
    · exact Nat.le_refl _
    · exact (Nat.le_add_right _ _).trans (le_settled_foretold _ _ _ _)

/-- At the beginning the flights foretell the checks. -/
theorem map_check_flightsOf (begun first : Nat) (batch : List Allocation) :
    (Batch.flightsOf c begun first batch).map (Flight.check reply c store) =
      checksOf reply c store begun first batch := by
  induction batch generalizing first with
  | nil => rfl
  | cons entry rest ih =>
    rw [Batch.flightsOf, List.map_cons, ih, checksOf]
    rfl

/-- **The checks of a batch** are those of its entries. -/
theorem mem_checksOf {begun first : Nat} {batch : List Allocation} {check : Check} :
    check ∈ checksOf reply c store begun first batch ↔ ∃ k entry, batch[k]? = some entry ∧
      check = foretold reply c store (first + k) entry (c.attempts - 1) begun := by
  rw [← map_check_flightsOf, List.mem_map]
  constructor
  · rintro ⟨f, hf, rfl⟩
    obtain ⟨k, entry, hk, rfl⟩ := mem_flightsOf.1 hf
    exact ⟨k, entry, hk, rfl⟩
  · rintro ⟨k, entry, hk, rfl⟩
    exact ⟨_, mem_flightsOf.2 ⟨k, entry, hk, rfl⟩, rfl⟩

end

/-! ## Moves -/

section

variable {reply : Call → Reply} {c : Config} {store : Option ProofStore} {wide : Bool}

/-- The plan of a batch whose API answers nothing but the question. -/
abbrev Plan.fixed (reply : Call → Reply) (c : Config) (store : Option ProofStore) (wide : Bool) :
    Plan Unit := ⟨Service.fixed reply, c, store, wide⟩

/-- **What a move can do.**  The flight is still on its way and foretells the same; or it lands, its
check has settled as foretold, and fails the batch if it fails. -/
theorem Batch.move_cases (b : Batch Unit) (f : Flight) (rest : List Flight) :
    (b.move (.fixed reply c store wide) f rest).instant = f.due ∧
    ((∃ moved : Flight,
      (b.move (.fixed reply c store wide) f rest).flights = moved.insert rest ∧
      f.due ≤ moved.due ∧ moved.position = f.position ∧
      moved.check reply c store = f.check reply c store ∧
      (b.move (.fixed reply c store wide) f rest).failing = b.failing) ∨
    (b.move (.fixed reply c store wide) f rest).flights = rest ∧
      (f.check reply c store).settled = f.due ∧
      ((f.check reply c store).verdict = .ok () ∧
          (b.move (.fixed reply c store wide) f rest).failing = b.failing ∨
        ∃ e, (f.check reply c store).verdict = .error e ∧
          (b.move (.fixed reply c store wide) f rest).failing =
            some (Failing.earlier ⟨f.position, e⟩ b.failing))) := by
  unfold Batch.move
  split
  · next left hphase =>
    refine ⟨rfl, .inl ⟨_, rfl, Nat.le_add_right _ _, rfl, ?_, rfl⟩⟩
    have hcheck : f.check reply c store = foretold reply c store f.position f.entry left f.due := by
      simp only [Flight.check, hphase]
    rw [hcheck, foretold_eq]
    rfl
  · next left outcome hphase =>
    split
    · next more fault hv =>
      refine ⟨rfl, .inl ⟨_, rfl, Nat.le_add_right _ _, rfl, ?_, rfl⟩⟩
      simp only [Flight.check, hphase, hv]
    · next result hv =>
      have hcheck : f.check reply c store =
          ⟨f.position, f.due, Batch.checkResult store f.entry result⟩ := by
        simp only [Flight.check, hphase, hv]
      refine ⟨rfl, .inr ⟨rfl, by rw [hcheck], ?_⟩⟩
      rw [hcheck]
      simp only [Batch.land]
      split
      · next hok => exact .inl ⟨hok, rfl⟩
      · next e he => exact .inr ⟨e, he, rfl⟩

/-- The checks that have not settled yet. -/
def Batch.outstanding (reply : Call → Reply) (c : Config) (store : Option ProofStore)
    (b : Batch Unit) : List Check := b.flights.map (Flight.check reply c store)

/-- **What a move does to the outstanding checks**: nothing, or it settles that of the flight, which
agrees or fails the batch. -/
theorem Batch.outstanding_move {b : Batch Unit} {f : Flight} {rest : List Flight}
    (hb : b.flights = f :: rest) :
    ((b.move (.fixed reply c store wide) f rest).failing = b.failing ∧ ∀ check,
      check ∈ (b.move (.fixed reply c store wide) f rest).outstanding reply c store ↔
        check ∈ b.outstanding reply c store) ∨
    b.outstanding reply c store = f.check reply c store ::
        (b.move (.fixed reply c store wide) f rest).outstanding reply c store ∧
      (f.check reply c store).settled = f.due ∧
      ((f.check reply c store).verdict = .ok () ∧
          (b.move (.fixed reply c store wide) f rest).failing = b.failing ∨
        ∃ e, (f.check reply c store).verdict = .error e ∧
          (b.move (.fixed reply c store wide) f rest).failing =
            some (Failing.earlier ⟨f.position, e⟩ b.failing)) := by
  rcases (b.move_cases f rest).2 with ⟨moved, hflights, -, -, hcheck, hfailing⟩ |
    ⟨hflights, hsettled, hfailing⟩
  · refine .inl ⟨hfailing, fun check => ?_⟩
    rw [outstanding, outstanding, hflights, hb, ((moved.perm_insert rest).map _).mem_iff,
      List.map_cons, List.map_cons, hcheck]
  · exact .inr ⟨by rw [outstanding, outstanding, hflights, hb, List.map_cons], hsettled, hfailing⟩

/-- So a check is outstanding as before, or has settled now. -/
theorem Batch.settled_of_move {b : Batch Unit} {f : Flight} {rest : List Flight}
    (hb : b.flights = f :: rest) :
    (∀ check ∈ (b.move (.fixed reply c store wide) f rest).outstanding reply c store,
      check ∈ b.outstanding reply c store) ∧
    ∀ check ∈ b.outstanding reply c store,
      check ∈ (b.move (.fixed reply c store wide) f rest).outstanding reply c store ∨
        check.settled = f.due := by
  rcases @outstanding_move reply c store wide b f rest hb with ⟨-, hmem⟩ | ⟨hcons, hsettled, -⟩
  · exact ⟨fun check => (hmem check).1, fun check hcheck => .inl ((hmem check).2 hcheck)⟩
  · rw [hcons]
    refine ⟨fun check => List.mem_cons_of_mem _, fun check hcheck => ?_⟩
    rcases List.mem_cons.1 hcheck with rfl | hcheck
    · exact .inr hsettled
    · exact .inl hcheck

/-! ## The order of flights -/

/-- Which of two flights moves before the other. -/
theorem Flight.before_iff {f g : Flight} :
    f.before g = true ↔ f.due < g.due ∨ f.due = g.due ∧ f.position ≤ g.position := by
  simp [Flight.before]

/-- A flight that is put in moves in its turn. -/
theorem Flight.pairwise_before_insert (f : Flight) {flights : List Flight}
    (h : flights.Pairwise fun f g => f.before g = true) :
    (f.insert flights).Pairwise fun f g => f.before g = true := by
  induction flights with
  | nil => exact List.pairwise_singleton _ _
  | cons g rest ih =>
    obtain ⟨hg, hrest⟩ := List.pairwise_cons.1 h
    unfold Flight.insert
    split
    · next hbefore =>
      refine List.pairwise_cons.2 ⟨fun a ha => ?_, h⟩
      rcases List.mem_cons.1 ha with rfl | ha
      · exact hbefore
      · have := hg a ha
        rw [Flight.before_iff] at *
        omega
    · next hbefore =>
      refine List.pairwise_cons.2 ⟨fun a ha => ?_, ih hrest⟩
      rcases Flight.mem_insert.1 ha with rfl | ha
      · rw [Flight.before_iff] at *
        omega
      · exact hg a ha

/-- Of two failing entries, one or the other stands first. -/
theorem Failing.earlier_eq (new : Failing) (old? : Option Failing) :
    Failing.earlier new old? = new ∨ ∃ old, old? = some old ∧ Failing.earlier new old? = old := by
  unfold Failing.earlier
  split
  · exact .inl rfl
  · next old =>
    split
    · exact .inl rfl
    · exact .inr ⟨old, rfl, rfl⟩

/-- **Flights lined up**: each in its turn and at a position of its own, none due before now. -/
structure Lined (b : Batch Unit) : Prop where
  sorted : b.flights.Pairwise fun f g => f.before g = true
  nodup : (b.flights.map Flight.position).Nodup
  due : ∀ f ∈ b.flights, b.instant ≤ f.due
  /-- What has failed is over. -/
  apart : ∀ failing, b.failing = some failing → failing.position ∉ b.flights.map Flight.position

namespace Lined

variable {b : Batch Unit} {f : Flight} {rest : List Flight}

/-- The first flight moves before the others, and none of them has its position. -/
theorem first (h : Lined b) (hb : b.flights = f :: rest) {g : Flight} (hg : g ∈ rest) :
    f.before g = true ∧ g.position ≠ f.position := by
  have hsorted := h.sorted
  have hnodup := h.nodup
  rw [hb] at hsorted hnodup
  refine ⟨(List.pairwise_cons.1 hsorted).1 g hg, fun heq => ?_⟩
  exact (List.nodup_cons.1 hnodup).1 (heq ▸ List.mem_map_of_mem hg)

/-- No flight is due before the first one. -/
theorem due_le (h : Lined b) (hb : b.flights = f :: rest) {g : Flight} (hg : g ∈ f :: rest) :
    f.due ≤ g.due := by
  rcases List.mem_cons.1 hg with rfl | hg
  · exact Nat.le_refl _
  · have := Flight.before_iff.1 (h.first hb hg).1
    omega

/-- An outstanding check settles now or later… -/
theorem le_settled (h : Lined b) {check : Check} (hcheck : check ∈ b.outstanding reply c store) :
    b.instant ≤ check.settled := by
  obtain ⟨g, hg, rfl⟩ := List.mem_map.1 hcheck
  exact (h.due g hg).trans g.due_le_settled

/-- …and **not before the first flight is due**. -/
theorem due_le_settled (h : Lined b) (hb : b.flights = f :: rest) {check : Check}
    (hcheck : check ∈ b.outstanding reply c store) : f.due ≤ check.settled := by
  obtain ⟨g, hg, rfl⟩ := List.mem_map.1 hcheck
  exact (h.due_le hb (hb ▸ hg)).trans g.due_le_settled

/-- So a check that settles no later, and stands no later if it settles at once, is that of the
first flight. -/
theorem eq_first (h : Lined b) (hb : b.flights = f :: rest) {g : Flight} (hg : g ∈ b.flights)
    (hle : (g.check reply c store).settled < f.due ∨
      (g.check reply c store).settled = f.due ∧ g.position ≤ f.position) : g = f := by
  rw [hb] at hg
  refine (List.mem_cons.1 hg).resolve_right fun hg => ?_
  obtain ⟨hbefore, hne⟩ := h.first hb hg
  have hdue : g.due ≤ (g.check reply c store).settled := g.due_le_settled
  rw [Flight.before_iff] at hbefore
  omega

/-- Flights stay lined up when the first one is put in again. -/
theorem insert {b' : Batch Unit} {moved : Flight} (h : Lined b) (hb : b.flights = f :: rest)
    (hinstant : b'.instant = f.due) (hflights : b'.flights = moved.insert rest)
    (hlater : f.due ≤ moved.due) (hposition : moved.position = f.position)
    (hfailing : b'.failing = b.failing) : Lined b' := by
  have hperm : (b'.flights.map Flight.position).Perm (b.flights.map Flight.position) := by
    rw [hflights, hb, List.map_cons, ← hposition]
    exact (moved.perm_insert rest).map _
  refine ⟨?_, hperm.nodup_iff.2 h.nodup, fun g hg => ?_, fun failing hf => ?_⟩
  · rw [hflights]
    exact moved.pairwise_before_insert (List.pairwise_cons.1 (hb ▸ h.sorted)).2
  · rw [hflights, Flight.mem_insert] at hg
    rw [hinstant]
    rcases hg with rfl | hg
    · exact hlater
    · exact h.due_le hb (List.mem_cons_of_mem _ hg)
  · rw [hperm.mem_iff]
    exact h.apart failing (hfailing ▸ hf)

/-- The others stay lined up when the first flight has landed. -/
theorem land {b' : Batch Unit} (h : Lined b)
    (hb : b.flights = f :: rest) (hinstant : b'.instant = f.due) (hflights : b'.flights = rest)
    (hfailing : b'.failing = b.failing ∨
      ∃ e, b'.failing = some (Failing.earlier ⟨f.position, e⟩ b.failing)) : Lined b' := by
  have hnodup : f.position ∉ rest.map Flight.position ∧ (rest.map Flight.position).Nodup := by
    rw [← List.nodup_cons, ← List.map_cons, ← hb]
    exact h.nodup
  have hold : ∀ failing, b.failing = some failing →
      failing.position ∉ rest.map Flight.position := fun failing hf hmem => by
    refine h.apart failing hf ?_
    rw [hb]
    exact List.mem_cons_of_mem _ hmem
  refine ⟨hflights ▸ (List.pairwise_cons.1 (hb ▸ h.sorted)).2, hflights ▸ hnodup.2,
    fun g hg => ?_, fun failing hf => ?_⟩
  · rw [hinstant]
    exact h.due_le hb (List.mem_cons_of_mem _ (hflights ▸ hg))
  · rw [hflights]
    rcases hfailing with hfailing | ⟨e, hfailing⟩ <;> rw [hfailing] at hf
    · exact hold failing hf
    · obtain rfl := Option.some.inj hf
      rcases Failing.earlier_eq ⟨f.position, e⟩ b.failing with heq | ⟨old, hold', heq⟩ <;> rw [heq]
      · exact hnodup.1
      · exact hold old hold'

/-- **Every move keeps flights lined up.** -/
theorem move (h : Lined b) (hb : b.flights = f :: rest) :
    Lined (b.move (.fixed reply c store wide) f rest) := by
  obtain ⟨hinstant, hmove⟩ := @Batch.move_cases reply c store wide b f rest
  rcases hmove with ⟨moved, hflights, hlater, hposition, -, hfailing⟩ |
    ⟨hflights, -, ⟨-, hfailing⟩ | ⟨e, -, hfailing⟩⟩
  · exact h.insert hb hinstant hflights hlater hposition hfailing
  · exact h.land hb hinstant hflights (.inl hfailing)
  · exact h.land hb hinstant hflights (.inr ⟨e, hfailing⟩)

/-- Flights are lined up at the beginning. -/
theorem start (c : Config) (first instant : Nat) (journal : List Timed) (batch : List Allocation) :
    Lined (Batch.start c first instant () journal batch) := by
  have hpositions := map_position_flightsOf c instant first batch
  refine ⟨?_, ?_, fun f hf => ?_, nofun⟩
  · have hsorted : (Batch.flightsOf c instant first batch).Pairwise
        fun f g => f.position < g.position :=
      List.pairwise_map.1 (hpositions ▸ List.pairwise_lt_range')
    refine hsorted.imp_of_mem fun {f g} hf hg hlt => Flight.before_iff.2 (.inr ⟨?_, hlt.le⟩)
    obtain ⟨_, _, _, rfl⟩ := mem_flightsOf.1 hf
    obtain ⟨_, _, _, rfl⟩ := mem_flightsOf.1 hg
    rfl
  · rw [Batch.start, hpositions]
    exact List.nodup_range'
  · obtain ⟨_, _, _, rfl⟩ := mem_flightsOf.1 hf
    exact Nat.le_refl _

end Lined

end

end Airdrop.Verification
