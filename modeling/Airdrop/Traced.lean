/-!
# Traced — work that leaves a trace and may fail

A `Traced ω ε α` is what came of some work, `α` or a failure `ε`, together with **everything that
happened on the way, in order**.  Work that follows other work adds its events behind; after a
failure nothing more happens.
-/

namespace Airdrop

/-- **What came of some work, and what happened on the way.** -/
structure Traced (ω ε α : Type) where
  /-- What happened, first event first. -/
  events : List ω
  outcome : Except ε α

namespace Traced

variable {ω ε α β : Type}

/-- Some work, and with its result other work. -/
def andThen (work : Traced ω ε α) (next : α → Traced ω ε β) : Traced ω ε β :=
  match work.outcome with
  | .error e => ⟨work.events, .error e⟩
  | .ok a => ⟨work.events ++ (next a).events, (next a).outcome⟩

instance : Monad (Traced ω ε) where
  pure a := ⟨[], .ok a⟩
  bind := andThen

/-- A result that takes no work. -/
def ofExcept (outcome : Except ε α) : Traced ω ε α := ⟨[], outcome⟩

/-- Something that happens. -/
def note (event : ω) : Traced ω ε Unit := ⟨[event], .ok ()⟩

@[simp] theorem outcome_pure (a : α) : (pure a : Traced ω ε α).outcome = .ok a := rfl

@[simp] theorem outcome_bind (work : Traced ω ε α) (next : α → Traced ω ε β) :
    (work >>= next).outcome = (do (next (← work.outcome)).outcome) := by
  cases h : work.outcome <;> simp [bind, andThen, Except.bind, h]

theorem events_bind (work : Traced ω ε α) (next : α → Traced ω ε β) :
    (work >>= next).events = work.events ++ match work.outcome with
      | .ok a => (next a).events
      | .error _ => [] := by
  cases h : work.outcome <;> simp [bind, andThen, h]

theorem outcome_bind_of_ok {work : Traced ω ε α} {next : α → Traced ω ε β} {a : α}
    (h : work.outcome = .ok a) : (work >>= next).outcome = (next a).outcome := by
  rw [outcome_bind, h]
  rfl

/-- **Work that ends well has ended well at every step**, and the events of the steps follow one
another. -/
theorem exists_of_bind {work : Traced ω ε α} {next : α → Traced ω ε β} {b : β}
    (h : (work >>= next).outcome = .ok b) : ∃ a, work.outcome = .ok a ∧
      (next a).outcome = .ok b ∧ (work >>= next).events = work.events ++ (next a).events := by
  rw [outcome_bind] at h
  cases hwork : work.outcome with
  | error e =>
    rw [hwork] at h
    cases h
  | ok a =>
    rw [hwork] at h
    exact ⟨a, rfl, h, by rw [events_bind, hwork]⟩

@[simp] theorem outcome_ofExcept (outcome : Except ε α) :
    (ofExcept outcome : Traced ω ε α).outcome = outcome := rfl

@[simp] theorem outcome_note (event : ω) : (note event : Traced ω ε Unit).outcome = .ok () := rfl

end Traced

end Airdrop
