import Airdrop.Verification.Lookup

/-!
# Verification/Batch — many lookups at once

The lookups of a batch are all begun at one instant and run side by side.  A lookup on its way is a
`Flight`: it is due at an instant, either to ask or to hear an answer.  The batch moves **the flight
that is due first, and of those due at once the one that stands first in the list**, until it is
over.  Since a flight that has moved without time passing is still the first, each goes as far as it
can before the next one moves.

How a failure ends the batch depends on its width.  A narrow batch (`narrowWidth` entries or fewer)
ends with the first failure there is.  A wide one gives its results in the order of the list: a
failure ends it **only when every entry before it has agreed**.
-/

namespace Airdrop.Verification

/-- What a flight is going to do. -/
inductive Phase
  /-- Ask, with `left` attempts after that. -/
  | ask (left : Nat)
  /-- Hear an answer, with `left` attempts after that. -/
  | hear (left : Nat) (outcome : Outcome)

/-- **A lookup on its way.** -/
structure Flight where
  /-- When it moves next. -/
  due : Nat
  /-- Where its entry stands in the list. -/
  position : Nat
  entry : Allocation
  phase : Phase

namespace Flight

/-- Whether one flight moves before another. -/
def before (a b : Flight) : Bool := a.due < b.due || (a.due == b.due && a.position ≤ b.position)

/-- Put a flight in among others that are in order. -/
def insert (f : Flight) : List Flight → List Flight
  | [] => [f]
  | g :: rest => if f.before g then f :: g :: rest else g :: insert f rest

/-- A bound on the moves that a flight has left. -/
def weight (f : Flight) : Nat :=
  match f.phase with
  | .ask left => 2 * left + 2
  | .hear left _ => 2 * left + 1

end Flight

/-- A bound on the moves that some flights have left. -/
def weight (flights : List Flight) : Nat :=
  flights.foldr (fun f total => f.weight + total) 0

theorem weight_insert (f : Flight) (flights : List Flight) :
    weight (f.insert flights) = f.weight + weight flights := by
  induction flights with
  | nil => rfl
  | cons g rest ih =>
    unfold Flight.insert
    split
    · simp [weight]
    · simp only [weight, List.foldr_cons] at ih ⊢
      omega

/-- The most entries of a narrow batch. -/
def narrowWidth : Nat := 30

/-- An entry that does not agree, and its place in the list. -/
structure Failing where
  position : Nat
  error : VerificationError

/-- Of two failing entries the one that stands first. -/
def Failing.earlier (new : Failing) : Option Failing → Failing
  | none => new
  | some old => if new.position < old.position then new else old

/-- **Whether a failure ends a batch**, given the flights still on their way. -/
def Failing.ends (failing : Failing) (wide : Bool) (flights : List Flight) : Bool :=
  !wide || flights.all fun f => decide (failing.position < f.position)

variable {σ : Type}

/-- **A batch on its way.** -/
structure Batch (σ : Type) where
  /-- The flights, those that move first in front. -/
  flights : List Flight
  /-- The first entry of the list known not to agree. -/
  failing : Option Failing
  /-- The API. -/
  state : σ
  /-- When the last move was made. -/
  instant : Nat
  /-- What has happened, last event first. -/
  journal : List Timed

/-- What became of a batch. -/
structure BatchEnd (σ : Type) where
  failure : Option VerificationError
  instant : Nat
  state : σ
  journal : List Timed

/-- What moves the batch has to make: who asks, how far, and what is compared with what. -/
structure Plan (σ : Type) where
  service : Service σ
  config : Config
  store : Option ProofStore
  /-- The batch is wider than a narrow one. -/
  wide : Bool

namespace Batch

/-- A flight asks. -/
def ask (p : Plan σ) (b : Batch σ) (f : Flight) (left : Nat) (rest : List Flight) : Batch σ :=
  let call : Call := ⟨f.position, f.entry.address, p.config.made left, f.due⟩
  let answer := p.service.answer b.state call
  let moved := { f with due := f.due + answer.1.delay, phase := .hear left answer.1.outcome }
  { b with
    flights := moved.insert rest
    state := answer.2
    instant := f.due
    journal := ⟨f.due, .called f.position f.entry.address⟩ :: b.journal }

/-- A flight will ask again after a pause. -/
def askAgain (p : Plan σ) (b : Batch σ) (f : Flight) (attempt more : Nat) (fault : ApiFault)
    (rest : List Flight) : Batch σ :=
  let moved := { f with due := f.due + p.config.retryDelay, phase := .ask more }
  { b with
    flights := moved.insert rest
    instant := f.due
    journal := ⟨f.due, .retrying f.position f.entry.address attempt fault⟩ ::
      ⟨f.due, .answered f.position (.error fault)⟩ :: b.journal }

/-- The result of a lookup, checked. -/
def checkResult (store : Option ProofStore) (entry : Allocation)
    (result : Except VerificationError Claim) : Except VerificationError Unit :=
  match result with
  | .ok claim => checkClaim entry claim store
  | .error e => .error e

/-- A flight is over. -/
def land (p : Plan σ) (b : Batch σ) (f : Flight) (outcome : Outcome)
    (result : Except VerificationError Claim) (rest : List Flight) : Batch σ :=
  let failing := match checkResult p.store f.entry result with
    | .ok () => b.failing
    | .error e => some (Failing.earlier ⟨f.position, e⟩ b.failing)
  { b with
    flights := rest
    failing := failing
    instant := f.due
    journal := ⟨f.due, .answered f.position outcome⟩ :: b.journal }

/-- The first flight moves. -/
def move (p : Plan σ) (b : Batch σ) (f : Flight) (rest : List Flight) : Batch σ :=
  match f.phase with
  | .ask left => b.ask p f left rest
  | .hear left outcome =>
    match verdict p.config f.entry.address left outcome with
    | .again more fault => b.askAgain p f (p.config.made left) more fault rest
    | .done result => b.land p f outcome result rest

/-- A batch that is over. -/
def close (b : Batch σ) (failure : Option VerificationError) : BatchEnd σ :=
  ⟨failure, b.instant, b.state, b.journal⟩

/-- The failure that ends a batch now, if one does. -/
def ending (p : Plan σ) (b : Batch σ) : Option VerificationError :=
  match b.failing with
  | some failing => if failing.ends p.wide b.flights then some failing.error else none
  | none => none

theorem weight_move (p : Plan σ) (b : Batch σ) (f : Flight) (rest : List Flight) :
    weight (b.move p f rest).flights < weight (f :: rest) := by
  have hcons : weight (f :: rest) = f.weight + weight rest := rfl
  rw [hcons]
  unfold move
  split
  · next left hphase =>
    simp only [ask, weight_insert]
    simp only [Flight.weight, hphase]
    omega
  · next left outcome hphase =>
    split
    · next more fault hv =>
      have hlt := lt_of_verdict_again hv
      simp only [askAgain, weight_insert]
      simp only [Flight.weight, hphase]
      omega
    · simp only [land]
      simp only [Flight.weight, hphase]
      omega

/-- **Run a batch to its end.** -/
def run (p : Plan σ) (b : Batch σ) : BatchEnd σ :=
  match b.ending p with
  | some error => b.close (some error)
  | none =>
    match _h : b.flights with
    | [] => b.close none
    | f :: rest => run p (b.move p f rest)
termination_by weight b.flights
decreasing_by
  rw [_h]
  exact weight_move p b f rest

/-- The flights of some entries, the first of which stands at `position`. -/
def flightsOf (c : Config) (instant : Nat) : (position : Nat) → List Allocation → List Flight
  | _, [] => []
  | position, entry :: rest =>
    ⟨instant, position, entry, .ask (c.attempts - 1)⟩ :: flightsOf c instant (position + 1) rest

/-- **A batch about to begin.** -/
def start (c : Config) (position instant : Nat) (state : σ) (journal : List Timed)
    (entries : List Allocation) : Batch σ :=
  ⟨flightsOf c instant position entries, none, state, instant, journal⟩

end Batch

end Airdrop.Verification
