import Airdrop.Verification.Journal

/-!
# Verification/Lookup — asking again until there is an answer

A question is repeated after a pause while its failure is worth another try and attempts are left.
`left` counts the attempts that remain **after** the one being made, so it only ever goes down.
-/

namespace Airdrop.Verification

/-- What follows from an outcome. -/
inductive Verdict
  /-- The lookup is over. -/
  | done (result : Except VerificationError Claim)
  /-- Ask again, with so many attempts left after that. -/
  | again (left : Nat) (fault : ApiFault)

/-- How many attempts have been made when so many are left. -/
def Config.made (c : Config) (left : Nat) : Nat := c.attempts - left

/-- **What follows from an outcome** when `left` more attempts are allowed. -/
def verdict (c : Config) (address : Address) (left : Nat) (outcome : Outcome) : Verdict :=
  match outcome with
  | .ok claim => .done (.ok claim)
  | .error fault =>
    match left with
    | 0 => .done (.error (.lookup address (c.made 0) fault))
    | more + 1 =>
      if fault.isRetryable then .again more fault
      else .done (.error (.lookup address (c.made (more + 1)) fault))

/-- Asking again uses an attempt up. -/
theorem lt_of_verdict_again {c : Config} {address : Address} {left more : Nat}
    {outcome : Outcome} {fault : ApiFault}
    (h : verdict c address left outcome = .again more fault) : more < left := by
  unfold verdict at h
  grind

/-- What became of a lookup. -/
structure Lookup (σ : Type) where
  result : Except VerificationError Claim
  /-- When it was over. -/
  instant : Nat
  /-- The API afterwards. -/
  state : σ
  /-- What happened, first event first. -/
  journal : List Timed

variable {σ : Type}

/-- Look an address up, with `left` attempts after this one. -/
def lookupFrom (service : Service σ) (c : Config) (position : Nat) (address : Address)
    (left instant : Nat) (state : σ) : Lookup σ :=
  let attempt := c.made left
  let answer := service.answer state ⟨position, address, attempt, instant⟩
  let settled := instant + answer.1.delay
  let exchange := [⟨instant, .called position address⟩,
    ⟨settled, .answered position answer.1.outcome⟩]
  match _h : verdict c address left answer.1.outcome with
  | .done result => ⟨result, settled, answer.2, exchange⟩
  | .again more fault =>
    let rest := lookupFrom service c position address more (settled + c.retryDelay) answer.2
    { rest with
      journal := exchange ++
        (⟨settled, .retrying position address attempt fault⟩ :: rest.journal) }
termination_by left
decreasing_by exact lt_of_verdict_again _h

/-- **Look an address up**, asking as often as the configuration allows. -/
def lookup (service : Service σ) (c : Config) (address : Address) (instant : Nat) (state : σ) :
    Lookup σ :=
  lookupFrom service c 0 address (c.attempts - 1) instant state

end Airdrop.Verification
