import Airdrop.Verification.Run
import Mathlib.Data.List.Basic

/-!
# Proofs/Verification/Answers — what a position was answered, and what that comes to

A journal tells for every position of the list which questions were asked (`asked`) and how they
were answered (`answers`).  The answers alone say what a lookup comes to: it **concludes** with the
first claim or final failure, or with the last failure allowed (`Concludes`).  With the comparison
that follows, an entry **settles** (`Settles`).

`verdict` decides one answer at a time; `concludes_of_verdict` and `worthRetrying_of_verdict` say
that this is the same thing.
-/

namespace Airdrop.Verification

/-! ## What a journal tells about a position -/

/-- The outcomes a position was answered with, in the order of the journal. -/
def answers (position : Nat) (journal : List Timed) : List Outcome :=
  journal.filterMap fun timed =>
    match timed.event with
    | .answered p outcome => if p = position then some outcome else none
    | _ => none

/-- The addresses that were asked for on behalf of a position, in the order of the journal. -/
def asked (position : Nat) (journal : List Timed) : List Address :=
  journal.filterMap fun timed =>
    match timed.event with
    | .called p address => if p = position then some address else none
    | _ => none

@[simp] theorem answers_append (i : Nat) (J K : List Timed) :
    answers i (J ++ K) = answers i J ++ answers i K := List.filterMap_append

@[simp] theorem asked_append (i : Nat) (J K : List Timed) :
    asked i (J ++ K) = asked i J ++ asked i K := List.filterMap_append

@[simp] theorem answers_nil (i : Nat) : answers i [] = [] := rfl

@[simp] theorem asked_nil (i : Nat) : asked i [] = [] := rfl

@[simp] theorem answers_called (i t p : Nat) (a : Address) (J : List Timed) :
    answers i (⟨t, .called p a⟩ :: J) = answers i J := rfl

@[simp] theorem answers_retrying (i t p n : Nat) (a : Address) (fault : ApiFault) (J : List Timed) :
    answers i (⟨t, .retrying p a n fault⟩ :: J) = answers i J := rfl

@[simp] theorem asked_answered (i t p : Nat) (o : Outcome) (J : List Timed) :
    asked i (⟨t, .answered p o⟩ :: J) = asked i J := rfl

@[simp] theorem asked_retrying (i t p n : Nat) (a : Address) (fault : ApiFault) (J : List Timed) :
    asked i (⟨t, .retrying p a n fault⟩ :: J) = asked i J := rfl

theorem answers_answered (i t p : Nat) (o : Outcome) (J : List Timed) :
    answers i (⟨t, .answered p o⟩ :: J) = (if p = i then [o] else []) ++ answers i J := by
  by_cases h : p = i <;> simp [answers, h]

theorem asked_called (i t p : Nat) (a : Address) (J : List Timed) :
    asked i (⟨t, .called p a⟩ :: J) = (if p = i then [a] else []) ++ asked i J := by
  by_cases h : p = i <;> simp [asked, h]

/-- What a question or its answer is about; every other event is about no position. -/
def Event.position? : Event → Option Nat
  | .called p _ => some p
  | .answered p _ => some p
  | .retrying p _ _ _ => some p
  | _ => none

/-- Events about other positions tell nothing. -/
theorem answers_eq_nil {i : Nat} {J : List Timed}
    (h : ∀ timed ∈ J, timed.event.position? ≠ some i) : answers i J = [] := by
  refine List.filterMap_eq_nil_iff.2 fun timed ht => ?_
  have hne := h timed ht
  unfold Event.position? at hne
  grind

theorem asked_eq_nil {i : Nat} {J : List Timed}
    (h : ∀ timed ∈ J, timed.event.position? ≠ some i) : asked i J = [] := by
  refine List.filterMap_eq_nil_iff.2 fun timed ht => ?_
  have hne := h timed ht
  unfold Event.position? at hne
  grind

theorem mem_asked {i : Nat} {a : Address} {J : List Timed} :
    a ∈ asked i J ↔ ∃ t, (⟨t, .called i a⟩ : Timed) ∈ J := by
  unfold asked
  rw [List.mem_filterMap]
  constructor
  · rintro ⟨⟨t, e⟩, hmem, he⟩
    cases e with
    | called p b =>
      simp only [Option.ite_none_right_eq_some, Option.some.injEq] at he
      obtain ⟨rfl, rfl⟩ := he
      exact ⟨t, hmem⟩
    | _ => cases he
  · rintro ⟨t, hmem⟩
    exact ⟨_, hmem, by simp⟩

/-! ## What answers come to -/

/-- Whether an outcome is a failure that another try may mend. -/
def worthRetrying : Outcome → Bool
  | .ok _ => false
  | .error fault => fault.isRetryable

/-- **What a lookup comes to by its answers.**  All but the last are failures worth another try; the
last is a claim, or a failure that is not, or the last attempt allowed. -/
inductive Concludes (c : Config) (address : Address) :
    List Outcome → Except VerificationError Claim → Prop
  | served {earlier : List Outcome} (claim : Claim) (retried : ∀ o ∈ earlier, worthRetrying o)
      (allowed : earlier.length < c.attempts) :
      Concludes c address (earlier ++ [.ok claim]) (.ok claim)
  | gaveUp {earlier : List Outcome} (fault : ApiFault) (retried : ∀ o ∈ earlier, worthRetrying o)
      (allowed : earlier.length < c.attempts)
      (last : fault.isRetryable = true → earlier.length + 1 = c.attempts) :
      Concludes c address (earlier ++ [.error fault])
        (.error (.lookup address (earlier.length + 1) fault))

/-- **What an entry comes to by its answers**: its lookup concludes, and a claim is compared. -/
def Settles (c : Config) (store : Option ProofStore) (entry : Allocation)
    (outcomes : List Outcome) (verdict : Except VerificationError Unit) : Prop :=
  ∃ result, Concludes c entry.address outcomes result ∧
    Batch.checkResult store entry result = verdict

/-- Some answer has to be there. -/
theorem Concludes.ne_nil {c : Config} {address : Address} {outcomes : List Outcome}
    {result : Except VerificationError Claim} (h : Concludes c address outcomes result) :
    outcomes ≠ [] := by
  cases h <;> simp

/-- An entry that agrees was served a claim that agrees. -/
theorem Settles.exists_claim {c : Config} {store : Option ProofStore} {entry : Allocation}
    {outcomes : List Outcome} (h : Settles c store entry outcomes (.ok ())) :
    ∃ claim, Except.ok claim ∈ outcomes ∧ Concludes c entry.address outcomes (.ok claim) ∧
      checkClaim entry claim store = .ok () := by
  obtain ⟨result, hc, hcheck⟩ := h
  cases hc with
  | served claim hr ha => exact ⟨claim, by simp, .served claim hr ha, hcheck⟩
  | gaveUp fault hr ha hl => cases hcheck

/-- **A disagreement names the entry's address.** -/
theorem address_of_checkClaim {entry : Allocation} {claim : Claim} {store : Option ProofStore}
    {e : VerificationError} (h : checkClaim entry claim store = .error e) :
    e.address = entry.address := by
  unfold checkClaim at h
  split at h
  · cases h
    rfl
  · split at h
    · cases h
    · unfold checkStored at h
      grind [VerificationError.address]

theorem Settles.address {c : Config} {store : Option ProofStore} {entry : Allocation}
    {outcomes : List Outcome} {e : VerificationError}
    (h : Settles c store entry outcomes (.error e)) : e.address = entry.address := by
  obtain ⟨result, hc, hcheck⟩ := h
  cases hc with
  | served claim hr ha => exact address_of_checkClaim hcheck
  | gaveUp fault hr ha hl =>
    cases hcheck
    rfl

/-! ## One answer at a time -/

variable {c : Config} {address : Address} {left : Nat} {outcome : Outcome}

/-- The questions made before the present one are those neither left nor being made. -/
theorem made_eq {n : Nat} (h : n + 1 + left = c.attempts) : c.made left = n + 1 := by
  unfold Config.made
  omega

/-- **Another attempt follows only a failure worth it**, and uses one up. -/
theorem worthRetrying_of_verdict {more : Nat} {fault : ApiFault}
    (h : verdict c address left outcome = .again more fault) :
    outcome = .error fault ∧ fault.isRetryable = true ∧ left = more + 1 := by
  unfold verdict at h
  grind

/-- **The last answer concludes.** -/
theorem concludes_of_verdict {heard : List Outcome} {result : Except VerificationError Claim}
    (hr : ∀ o ∈ heard, worthRetrying o) (ha : heard.length + 1 + left = c.attempts)
    (h : verdict c address left outcome = .done result) :
    Concludes c address (heard ++ [outcome]) result := by
  have hlt : heard.length < c.attempts := by omega
  unfold verdict at h
  split at h
  · next claim =>
    cases h
    exact .served claim hr hlt
  · next fault =>
    split at h
    · cases h
      rw [made_eq ha]
      exact .gaveUp fault hr hlt fun _ => ha
    · next more =>
      split at h
      · cases h
      · next hnot =>
        cases h
        rw [made_eq ha]
        exact .gaveUp fault hr hlt fun hyes => absurd hyes hnot

end Airdrop.Verification
