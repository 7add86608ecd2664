import Airdrop.Verification.Check
import Mathlib.Logic.Basic

/-!
# Proofs/Verification/Check — when a claim agrees, and where it does not

**A claim agrees exactly if its amount is that of the list and, if there is a store, the store knows
the address with this very amount and proof** (`checkClaim_eq_ok_iff`).

Proofs of any lengths part where their longest common beginning ends (`PartAt`).  If a claim does
not agree, the first thing that is wrong is what is reported (`Disagrees`), so **a proof that is the
beginning of the other, or has its nodes in another order, never passes** (`checkClaim_exact`).
-/

namespace Airdrop

/-! ## Agreement -/

/-- **Proofs part nowhere exactly if they are equal.** -/
theorem firstMismatch?_eq_none_iff {expected actual : List Digest} :
    firstMismatch? expected actual = none ↔ expected = actual := by
  fun_induction firstMismatch? expected actual with
  | case1 => simp
  | case2 => simp
  | case3 => simp
  | case4 expected a actual ih => simp [ih]
  | case5 e expected a actual hne => simp [hne]

theorem checkStored_eq_ok_iff {address : Address} {claim : Claim} {store : ProofStore} :
    checkStored address claim store = .ok () ↔
      store.get? address = some ⟨claim.amount, claim.proof⟩ := by
  unfold checkStored
  cases hknown : store.get? address with
  | none => simp
  | some stored =>
    obtain ⟨amount, proof⟩ := stored
    by_cases hamount : amount = claim.amount
    · have hproof := @firstMismatch?_eq_none_iff proof claim.proof
      simp only [hamount, ne_eq, not_true_eq_false, if_false, Option.some.injEq, Stored.mk.injEq,
        true_and, ← hproof]
      cases firstMismatch? proof claim.proof <;> simp
    · simp [hamount]

/-- **When a claim agrees.** -/
theorem checkClaim_eq_ok_iff {entry : Allocation} {claim : Claim} {store : Option ProofStore} :
    checkClaim entry claim store = .ok () ↔ claim.amount = entry.amount ∧
      ∀ known, store = some known →
        known.get? entry.address = some ⟨claim.amount, claim.proof⟩ := by
  unfold checkClaim
  by_cases hamount : claim.amount = entry.amount
  · rw [if_neg (not_not_intro hamount)]
    cases store with
    | none => simp [hamount]
    | some known => simp [hamount, checkStored_eq_ok_iff]
  · simp [hamount]

/-! ## Where proofs part -/

/-- **Two proofs part at an index**: it is the length of their longest common beginning, and there
they have different nodes, or just one of them has ended. -/
structure PartAt (expected actual : List Digest) (index : Nat) : Prop where
  /-- Both have that many nodes, and the same ones. -/
  common : ∃ nodes, nodes.length = index ∧ nodes <+: expected ∧ nodes <+: actual
  /-- They have no more in common. -/
  longest : ∀ nodes, nodes <+: expected → nodes <+: actual → nodes.length ≤ index
  differ : (∃ e a, expected[index]? = some e ∧ actual[index]? = some a ∧ e ≠ a) ∨
    expected.length = index ∧ index < actual.length ∨
    actual.length = index ∧ index < expected.length

namespace PartAt

variable {expected actual : List Digest} {e a : Digest} {index : Nat}

/-- A proof that has ended parts from one that goes on. -/
theorem nil_left : PartAt [] (a :: actual) 0 where
  common := ⟨[], rfl, List.nil_prefix, List.nil_prefix⟩
  longest _ hexpected _ := hexpected.length_le
  differ := .inr (.inl ⟨rfl, Nat.succ_pos _⟩)

theorem nil_right : PartAt (e :: expected) [] 0 where
  common := ⟨[], rfl, List.nil_prefix, List.nil_prefix⟩
  longest _ _ hactual := hactual.length_le
  differ := .inr (.inr ⟨rfl, Nat.succ_pos _⟩)

/-- Different nodes part. -/
theorem of_ne (hne : e ≠ a) : PartAt (e :: expected) (a :: actual) 0 where
  common := ⟨[], rfl, List.nil_prefix, List.nil_prefix⟩
  longest
    | [], _, _ => Nat.le_refl 0
    | _ :: _, hexpected, hactual =>
      absurd ((List.cons_prefix_cons.1 hexpected).1.symm.trans (List.cons_prefix_cons.1 hactual).1)
        hne
  differ := .inl ⟨e, a, rfl, rfl, hne⟩

/-- Behind a common node they part where the rests do. -/
theorem cons (h : PartAt expected actual index) :
    PartAt (e :: expected) (e :: actual) (index + 1) where
  common := by
    obtain ⟨nodes, rfl, hexpected, hactual⟩ := h.common
    exact ⟨e :: nodes, rfl, List.cons_prefix_cons.2 ⟨rfl, hexpected⟩,
      List.cons_prefix_cons.2 ⟨rfl, hactual⟩⟩
  longest
    | [], _, _ => Nat.zero_le _
    | _ :: nodes, hexpected, hactual => Nat.succ_le_succ (h.longest nodes
      (List.cons_prefix_cons.1 hexpected).2 (List.cons_prefix_cons.1 hactual).2)
  differ := by
    simpa only [List.getElem?_cons_succ, List.length_cons, Nat.add_right_cancel_iff,
      Nat.add_lt_add_iff_right] using h.differ

/-- **The place is the only one.** -/
theorem unique {other : Nat} (h : PartAt expected actual index)
    (h' : PartAt expected actual other) : index = other := by
  obtain ⟨nodes, rfl, hexpected, hactual⟩ := h.common
  obtain ⟨nodes', rfl, hexpected', hactual'⟩ := h'.common
  exact Nat.le_antisymm (h'.longest nodes hexpected hactual) (h.longest nodes' hexpected' hactual')

theorem ne (h : PartAt expected actual index) : expected ≠ actual := by
  rintro rfl
  rcases h.differ with ⟨e, a, he, ha, hne⟩ | hended | hended
  · exact hne (Option.some.inj (he.symm.trans ha))
  · omega
  · omega

/-- A beginning of a proof parts from it at its end. -/
theorem of_begins (hbegins : expected <+: actual) (hne : expected ≠ actual) :
    PartAt expected actual expected.length where
  common := ⟨expected, rfl, List.prefix_rfl, hbegins⟩
  longest _ hexpected _ := hexpected.length_le
  differ := .inr (.inl ⟨rfl, Nat.lt_of_le_of_ne hbegins.length_le
    fun hlength => hne (hbegins.eq_of_length hlength)⟩)

theorem symm (h : PartAt expected actual index) : PartAt actual expected index where
  common := by
    obtain ⟨nodes, hlength, hexpected, hactual⟩ := h.common
    exact ⟨nodes, hlength, hactual, hexpected⟩
  longest nodes hactual hexpected := h.longest nodes hexpected hactual
  differ := by
    rcases h.differ with ⟨e, a, he, ha, hne⟩ | hended | hended
    · exact .inl ⟨a, e, ha, he, hne.symm⟩
    · exact .inr (.inr hended)
    · exact .inr (.inl hended)

/-- Proofs of one length part at a node. -/
theorem lt_length (h : PartAt expected actual index) (hlength : expected.length = actual.length) :
    index < actual.length := by
  rcases h.differ with ⟨e, a, he, ha, hne⟩ | hended | hended
  · exact (List.getElem?_eq_some_iff.1 ha).1
  · exact hended.2
  · omega

end PartAt

/-- What the comparison finds is where the proofs part, -/
theorem partAt_of_firstMismatch? {expected actual : List Digest} :
    ∀ {index : Nat}, firstMismatch? expected actual = some index →
      PartAt expected actual index := by
  fun_induction firstMismatch? expected actual with
  | case1 => exact nofun
  | case2 => rintro _ ⟨⟩; exact .nil_left
  | case3 => rintro _ ⟨⟩; exact .nil_right
  | case4 expected a actual ih =>
    intro index hindex
    obtain ⟨rest, hrest, rfl⟩ := Option.map_eq_some_iff.1 hindex
    exact (ih hrest).cons
  | case5 e expected a actual hne => rintro _ ⟨⟩; exact .of_ne hne

/-- …and it finds that place. -/
theorem firstMismatch?_eq_some_iff {expected actual : List Digest} {index : Nat} :
    firstMismatch? expected actual = some index ↔ PartAt expected actual index := by
  refine ⟨partAt_of_firstMismatch?, fun h => ?_⟩
  cases hfound : firstMismatch? expected actual with
  | none => exact absurd (firstMismatch?_eq_none_iff.1 hfound) h.ne
  | some found => exact congrArg some ((partAt_of_firstMismatch? hfound).unique h)

/-! ## Disagreement -/

/-- **How a claim disagrees**: with the list; or it agrees with the list, and the store does not
know the address, has another amount for it, or the same amount with another proof. -/
inductive Disagrees (entry : Allocation) (claim : Claim) :
    Option ProofStore → VerificationError → Prop
  | amount {store : Option ProofStore} (hlist : claim.amount ≠ entry.amount) :
      Disagrees entry claim store (.amount entry.address .list entry.amount claim.amount)
  | missing {known : ProofStore} (hlist : claim.amount = entry.amount)
      (hunknown : known.get? entry.address = none) :
      Disagrees entry claim (some known) (.missing entry.address)
  | storedAmount {known : ProofStore} {stored : Stored} (hlist : claim.amount = entry.amount)
      (hknown : known.get? entry.address = some stored) (hamount : stored.amount ≠ claim.amount) :
      Disagrees entry claim (some known)
        (.amount entry.address .store stored.amount claim.amount)
  | proof {known : ProofStore} {stored : Stored} {index : Nat}
      (hlist : claim.amount = entry.amount) (hknown : known.get? entry.address = some stored)
      (hamount : stored.amount = claim.amount) (hparts : PartAt stored.proof claim.proof index) :
      Disagrees entry claim (some known) (.proof entry.address index)

/-- A claim that agrees with the list may disagree with the store. -/
theorem disagrees_of_checkStored {entry : Allocation} {claim : Claim} {known : ProofStore}
    {error : VerificationError} (hlist : claim.amount = entry.amount)
    (h : checkStored entry.address claim known = .error error) :
    Disagrees entry claim (some known) error := by
  unfold checkStored at h
  split at h
  · next hunknown =>
    cases h
    exact .missing hlist hunknown
  next stored hknown =>
  split at h
  · next hamount =>
    cases h
    exact .storedAmount hlist hknown hamount
  next hamount =>
  split at h
  · next index hindex =>
    cases h
    exact .proof hlist hknown (Decidable.not_not.1 hamount) (partAt_of_firstMismatch? hindex)
  · cases h

/-- **What is reported is how the claim disagrees.** -/
theorem checkClaim_eq_error_iff {entry : Allocation} {claim : Claim} {store : Option ProofStore}
    {error : VerificationError} :
    checkClaim entry claim store = .error error ↔ Disagrees entry claim store error := by
  constructor
  · intro h
    unfold checkClaim at h
    split at h
    · next hlist =>
      cases h
      exact .amount hlist
    next hlist =>
    split at h
    · cases h
    · exact disagrees_of_checkStored (Decidable.not_not.1 hlist) h
  · intro h
    unfold checkClaim
    cases h with
    | amount hlist => exact if_pos hlist
    | missing hlist hunknown =>
      rw [if_neg (not_not_intro hlist)]
      simp only [checkStored, hunknown]
    | storedAmount hlist hknown hamount =>
      rw [if_neg (not_not_intro hlist)]
      simp only [checkStored, hknown]
      exact if_pos hamount
    | proof hlist hknown hamount hparts =>
      rw [if_neg (not_not_intro hlist)]
      simp only [checkStored, hknown, if_neg (not_not_intro hamount),
        firstMismatch?_eq_some_iff.2 hparts]

/-- **A claim is compared exactly, and the right thing is reported.**  It passes if its amount is
that of the list and, if there is a store, the store knows the address with the same amount and the
same proof; otherwise the error tells how it disagrees.  A proof other than the stored one never
passes: if one is the beginning of the other, they part where the shorter one ends, and if the nodes
are the same in another order, they part as well. -/
theorem checkClaim_exact (entry : Allocation) (claim : Claim) (store : Option ProofStore) :
    (checkClaim entry claim store = .ok () ↔ claim.amount = entry.amount ∧
      ∀ known, store = some known → ∃ stored, known.get? entry.address = some stored ∧
        stored.amount = claim.amount ∧ stored.proof = claim.proof) ∧
    (∀ error, checkClaim entry claim store = .error error ↔ Disagrees entry claim store error) ∧
    ∀ known stored, store = some known → known.get? entry.address = some stored →
      stored.proof ≠ claim.proof → checkClaim entry claim store ≠ .ok () ∧
        (claim.amount = entry.amount → stored.amount = claim.amount → ∃ index,
          checkClaim entry claim store = .error (.proof entry.address index) ∧
            (stored.proof <+: claim.proof → index = stored.proof.length) ∧
            (claim.proof <+: stored.proof → index = claim.proof.length) ∧
            (stored.proof.Perm claim.proof → index < claim.proof.length)) := by
  have hok : checkClaim entry claim store = .ok () ↔ claim.amount = entry.amount ∧
      ∀ known, store = some known → ∃ stored, known.get? entry.address = some stored ∧
        stored.amount = claim.amount ∧ stored.proof = claim.proof := by
    rw [checkClaim_eq_ok_iff]
    refine and_congr_right fun _ => forall₂_congr fun known _ => ⟨fun hknown => ?_, ?_⟩
    · exact ⟨_, hknown, rfl, rfl⟩
    · rintro ⟨⟨amount, proof⟩, hknown, rfl, rfl⟩
      exact hknown
  refine ⟨hok, fun error => checkClaim_eq_error_iff, ?_⟩
  rintro known stored rfl hknown hne
  refine ⟨fun hpasses => ?_, fun hlist hamount => ?_⟩
  · obtain ⟨other, hother, -, hproof⟩ := (hok.1 hpasses).2 known rfl
    cases hknown.symm.trans hother
    exact hne hproof
  · cases hindex : firstMismatch? stored.proof claim.proof with
    | none => exact absurd (firstMismatch?_eq_none_iff.1 hindex) hne
    | some index =>
      have hparts := partAt_of_firstMismatch? hindex
      exact ⟨index, checkClaim_eq_error_iff.2 (.proof hlist hknown hamount hparts),
        fun hbegins => hparts.unique (.of_begins hbegins hne),
        fun hbegins => hparts.unique (PartAt.of_begins hbegins hne.symm).symm,
        fun hperm => hparts.lt_length hperm.length_eq⟩

/-- A store that knows one address, with two nodes. -/
def ofTwoNodes : ProofStore :=
  ProofStore.empty.insert default ⟨5, [.replicate 32 1, .replicate 32 2]⟩

/-- The two nodes served the other way round, and the second one left out. -/
theorem checkClaim_exact_of_two :
    (∃ index, checkClaim ⟨default, 5⟩ ⟨default, 5, [.replicate 32 2, .replicate 32 1]⟩
      (some ofTwoNodes) = .error (.proof default index) ∧ index < 2) ∧
    checkClaim ⟨default, 5⟩ ⟨default, 5, [.replicate 32 1]⟩ (some ofTwoNodes) =
      .error (.proof default 1) := by
  have hknown : ofTwoNodes.get? default = some ⟨5, [.replicate 32 1, .replicate 32 2]⟩ := by
    simp [ofTwoNodes, ProofStore.get?, ProofStore.insert]
  constructor
  · obtain ⟨-, hparts⟩ := (checkClaim_exact ⟨default, 5⟩
      ⟨default, 5, [.replicate 32 2, .replicate 32 1]⟩ (some ofTwoNodes)).2.2 _ _ rfl hknown
      (by decide)
    obtain ⟨index, hindex, -, -, hlt⟩ := hparts rfl rfl
    exact ⟨index, hindex, hlt (.swap _ _ _)⟩
  · obtain ⟨-, hparts⟩ := (checkClaim_exact ⟨default, 5⟩ ⟨default, 5, [.replicate 32 1]⟩
      (some ofTwoNodes)).2.2 _ _ rfl hknown (by decide)
    obtain ⟨index, hindex, -, hshorter, -⟩ := hparts rfl rfl
    rw [hindex, hshorter ⟨[.replicate 32 2], rfl⟩]
    rfl

end Airdrop
