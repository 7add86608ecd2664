import Airdrop.Proofs.Word
import Airdrop.Tree
import Mathlib.Data.List.Nodup
import Mathlib.Data.List.Perm.Basic
import Std.Data.HashSet.Lemmas

/-!
# Proofs/Tree/Validation — a tree is let pass exactly if it is what it states

Every fault says something of a tree (`Has`), and a tree may have several.  **The one that is told
is the first in the order of the checks** (`FirstFault`); a tree without any is `Consistent`.
Amounts are added up as natural numbers here, so a sum that no word holds is never taken for another
one.

Putting the nodes in another order changes at most which node without a proof is named.
-/

namespace Airdrop

/-- The first of some nodes that has a property is one. -/
theorem TreeNode.first_unique {p : TreeNode → Prop} {a b : TreeNode} (ha : p a) (hb : p b) :
    ∀ {before before' after after' : List TreeNode},
    before ++ a :: after = before' ++ b :: after' →
    (∀ x ∈ before, ¬ p x) → (∀ x ∈ before', ¬ p x) → a = b
  | [], [], _, _, h, _, _ => (List.cons.inj h).1
  | [], x :: _, _, _, h, _, hnot => by
      obtain rfl : a = x := (List.cons.inj h).1
      exact absurd ha (hnot a List.mem_cons_self)
  | x :: _, [], _, _, h, hnot, _ => by
      obtain rfl : x = b := (List.cons.inj h).1
      exact absurd hb (hnot x List.mem_cons_self)
  | _ :: _, _ :: _, _, _, h, hnot, hnot' =>
      first_unique ha hb (List.cons.inj h).2 (fun x hx => hnot x (List.mem_cons_of_mem _ hx))
        fun x hx => hnot' x (List.mem_cons_of_mem _ hx)

namespace Tree

variable {tree tree' : Tree} {fault fault' : Fault}

/-! ## What is checked -/

/-- What the nodes get together. -/
def amounts (tree : Tree) : Nat := (tree.nodes.map fun node => node.amount.toNat).sum

/-- **A tree is what it states.** -/
structure Consistent (tree : Tree) : Prop where
  /-- It states no more nodes than a tree of height 32 has, -/
  few : tree.maxNodes.toNat ≤ 2 ^ 32 - 1
  /-- it has as many as it states, -/
  counted : tree.nodes.length = tree.maxNodes.toNat
  /-- no two of them have the same claimant, -/
  distinct : (tree.nodes.map TreeNode.claimant).Nodup
  /-- they get together what it states, -/
  summed : tree.amounts = tree.maxTotal.toNat
  /-- and each of them has a proof. -/
  proven : ∀ node ∈ tree.nodes, node.proof ≠ none

/-- **What a fault says of a tree.** -/
def Has (tree : Tree) : Fault → Prop
  | .tooManyNodes stated => stated = tree.maxNodes ∧ 2 ^ 32 - 1 < stated.toNat
  | .nodeCount actual stated =>
    actual = tree.nodes.length ∧ stated = tree.maxNodes ∧ actual ≠ stated.toNat
  | .repeatedClaimant => ¬ (tree.nodes.map TreeNode.claimant).Nodup
  | .totalOverflow => 2 ^ 64 ≤ tree.amounts
  | .totalMismatch actual stated =>
    actual.toNat = tree.amounts ∧ stated = tree.maxTotal ∧ actual ≠ stated
  | .missingProof claimant => ∃ before node after, tree.nodes = before ++ node :: after ∧
    node.claimant = claimant ∧ node.proof = none ∧ ∀ earlier ∈ before, earlier.proof ≠ none

/-- When a fault is looked for. -/
def Fault.stage : Fault → Nat
  | .tooManyNodes _ => 0
  | .nodeCount _ _ => 1
  | .repeatedClaimant => 2
  | .totalOverflow => 3
  | .totalMismatch _ _ => 4
  | .missingProof _ => 5

/-- **The fault of a tree that is looked for first.** -/
def FirstFault (tree : Tree) (fault : Fault) : Prop :=
  tree.Has fault ∧ ∀ other, tree.Has other → fault.stage ≤ other.stage

/-- Of each stage a tree has one fault. -/
theorem Has.unique (h : tree.Has fault) (h' : tree.Has fault')
    (hstage : fault.stage = fault'.stage) : fault = fault' := by
  match fault, fault', hstage with
  | .tooManyNodes _, .tooManyNodes _, _ => rw [h.1, h'.1]
  | .nodeCount _ _, .nodeCount _ _, _ => rw [h.1, h'.1, h.2.1, h'.2.1]
  | .repeatedClaimant, .repeatedClaimant, _ => rfl
  | .totalOverflow, .totalOverflow, _ => rfl
  | .totalMismatch _ _, .totalMismatch _ _, _ =>
    rw [UInt64.toNat_inj.1 (h.1.trans h'.1.symm), h.2.1, h'.2.1]
  | .missingProof _, .missingProof _, _ =>
    obtain ⟨_, _, _, hnodes, rfl, hnone, hbefore⟩ := h
    obtain ⟨_, _, _, hnodes', rfl, hnone', hbefore'⟩ := h'
    rw [TreeNode.first_unique (p := fun node => node.proof = none) hnone hnone'
      (hnodes.symm.trans hnodes') hbefore hbefore']

theorem FirstFault.unique (h : tree.FirstFault fault) (h' : tree.FirstFault fault') :
    fault = fault' :=
  h.1.unique h'.1 (Nat.le_antisymm (h.2 fault' h'.1) (h'.2 fault h.1))

/-- **A consistent tree has no fault.** -/
theorem Consistent.not_has (h : tree.Consistent) (fault : Fault) : ¬ tree.Has fault := by
  intro hhas
  cases fault with
  | tooManyNodes stated =>
    obtain ⟨rfl, hmany⟩ := hhas
    exact Nat.not_le_of_lt hmany h.few
  | nodeCount actual stated =>
    obtain ⟨rfl, rfl, hcount⟩ := hhas
    exact hcount h.counted
  | repeatedClaimant => exact hhas h.distinct
  | totalOverflow =>
    have hlt : tree.maxTotal.toNat < 2 ^ 64 := tree.maxTotal.toNat_lt
    exact Nat.not_le_of_lt hlt (h.summed ▸ hhas)
  | totalMismatch actual stated =>
    obtain ⟨hactual, rfl, hne⟩ := hhas
    exact hne (UInt64.toNat_inj.1 (hactual.trans h.summed))
  | missingProof claimant =>
    obtain ⟨before, node, after, hnodes, -, hnone, -⟩ := hhas
    exact h.proven node (by simp [hnodes]) hnone

/-! ## How it is checked -/

/-- Claimants are compared with those seen before. -/
theorem allDistinct_iff {seen : Std.HashSet Address} {addresses : List Address} :
    allDistinct seen addresses = true ↔
      addresses.Nodup ∧ ∀ a ∈ addresses, seen.contains a = false := by
  induction addresses generalizing seen with
  | nil => simp [allDistinct]
  | cons a rest ih =>
    simp only [allDistinct, Bool.and_eq_true, Bool.not_eq_true', ih, List.nodup_cons,
      Std.HashSet.contains_insert, Bool.or_eq_false_iff, beq_eq_false_iff_ne, List.forall_mem_cons]
    constructor
    · rintro ⟨hnew, hrest, hother⟩
      exact ⟨⟨fun hmem => (hother a hmem).1 rfl, hrest⟩, hnew, fun b hb => (hother b hb).2⟩
    · rintro ⟨⟨hmem, hrest⟩, hnew, hother⟩
      exact ⟨hnew, hrest, fun b hb => ⟨fun heq => hmem (heq ▸ hb), hother b hb⟩⟩

/-- …and those of a whole list with one another. -/
theorem allDistinct_empty_iff {addresses : List Address} :
    allDistinct ∅ addresses = true ↔ addresses.Nodup := by
  rw [allDistinct_iff]
  simp

theorem total?_eq_some_iff {total : UInt64} :
    total? tree.nodes = some total ↔ tree.amounts = total.toNat := by
  rw [total?, Word.sum?_eq_some_iff, List.map_map]
  rfl

theorem total?_eq_none_iff : total? tree.nodes = none ↔ 2 ^ 64 ≤ tree.amounts := by
  rw [total?, Word.sum?_eq_none_iff, List.map_map]
  rfl

/-- The claimant named is that of the first node without a proof. -/
theorem unproven?_eq_some_iff {claimant : Address} :
    unproven? tree.nodes = some claimant ↔ tree.Has (.missingProof claimant) := by
  simp only [unproven?, Option.map_eq_some_iff, List.find?_eq_some_iff_append, Has]
  constructor
  · rintro ⟨node, ⟨hnone, before, after, hnodes, hbefore⟩, rfl⟩
    exact ⟨before, node, after, hnodes, rfl, by simpa using hnone,
      by simpa [Option.isSome_iff_ne_none] using hbefore⟩
  · rintro ⟨before, node, after, hnodes, rfl, hnone, hbefore⟩
    exact ⟨node, ⟨by simp [hnone], before, after, hnodes,
      by simpa [Option.isSome_iff_ne_none] using hbefore⟩, rfl⟩

theorem unproven?_eq_none_iff :
    unproven? tree.nodes = none ↔ ∀ node ∈ tree.nodes, node.proof ≠ none := by
  simp [unproven?]

/-- Nothing is wrong with a tree so far: it has no fault of the first `n` stages. -/
def Clear (tree : Tree) (n : Nat) : Prop := ∀ fault, tree.Has fault → n ≤ fault.stage

theorem Clear.succ {n : Nat} (h : tree.Clear n)
    (hn : ∀ fault, fault.stage = n → ¬ tree.Has fault) : tree.Clear (n + 1) := fun fault hhas =>
  Nat.lt_of_le_of_ne (h fault hhas) fun hstage => hn fault hstage.symm hhas

/-- **A tree passes and is consistent, or its first fault is told.** -/
theorem validate_cases (tree : Tree) : (tree.validate = .ok () ∧ tree.Consistent) ∨
    ∃ fault, tree.validate = .error fault ∧ tree.FirstFault fault := by
  have hclear : tree.Clear 0 := fun _ _ => Nat.zero_le _
  unfold validate
  -- After each check the tree is clear of one stage more.
  split
  · next hmany => exact .inr ⟨_, rfl, ⟨rfl, hmany⟩, hclear⟩
  next hfew =>
  replace hclear := hclear.succ fun
    | .tooManyNodes _, _, h => hfew (h.1 ▸ h.2)
  split
  · next hcount => exact .inr ⟨_, rfl, ⟨rfl, rfl, hcount⟩, hclear⟩
  next hcounted =>
  replace hclear := hclear.succ fun
    | .nodeCount _ _, _, h => hcounted (h.1 ▸ h.2.1 ▸ h.2.2)
  split
  · next hrepeated =>
    rw [Bool.not_eq_true', ← Bool.not_eq_true, allDistinct_empty_iff] at hrepeated
    exact .inr ⟨_, rfl, hrepeated, hclear⟩
  next hdistinct =>
  rw [Bool.not_eq_true', Bool.not_eq_false, allDistinct_empty_iff] at hdistinct
  replace hclear := hclear.succ fun
    | .repeatedClaimant, _, h => h hdistinct
  split
  · next hoverflow => exact .inr ⟨_, rfl, total?_eq_none_iff.1 hoverflow, hclear⟩
  next total htotal =>
  have hamounts : tree.amounts = total.toNat := total?_eq_some_iff.1 htotal
  have hlt : tree.amounts < 2 ^ 64 := hamounts ▸ total.toNat_lt
  replace hclear := hclear.succ fun
    | .totalOverflow, _, h => Nat.not_le_of_lt hlt h
  split
  · next hmismatch => exact .inr ⟨_, rfl, ⟨hamounts.symm, rfl, hmismatch⟩, hclear⟩
  next hmatch =>
  obtain rfl : total = tree.maxTotal := Decidable.not_not.1 hmatch
  replace hclear := hclear.succ fun
    | .totalMismatch _ _, _, h => h.2.2 (h.2.1 ▸ UInt64.toNat_inj.1 (h.1.trans hamounts))
  split
  · next hunproven => exact .inr ⟨_, rfl, unproven?_eq_some_iff.1 hunproven, hclear⟩
  · next hproven =>
    exact .inl ⟨rfl, Nat.le_of_not_lt hfew, Decidable.not_not.1 hcounted, hdistinct, hamounts,
      unproven?_eq_none_iff.1 hproven⟩

theorem validate_eq_ok_iff : tree.validate = .ok () ↔ tree.Consistent := by
  rcases validate_cases tree with ⟨hok, h⟩ | ⟨fault, herror, hfirst⟩
  · exact ⟨fun _ => h, fun _ => hok⟩
  · constructor
    · intro hok
      rw [herror] at hok
      cases hok
    · exact fun h => absurd hfirst.1 (h.not_has fault)

theorem validate_eq_error_iff : tree.validate = .error fault ↔ tree.FirstFault fault := by
  rcases validate_cases tree with ⟨hok, h⟩ | ⟨first, herror, hfirst⟩
  · constructor
    · intro herror
      rw [hok] at herror
      cases herror
    · exact fun hfirst => absurd hfirst.1 (h.not_has fault)
  · rw [herror, Except.error.injEq]
    exact ⟨fun heq => heq ▸ hfirst, hfirst.unique⟩

/-! ## Nodes in another order -/

/-- **The same tree with its nodes in another order**, as far as it is checked. -/
structure Reordered (tree tree' : Tree) : Prop where
  maxNodes : tree'.maxNodes = tree.maxNodes
  maxTotal : tree'.maxTotal = tree.maxTotal
  nodes : tree'.nodes.Perm tree.nodes

theorem Reordered.symm (h : Reordered tree tree') : Reordered tree' tree :=
  ⟨h.maxNodes.symm, h.maxTotal.symm, h.nodes.symm⟩

/-- **Faults that are alike**: the same, but for the claimant named. -/
inductive Fault.Alike : Fault → Fault → Prop
  | refl (fault : Fault) : Alike fault fault
  | missingProof (claimant claimant' : Address) :
    Alike (.missingProof claimant) (.missingProof claimant')

theorem Fault.Alike.stage_eq (h : Alike fault fault') : fault'.stage = fault.stage := by
  cases h <;> rfl

theorem Reordered.amounts_eq (h : Reordered tree tree') : tree'.amounts = tree.amounts :=
  (h.nodes.map _).sum_eq

/-- **A fault is there in any order of the nodes.** -/
theorem Reordered.exists_has (h : Reordered tree tree') (hhas : tree.Has fault) :
    ∃ fault', tree'.Has fault' ∧ fault.Alike fault' := by
  cases fault with
  | tooManyNodes stated => exact ⟨_, by rwa [Has, h.maxNodes], .refl _⟩
  | nodeCount actual stated => exact ⟨_, by rwa [Has, h.maxNodes, h.nodes.length_eq], .refl _⟩
  | repeatedClaimant => exact ⟨_, by rwa [Has, (h.nodes.map _).nodup_iff], .refl _⟩
  | totalOverflow => exact ⟨_, by rwa [Has, h.amounts_eq], .refl _⟩
  | totalMismatch actual stated => exact ⟨_, by rwa [Has, h.amounts_eq, h.maxTotal], .refl _⟩
  | missingProof claimant =>
    obtain ⟨before, node, after, hnodes, -, hnone, -⟩ := hhas
    have hmem : node ∈ tree'.nodes := h.nodes.mem_iff.2 (by simp [hnodes])
    cases hunproven : unproven? tree'.nodes with
    | none => exact absurd hnone (unproven?_eq_none_iff.1 hunproven node hmem)
    | some claimant' =>
      exact ⟨_, unproven?_eq_some_iff.1 hunproven, .missingProof claimant claimant'⟩

theorem Reordered.exists_firstFault (h : Reordered tree tree') (hfirst : tree.FirstFault fault) :
    ∃ fault', tree'.FirstFault fault' ∧ fault.Alike fault' := by
  obtain ⟨fault', hhas', halike⟩ := h.exists_has hfirst.1
  refine ⟨fault', ⟨hhas', fun other' hother' => ?_⟩, halike⟩
  obtain ⟨other, hother, hstage⟩ := h.symm.exists_has hother'
  rw [halike.stage_eq, ← hstage.stage_eq]
  exact hfirst.2 other hother

/-- **Two trees get the same verdict**: both pass, or the faults told of them are alike. -/
def SameVerdict (tree tree' : Tree) : Prop :=
  (tree.validate = .ok () ∧ tree'.validate = .ok ()) ∨
    ∃ fault fault', tree.validate = .error fault ∧ tree'.validate = .error fault' ∧
      fault.Alike fault'

theorem Reordered.sameVerdict (h : Reordered tree tree') : SameVerdict tree tree' := by
  rcases validate_cases tree with ⟨hok, hconsistent⟩ | ⟨fault, herror, hfirst⟩
  · refine .inl ⟨hok, ?_⟩
    rcases validate_cases tree' with ⟨hok', -⟩ | ⟨fault', -, hfirst'⟩
    · exact hok'
    · obtain ⟨fault, hhas, -⟩ := h.symm.exists_has hfirst'.1
      exact absurd hhas (hconsistent.not_has fault)
  · obtain ⟨fault', hfirst', halike⟩ := h.exists_firstFault hfirst
    exact .inr ⟨fault, fault', herror, validate_eq_error_iff.2 hfirst', halike⟩

/-! ## The check as a whole -/

/-- **The check of a tree is sound and complete.**  A tree passes exactly if it is consistent;
otherwise the fault told is the one that is looked for first.  In whatever order its nodes stand,
the verdict is the same. -/
theorem validate_exact (tree : Tree) :
    (tree.validate = .ok () ↔ tree.Consistent) ∧
    (∀ fault, tree.validate = .error fault ↔ tree.FirstFault fault) ∧
    ∀ nodes, nodes.Perm tree.nodes → SameVerdict tree { tree with nodes } :=
  ⟨validate_eq_ok_iff, fun _ => validate_eq_error_iff, fun _ hperm =>
    Reordered.sameVerdict ⟨rfl, rfl, hperm⟩⟩

/-- Two nodes that get `2 ^ 64 + 3` together, the first of them without a proof. -/
def overfullNodes : List TreeNode :=
  [⟨.ofNumber 1, 18446744073709551615, none⟩, ⟨.ofNumber 2, 4, some []⟩]

/-- A tree of them that states what is left of the sum in a word. -/
def overfullTree : Tree := ⟨default, 0, 2, 3, overfullNodes⟩

/-- **A sum that only a wrapped word would match** is refused as an overflow, before the missing
proof is looked for, and refused in the other order of the nodes as well. -/
theorem validate_exact_of_overfull :
    overfullTree.validate = .error .totalOverflow ∧
    SameVerdict overfullTree { overfullTree with nodes := overfullNodes.reverse } := by
  have hfirst : overfullTree.FirstFault .totalOverflow := by
    have hamounts : 2 ^ 64 ≤ overfullTree.amounts := by decide
    refine ⟨hamounts, fun other hother => ?_⟩
    match other with
    | .tooManyNodes _ => exact absurd (hother.1 ▸ hother.2) (by decide)
    | .nodeCount _ _ => exact absurd (hother.1 ▸ hother.2.1 ▸ hother.2.2) (by decide)
    | .repeatedClaimant => exact absurd (by decide +kernel) hother
    | .totalOverflow => exact Nat.le_refl 3
    | .totalMismatch _ _ => exact Nat.le_succ 3
    | .missingProof _ => exact Nat.le_add_right 3 2
  exact ⟨((validate_exact overfullTree).2.1 _).2 hfirst,
    (validate_exact overfullTree).2.2 _ overfullNodes.reverse_perm⟩

end Tree

end Airdrop
