import Airdrop.ProofStore
import Airdrop.Proofs.Tree.Validation
import Mathlib.Algebra.Order.Ring.Nat
import Mathlib.Data.List.Perm.Basic

/-!
# Proofs/ProofStore — what a loaded store knows

A store is built node by node, and refuses a claimant that it knows already.  So it **holds** the
nodes that went in (`Holds`): of every claimant it knows exactly the one node there is, with its
proof, or nothing if there is none.

A loaded directory (`load_eq_ok`) is therefore flattened without loss: its files are all valid trees,
and the store holds the nodes of all of them together (`Directory.nodes`).
-/

namespace Airdrop

/-- The nodes of a tree file; one that is none has no nodes. -/
def Tree.nodesOf (content : List UInt8) : List TreeNode :=
  match Tree.ofDocument content with
  | .ok tree => tree.nodes
  | .error _ => []

/-- **The nodes of all tree files of a directory.** -/
def Directory.nodes (directory : Directory) : List TreeNode :=
  directory.files.flatMap fun file => Tree.nodesOf file.2

namespace ProofStore

variable {store store' : ProofStore} {nodes : List TreeNode}

@[simp] theorem get?_empty (claimant : Address) : empty.get? claimant = none := by
  simp [get?, empty]

@[simp] theorem get?_insert_self (store : ProofStore) (claimant : Address) (stored : Stored) :
    (store.insert claimant stored).get? claimant = some stored := by
  simp [get?, insert]

theorem get?_insert_of_ne (store : ProofStore) {claimant other : Address} (stored : Stored)
    (h : other ≠ claimant) : (store.insert claimant stored).get? other = store.get? other := by
  simp [get?, insert, Std.HashMap.getElem?_insert, h.symm]

/-! ## Holding nodes -/

/-- **A store holds some nodes** if it knows of each claimant the one node that there is. -/
def Holds (store : ProofStore) (nodes : List TreeNode) : Prop :=
  ∀ claimant, (nodes.filter fun node => node.claimant = claimant) =
    (store.get? claimant).toList.map fun stored => ⟨claimant, stored.amount, some stored.proof⟩

theorem holds_empty : empty.Holds [] := fun claimant => by simp

/-- A new claimant's node goes in. -/
theorem Holds.insert (h : store.Holds nodes) {node : TreeNode}
    (hnew : store.get? node.claimant = none) (hproof : node.proof.isSome = true) :
    (store.insert node.claimant ⟨node.amount, node.proof.getD []⟩).Holds (nodes ++ [node]) := by
  intro claimant
  rw [List.filter_append, h claimant]
  by_cases hclaimant : node.claimant = claimant
  · subst hclaimant
    have hnode : node = ⟨node.claimant, node.amount, some (node.proof.getD [])⟩ := by
      obtain ⟨proof, hproof⟩ := Option.isSome_iff_exists.1 hproof
      cases node
      cases hproof
      rfl
    rw [hnew, get?_insert_self, List.filter_singleton]
    simpa using hnode
  · rw [get?_insert_of_ne _ _ (Ne.symm hclaimant)]
    simp [hclaimant]

/-- **Nodes that go in are held together with those before.** -/
theorem Holds.addNodes {path : String} {added : List TreeNode} (h : store.Holds nodes)
    (hproof : ∀ node ∈ added, node.proof.isSome = true)
    (hadd : ProofStore.addNodes path store added = .ok store') :
    store'.Holds (nodes ++ added) := by
  induction added generalizing store nodes with
  | nil =>
    cases hadd
    rwa [List.append_nil]
  | cons node rest ih =>
    rw [ProofStore.addNodes] at hadd
    split at hadd
    · cases hadd
    · next hnew =>
      have hnext := ih (h.insert hnew (hproof node (by simp)))
        (fun other hother => hproof other (by simp [hother])) hadd
      rwa [List.append_assoc] at hnext

/-! ## Files -/

/-- **A valid tree has a proof in every node.** -/
theorem isSome_proof_of_validate {tree : Tree} (h : tree.validate = .ok ()) {node : TreeNode}
    (hnode : node ∈ tree.nodes) : node.proof.isSome = true :=
  Option.isSome_iff_ne_none.2 ((Tree.validate_eq_ok_iff.1 h).proven node hnode)

theorem validTree_eq_ok_iff {content : List UInt8} {tree : Tree} :
    validTree content = .ok tree ↔ Tree.ofDocument content = .ok tree ∧ tree.validate = .ok () := by
  unfold validTree
  constructor
  · intro h
    split at h
    · cases h
    · next read hread =>
      split at h
      · cases h
      · next hvalid =>
        cases h
        exact ⟨hread, hvalid⟩
  · rintro ⟨hread, hvalid⟩
    simp [hread, hvalid]

/-- **Files loaded one after another**: all are valid trees, and their nodes are held. -/
theorem Holds.loadFiles {directory : String} {noted : List Event}
    {files : List (String × List UInt8)} (h : store.Holds nodes)
    (hload : (ProofStore.loadFiles directory noted store files).outcome = .ok store') :
    store'.Holds (nodes ++ files.flatMap fun file => Tree.nodesOf file.2) ∧
      ∀ file ∈ files, ∃ tree, validTree file.2 = .ok tree := by
  induction files generalizing store nodes noted with
  | nil =>
    cases hload
    exact ⟨by simpa using h, by simp⟩
  | cons file rest ih =>
    rw [ProofStore.loadFiles] at hload
    dsimp only at hload
    split at hload
    · cases hload
    · next tree htree =>
      obtain ⟨hread, hvalid⟩ := validTree_eq_ok_iff.1 htree
      have hnodes : Tree.nodesOf file.2 = tree.nodes := by rw [Tree.nodesOf, hread]
      split at hload
      · cases hload
      · next added hadded =>
        have hheld := h.addNodes (fun node => isSome_proof_of_validate hvalid) hadded
        obtain ⟨hrest, hfiles⟩ := ih hheld hload
        constructor
        · rwa [List.flatMap_cons, hnodes, ← List.append_assoc]
        · rintro other hother
          rcases List.mem_cons.1 hother with rfl | hother
          · exact ⟨tree, htree⟩
          · exact hfiles other hother

/-! ## Directories -/

/-- Without subdirectories there are files only. -/
theorem exists_file_of_folder?_eq_none {directory : Directory} (h : directory.folder? = none)
    {entry : String × Entry} (he : entry ∈ directory) :
    ∃ content, entry.2 = .file content ∧ (entry.1, content) ∈ directory.files := by
  induction directory with
  | nil => cases he
  | cons first rest ih =>
    obtain ⟨name, first⟩ := first
    cases first with
    | folder => cases h
    | file content =>
      rcases List.mem_cons.1 he with rfl | he
      · exact ⟨content, rfl, by simp [Directory.files]⟩
      · obtain ⟨content', hcontent, hmem⟩ := ih h he
        refine ⟨content', hcontent, ?_⟩
        rw [Directory.files, List.filterMap_cons]
        exact List.mem_cons_of_mem _ hmem

/-- What is held does not depend on the order of the nodes. -/
theorem Holds.perm {nodes' : List TreeNode} (h : store.Holds nodes) (hperm : nodes'.Perm nodes) :
    store.Holds nodes' := by
  intro claimant
  have hfilter := hperm.filter fun node => node.claimant = claimant
  rw [h claimant] at hfilter
  cases hknown : store.get? claimant with
  | none =>
    rw [hknown] at hfilter
    exact List.perm_nil.1 hfilter
  | some stored =>
    rw [hknown] at hfilter
    exact List.perm_singleton.1 hfilter

/-- **A directory that was loaded** has nothing but valid trees in it, and the store holds all their
nodes together. -/
theorem load_eq_ok {path : String} {directory : Directory}
    (h : (load path directory).outcome = .ok store) :
    (∀ entry ∈ directory, ∃ content tree, entry.2 = .file content ∧
      Tree.ofDocument content = .ok tree ∧ tree.validate = .ok ()) ∧
    store.Holds directory.nodes := by
  unfold load at h
  split at h
  · cases h
  · next hfolder =>
    have hperm : directory.sortedFiles.Perm directory.files := List.mergeSort_perm _ _
    obtain ⟨hheld, hfiles⟩ := holds_empty.loadFiles h
    refine ⟨fun entry he => ?_, hheld.perm (hperm.symm.flatMap_right _)⟩
    obtain ⟨content, hcontent, hmem⟩ := exists_file_of_folder?_eq_none hfolder he
    obtain ⟨tree, htree⟩ := hfiles _ (hperm.mem_iff.2 hmem)
    exact ⟨content, tree, hcontent, validTree_eq_ok_iff.1 htree⟩

end ProofStore

end Airdrop
