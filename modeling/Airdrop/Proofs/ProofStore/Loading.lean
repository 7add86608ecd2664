import Airdrop.Proofs.ProofStore
import Airdrop.Proofs.Result
import Airdrop.Proofs.Text.Utf8
import Mathlib.Data.List.Nodup
import Std.Data.HashMap.Lemmas
import Std.Data.HashSet.Lemmas

/-!
# Proofs/ProofStore/Loading — what becomes of a directory

A directory is flattened or refused, and which of the two does not depend on how the file system
lists it.  A file is **sound** (`Sound`) if it is a valid tree none of whose claimants is taken by a
file before it; otherwise one thing is wrong with it (`Faulty`).  Files are taken in the order of
their names, so a store holds the nodes of all files, or loading stops at **the first that is not
sound** (`FirstFault`).
-/

namespace Airdrop

/-- How many nodes a tree file states; one that is none states none. -/
def Tree.statedNodes (content : List UInt8) : Nat :=
  match Tree.ofDocument content with
  | .ok tree => tree.maxNodes.toNat
  | .error _ => 0

namespace Directory

variable {directory directory' : Directory}

/-- **The order of names**: byte by byte. -/
def NameBefore (name name' : String) : Prop :=
  Text.Utf8.encode name.toList < Text.Utf8.encode name'.toList

theorem nameBefore_iff {name name' : String} : NameBefore name name' ↔ name < name' :=
  Text.Utf8.encode_lt_encode_iff

theorem nameBefore_of_ne {name name' : String} (h : name ≠ name') :
    NameBefore name name' ∨ NameBefore name' name := by
  rw [nameBefore_iff, nameBefore_iff]
  by_contra hnot
  obtain ⟨hle', hle⟩ := not_or.1 hnot
  exact h (String.le_antisymm (String.not_lt.1 hle) (String.not_lt.1 hle'))

/-- A subdirectory that is found is there. -/
theorem mem_of_folder? : ∀ {directory : Directory} {name : String},
    directory.folder? = some name → (name, .folder) ∈ directory
  | (_, .folder) :: _, _, h => by
      cases h
      exact List.mem_cons_self
  | (_, .file _) :: rest, _, h => List.mem_cons_of_mem _ (@mem_of_folder? rest _ h)

/-- None is found only if there is none. -/
theorem folder?_eq_none_iff :
    directory.folder? = none ↔ ∀ name, (name, .folder) ∉ directory := by
  constructor
  · intro h name hmem
    obtain ⟨content, hcontent, -⟩ := ProofStore.exists_file_of_folder?_eq_none h hmem
    cases hcontent
  · intro h
    cases hfolder : directory.folder? with
    | none => rfl
    | some name => exact absurd (mem_of_folder? hfolder) (h name)

/-- Files have their names from the directory. -/
theorem names_files_sublist : ∀ directory : Directory,
    (directory.files.map Prod.fst).Sublist (directory.map Prod.fst)
  | [] => .slnil
  | (_, .folder) :: rest => .cons _ (names_files_sublist rest)
  | (_, .file _) :: rest => .cons_cons _ (names_files_sublist rest)

theorem sortedFiles_perm (directory : Directory) : directory.sortedFiles.Perm directory.files :=
  List.mergeSort_perm _ _

/-- Files with different names are sorted strictly. -/
theorem pairwise_sortedFiles (h : (directory.map Prod.fst).Nodup) :
    directory.sortedFiles.Pairwise fun file file' => NameBefore file.1 file'.1 := by
  have hle : directory.sortedFiles.Pairwise fun file file' => decide (file.1 ≤ file'.1) = true := by
    refine List.pairwise_mergeSort (fun a b c hab hbc => ?_) (fun a b => ?_) directory.files
    · simp only [decide_eq_true_eq] at *
      exact String.le_trans hab hbc
    · simpa using String.le_total a.1 b.1
  have hne : directory.sortedFiles.Pairwise fun file file' => file.1 ≠ file'.1 :=
    List.pairwise_map.1 (((sortedFiles_perm directory).map Prod.fst).nodup_iff.2
      (h.sublist (names_files_sublist directory)))
  refine (hle.and hne).imp fun {file file'} hboth => nameBefore_iff.2 ?_
  by_contra hlt
  exact hboth.2 (String.le_antisymm (decide_eq_true_eq.mp hboth.1) (String.not_lt.1 hlt))

/-- **So they are sorted in one way only.** -/
theorem sortedFiles_eq_of_perm (hperm : directory'.Perm directory)
    (h : (directory.map Prod.fst).Nodup) : directory'.sortedFiles = directory.sortedFiles := by
  have h' : (directory'.map Prod.fst).Nodup := (hperm.map Prod.fst).nodup_iff.2 h
  have hfiles : directory'.files.Perm directory.files := hperm.filterMap _
  refine List.Perm.eq_of_pairwise (fun file file' _ _ hlt hgt => ?_) (pairwise_sortedFiles h')
    (pairwise_sortedFiles h)
    ((sortedFiles_perm directory').trans (hfiles.trans (sortedFiles_perm directory).symm))
  exact absurd hgt (List.lt_asymm hlt)

end Directory

namespace ProofStore

open Directory

variable {store : ProofStore} {nodes : List TreeNode} {path : String}
  {files files' : List (String × List UInt8)} {file : String × List UInt8}
  {taken : Address → Prop} {e e' : LoadError}

/-! ## Trees -/

/-- **A valid tree** has as many nodes as it states, and each claimant once. -/
theorem nodes_of_validate {tree : Tree} (h : tree.validate = .ok ()) :
    tree.nodes.length = tree.maxNodes.toNat ∧ (tree.nodes.map TreeNode.claimant).Nodup :=
  have hconsistent := Tree.validate_eq_ok_iff.1 h
  ⟨hconsistent.counted, hconsistent.distinct⟩

/-! ## Nodes -/

@[simp] theorem size_empty : empty.size = 0 := Std.HashMap.size_empty

theorem size_insert_of_new {claimant : Address} (stored : Stored)
    (h : store.get? claimant = none) : (store.insert claimant stored).size = store.size + 1 := by
  have hmem : claimant ∉ store.entries := fun hmem => by
    rw [get?, Std.HashMap.getElem?_eq_some_getElem hmem] at h
    cases h
  rw [size, insert, Std.HashMap.size_insert, if_neg hmem]
  rfl

/-- The claimants of some nodes are taken. -/
def TakenBy (nodes : List TreeNode) (claimant : Address) : Prop :=
  ∃ node ∈ nodes, node.claimant = claimant

/-- A store that holds some nodes knows the claimants that they take. -/
theorem Holds.get?_eq_none_iff (h : store.Holds nodes) {claimant : Address} :
    store.get? claimant = none ↔ ¬ TakenBy nodes claimant := by
  have hnone : (nodes.filter fun node => node.claimant = claimant) = [] ↔
      ¬ TakenBy nodes claimant := by
    simp [TakenBy]
  rw [← hnone, h claimant]
  simp

/-- **Nodes with different claimants** are all added, or one of them was known before. -/
theorem addNodes_cases {added : List TreeNode} (h : (added.map TreeNode.claimant).Nodup) :
    (∃ store', addNodes path store added = .ok store' ∧
      store'.size = store.size + added.length ∧ ∀ node ∈ added, store.get? node.claimant = none) ∨
    ∃ before node after, added = before ++ node :: after ∧
      addNodes path store added = .error (.repeatedClaimant node.claimant path) ∧
      store.get? node.claimant ≠ none ∧ ∀ earlier ∈ before, store.get? earlier.claimant = none := by
  induction added generalizing store with
  | nil => exact .inl ⟨store, rfl, rfl, by simp⟩
  | cons node rest ih =>
    obtain ⟨hnode, hrest⟩ := List.nodup_cons.1 h
    cases hknown : store.get? node.claimant with
    | some stored =>
      exact .inr ⟨[], node, rest, rfl, by rw [addNodes, hknown], by rw [hknown]; simp, by simp⟩
    | none =>
      have hsame : ∀ other ∈ rest,
          (store.insert node.claimant ⟨node.amount, node.proof.getD []⟩).get? other.claimant =
            store.get? other.claimant := fun other hother =>
        get?_insert_of_ne store _ fun heq => hnode (heq ▸ List.mem_map_of_mem hother)
      have hstep : addNodes path store (node :: rest) = addNodes path
          (store.insert node.claimant ⟨node.amount, node.proof.getD []⟩) rest := by
        rw [addNodes, hknown]
      rcases ih hrest with
        ⟨store', hadd, hsize, hnew⟩ | ⟨before, twice, after, rfl, hadd, hold, hnew⟩
      · refine .inl ⟨store', hstep.trans hadd, ?_,
          List.forall_mem_cons.2 ⟨hknown, fun other hother => ?_⟩⟩
        · rw [hsize, size_insert_of_new _ hknown, List.length_cons]
          omega
        · rw [← hsame other hother, hnew other hother]
      · refine .inr ⟨node :: before, twice, after, rfl, hstep.trans hadd, ?_,
          List.forall_mem_cons.2 ⟨hknown, fun other hother => ?_⟩⟩
        · rwa [hsame twice (by simp)] at hold
        · rw [← hsame other (by simp [hother]), hnew other hother]

/-! ## One file -/

/-- **What is wrong with a file** when some claimants are taken: it is no tree, or one that
contradicts itself, or its first claimant that is taken. -/
inductive Faulty (path : String) (taken : Address → Prop) : String × List UInt8 → LoadError → Prop
  | malformed {name content failure} :
    Tree.ofDocument content = .error failure →
    Faulty path taken (name, content) (.malformedTree failure)
  | invalid {name content tree fault} :
    Tree.ofDocument content = .ok tree → tree.validate = .error fault →
    Faulty path taken (name, content) (.invalidTree fault)
  | repeated {name content tree before node after} :
    Tree.ofDocument content = .ok tree → tree.validate = .ok () →
    tree.nodes = before ++ node :: after → taken node.claimant →
    (∀ earlier ∈ before, ¬ taken earlier.claimant) →
    Faulty path taken (name, content) (.repeatedClaimant node.claimant (joinPath path name))

/-- **A sound file**: a valid tree, and none of its claimants is taken. -/
def Sound (taken : Address → Prop) (file : String × List UInt8) : Prop :=
  (∃ tree, Tree.ofDocument file.2 = .ok tree ∧ tree.validate = .ok ()) ∧
    ∀ node ∈ Tree.nodesOf file.2, ¬ taken node.claimant

theorem nodesOf_eq {content : List UInt8} {tree : Tree} (h : Tree.ofDocument content = .ok tree) :
    Tree.nodesOf content = tree.nodes := by
  rw [Tree.nodesOf, h]

theorem Sound.not_faulty (h : Sound taken file) : ¬ Faulty path taken file e := by
  obtain ⟨⟨tree, hread, hvalid⟩, hfree⟩ := h
  rintro (hbad | ⟨hread', hbad⟩ | ⟨hread', -, hnodes, htaken, -⟩)
  · rw [hread] at hbad
    cases hbad
  · cases hread.symm.trans hread'
    rw [hvalid] at hbad
    cases hbad
  · rw [nodesOf_eq hread', hnodes] at hfree
    exact hfree _ (by simp) htaken

/-- **One thing is wrong with a file.** -/
theorem Faulty.unique (h : Faulty path taken file e) (h' : Faulty path taken file e') : e = e' := by
  cases h with
  | malformed hread =>
    cases h' with
    | malformed hread' => cases hread.symm.trans hread'; rfl
    | invalid hread' | repeated hread' => cases hread.symm.trans hread'
  | invalid hread hfault =>
    cases h' with
    | malformed hread' => cases hread.symm.trans hread'
    | invalid hread' hfault' =>
      cases hread.symm.trans hread'
      cases hfault.symm.trans hfault'
      rfl
    | repeated hread' hvalid =>
      cases hread.symm.trans hread'
      cases hfault.symm.trans hvalid
  | repeated hread hvalid hnodes htaken hfree =>
    cases h' with
    | malformed hread' => cases hread.symm.trans hread'
    | invalid hread' hfault =>
      cases hread.symm.trans hread'
      cases hfault.symm.trans hvalid
    | repeated hread' hvalid' hnodes' htaken' hfree' =>
      cases hread.symm.trans hread'
      rw [TreeNode.first_unique (p := fun node => taken node.claimant) htaken htaken'
        (hnodes.symm.trans hnodes') hfree hfree']

/-- Loading ends with a file that is no valid tree, -/
theorem loadFiles_of_invalid {rest : List (String × List UInt8)}
    (hfile : validTree file.2 = .error e) (noted : List Event) :
    (loadFiles path noted store (file :: rest)).outcome = .error e := by
  rw [loadFiles, hfile]

/-- and with one that has a claimant known before; -/
theorem loadFiles_of_repeated {rest : List (String × List UInt8)} {tree : Tree}
    (hfile : validTree file.2 = .ok tree)
    (hadd : addNodes (joinPath path file.1) store tree.nodes = .error e) (noted : List Event) :
    (loadFiles path noted store (file :: rest)).outcome = .error e := by
  rw [loadFiles, hfile]
  dsimp only
  rw [hadd]

/-- after any other it goes on. -/
theorem exists_loadFiles_of_added {rest : List (String × List UInt8)} {tree : Tree}
    {store' : ProofStore} (hfile : validTree file.2 = .ok tree)
    (hadd : addNodes (joinPath path file.1) store tree.nodes = .ok store') (noted : List Event) :
    ∃ noted', loadFiles path noted store (file :: rest) = loadFiles path noted' store' rest := by
  rw [loadFiles, hfile]
  dsimp only
  rw [hadd]
  exact ⟨_, rfl⟩

/-- A file that is no valid tree is faulty, whatever is taken. -/
theorem faulty_of_validTree (h : validTree file.2 = .error e) : Faulty path taken file e := by
  unfold validTree at h
  split at h
  · next hread =>
    cases h
    exact .malformed hread
  · next hread =>
    split at h
    · next hvalid =>
      cases h
      exact .invalid hread hvalid
    · cases h

/-- **A file that comes after some nodes** is faulty, and loading ends with its fault; or it is
sound, and its nodes are held together with those before. -/
theorem Holds.loadFile (h : store.Holds nodes) (path : String) (file : String × List UInt8) :
    (∃ e, Faulty path (TakenBy nodes) file e ∧
      ∀ noted rest, (ProofStore.loadFiles path noted store (file :: rest)).outcome = .error e) ∨
    (Sound (TakenBy nodes) file ∧ ∃ store', store'.Holds (nodes ++ Tree.nodesOf file.2) ∧
      store'.size = store.size + Tree.statedNodes file.2 ∧
      ∀ noted rest, ∃ noted', ProofStore.loadFiles path noted store (file :: rest) =
        ProofStore.loadFiles path noted' store' rest) := by
  cases hfile : validTree file.2 with
  | error e => exact .inl ⟨e, faulty_of_validTree hfile, fun noted _ =>
      loadFiles_of_invalid hfile noted⟩
  | ok tree =>
    obtain ⟨hread, hvalid⟩ := validTree_eq_ok_iff.1 hfile
    obtain ⟨hlength, hdistinct⟩ := nodes_of_validate hvalid
    rcases addNodes_cases hdistinct with
      ⟨store', hadd, hsize, hnew⟩ | ⟨before, node, after, hnodes, hadd, hold, hnew⟩
    · rw [Sound, Tree.statedNodes, nodesOf_eq hread, hread]
      refine .inr ⟨⟨⟨tree, rfl, hvalid⟩, fun node hnode => ?_⟩, store', ?_, ?_, fun noted _ => ?_⟩
      · exact h.get?_eq_none_iff.1 (hnew node hnode)
      · exact h.addNodes (fun node => isSome_proof_of_validate hvalid) hadd
      · rw [hsize, hlength]
      · exact exists_loadFiles_of_added hfile hadd noted
    · have htaken : TakenBy nodes node.claimant :=
        not_not.1 fun hnot => hold (h.get?_eq_none_iff.2 hnot)
      have hfree : ∀ earlier ∈ before, ¬ TakenBy nodes earlier.claimant := fun earlier hearlier =>
        h.get?_eq_none_iff.1 (hnew earlier hearlier)
      exact .inl ⟨_, .repeated hread hvalid hnodes htaken hfree, fun noted _ =>
        loadFiles_of_repeated hfile hadd noted⟩

/-! ## All files -/

/-- The claimants of the files whose names come before one. -/
def TakenBefore (files : List (String × List UInt8)) (name : String) (claimant : Address) : Prop :=
  ∃ file ∈ files, NameBefore file.1 name ∧ TakenBy (Tree.nodesOf file.2) claimant

/-- **The fault that files have first**: that of a file all files before which are sound. -/
def FirstFault (path : String) (files : List (String × List UInt8)) (e : LoadError) : Prop :=
  ∃ file ∈ files, Faulty path (TakenBefore files file.1) file e ∧
    ∀ earlier ∈ files, NameBefore earlier.1 file.1 →
      Sound (TakenBefore files earlier.1) earlier

theorem takenBefore_perm (h : files'.Perm files) : TakenBefore files' = TakenBefore files := by
  funext name claimant
  simp only [TakenBefore, h.mem_iff]

theorem firstFault_perm (h : files'.Perm files) :
    FirstFault path files' e ↔ FirstFault path files e := by
  simp only [FirstFault, takenBefore_perm h, h.mem_iff]

theorem FirstFault.unique (hnames : (files.map Prod.fst).Nodup) (h : FirstFault path files e)
    (h' : FirstFault path files e') : e = e' := by
  obtain ⟨file, hfile, hfault, hsound⟩ := h
  obtain ⟨file', hfile', hfault', hsound'⟩ := h'
  by_cases hname : file.1 = file'.1
  · obtain rfl := List.inj_on_of_nodup_map hnames hfile hfile' hname
    exact hfault.unique hfault'
  · rcases nameBefore_of_ne hname with hbefore | hbefore
    · exact absurd hfault (hsound' file hfile hbefore).not_faulty
    · exact absurd hfault' (hsound file' hfile' hbefore).not_faulty

/-- Of sorted files, those with names before a file's come before it. -/
theorem mem_of_nameBefore {done rest : List (String × List UInt8)} {other : String × List UInt8}
    (h : (done ++ file :: rest).Pairwise fun file file' => NameBefore file.1 file'.1)
    (hother : other ∈ done ++ file :: rest) (hbefore : NameBefore other.1 file.1) :
    other ∈ done := by
  have hafter := (List.pairwise_cons.1 (List.pairwise_append.1 h).2.1).1
  rcases List.mem_append.1 hother with hother | hother
  · exact hother
  · rcases List.mem_cons.1 hother with rfl | hother
    · exact absurd hbefore (List.lt_irrefl _)
    · exact absurd hbefore (List.lt_asymm (hafter other hother))

/-- So what is taken before a file is what the files before it take. -/
theorem takenBefore_eq {done rest : List (String × List UInt8)}
    (h : (done ++ file :: rest).Pairwise fun file file' => NameBefore file.1 file'.1) :
    TakenBefore (done ++ file :: rest) file.1 =
      TakenBy (done.flatMap fun file => Tree.nodesOf file.2) := by
  have hdone := (List.pairwise_append.1 h).2.2
  funext claimant
  refine propext ⟨?_, ?_⟩
  · rintro ⟨other, hother, hbefore, node, hnode, hclaimant⟩
    have hmem := mem_of_nameBefore h hother hbefore
    exact ⟨node, List.mem_flatMap.2 ⟨other, hmem, hnode⟩, hclaimant⟩
  · rintro ⟨node, hnode, hclaimant⟩
    obtain ⟨other, hother, hnode⟩ := List.mem_flatMap.1 hnode
    exact ⟨other, List.mem_append_left _ hother, hdone other hother file List.mem_cons_self,
      node, hnode, hclaimant⟩

/-- **What is told of sorted files**: they are sound, and the store has a claimant for each node
that they state; or the fault that they have first. -/
theorem loadFiles_told {all done : List (String × List UInt8)} {noted : List Event}
    (hsorted : all.Pairwise fun file file' => NameBefore file.1 file'.1)
    (hall : all = done ++ files)
    (hheld : store.Holds (done.flatMap fun file => Tree.nodesOf file.2))
    (hsize : store.size = (done.map fun file => Tree.statedNodes file.2).sum)
    (hsound : ∀ file ∈ done, Sound (TakenBefore all file.1) file) :
    (∃ store', (loadFiles path noted store files).outcome = .ok store' ∧
      store'.size = (all.map fun file => Tree.statedNodes file.2).sum ∧
      ∀ file ∈ all, Sound (TakenBefore all file.1) file) ∨
    ∃ e, (loadFiles path noted store files).outcome = .error e ∧ FirstFault path all e := by
  induction files generalizing done noted store with
  | nil =>
    obtain rfl : all = done := by simpa using hall
    exact .inl ⟨store, rfl, hsize, hsound⟩
  | cons file rest ih =>
    have htaken : TakenBefore all file.1 =
        TakenBy (done.flatMap fun file => Tree.nodesOf file.2) := by
      rw [hall] at hsorted ⊢
      exact takenBefore_eq hsorted
    rcases hheld.loadFile path file with ⟨e, hfault, hload⟩ | ⟨hfile, store', hheld', hsize', hload⟩
    · rw [← htaken] at hfault
      refine .inr ⟨e, hload noted rest, file, by simp [hall], hfault, ?_⟩
      intro earlier hearlier hbefore
      exact hsound earlier (mem_of_nameBefore (hall ▸ hsorted) (hall ▸ hearlier) hbefore)
    · obtain ⟨noted', hload⟩ := hload noted rest
      rw [hload]
      have hall' : all = (done ++ [file]) ++ rest := by rw [hall, List.append_assoc]; rfl
      refine ih hall' (by simpa using hheld') (by simp [hsize', hsize]) fun other hother => ?_
      rcases List.mem_append.1 hother with hother | hother
      · exact hsound other hother
      · obtain rfl := List.mem_singleton.1 hother
        rwa [htaken]

/-! ## Directories -/

/-- **Files of which no two share a claimant.** -/
def Apart (files : List (String × List UInt8)) : Prop :=
  ∀ file ∈ files, ∀ file' ∈ files, file.1 ≠ file'.1 → ∀ node ∈ Tree.nodesOf file.2,
    ∀ node' ∈ Tree.nodesOf file'.2, node.claimant ≠ node'.claimant

/-- **Files are all sound** exactly if they are valid trees and no two share a claimant. -/
theorem sound_iff : (∀ file ∈ files, Sound (TakenBefore files file.1) file) ↔
    (∀ file ∈ files, ∃ tree, Tree.ofDocument file.2 = .ok tree ∧ tree.validate = .ok ()) ∧
      Apart files := by
  constructor
  · intro hsound
    refine ⟨fun file hfile => (hsound file hfile).1, fun file hfile file' hfile' hname => ?_⟩
    intro node hnode node' hnode' hclaimant
    rcases nameBefore_of_ne hname with hbefore | hbefore
    · exact (hsound file' hfile').2 node' hnode' ⟨file, hfile, hbefore, node, hnode, hclaimant⟩
    · exact (hsound file hfile).2 node hnode ⟨file', hfile', hbefore, node', hnode', hclaimant.symm⟩
  · rintro ⟨hvalid, hapart⟩ file hfile
    refine ⟨hvalid file hfile, ?_⟩
    rintro node hnode ⟨other, hother, hbefore, node', hnode', hclaimant⟩
    have hname : other.1 ≠ file.1 := fun hname => by
      rw [hname] at hbefore
      exact List.lt_irrefl _ hbefore
    exact hapart other hother file hfile hname node' hnode' node hnode hclaimant

/-- **What becomes of a directory without subdirectories.** -/
theorem load_told (path : String) (hnames : (directory.map Prod.fst).Nodup)
    (hfolder : ∀ name, (name, .folder) ∉ directory) :
    (∃ store, (load path directory).outcome = .ok store ∧
      store.size = (directory.files.map fun file => Tree.statedNodes file.2).sum ∧
      ∀ file ∈ directory.files, Sound (TakenBefore directory.files file.1) file) ∨
    ∃ e, (load path directory).outcome = .error e ∧ FirstFault path directory.files e := by
  have hperm := sortedFiles_perm directory
  have hload : load path directory = loadFiles path [] empty directory.sortedFiles := by
    rw [load, folder?_eq_none_iff.2 hfolder]
  rw [hload]
  have htold := @loadFiles_told empty path _ _ [] [] (pairwise_sortedFiles hnames) rfl holds_empty
    size_empty (by simp)
  rcases htold with ⟨store, houtcome, hsize, hsound⟩ | ⟨e, houtcome, hfault⟩
  · refine .inl ⟨store, houtcome, ?_, fun file hfile => ?_⟩
    · rw [hsize]
      exact (hperm.map _).sum_nat
    · rw [← takenBefore_perm hperm]
      exact hsound file (hperm.mem_iff.2 hfile)
  · exact .inr ⟨e, houtcome, (firstFault_perm hperm).1 hfault⟩

/-- A subdirectory is refused, whatever else there is. -/
theorem load_of_folder (path : String) {name : String} (h : (name, .folder) ∈ directory) :
    ∃ first, (first, .folder) ∈ directory ∧
      load path directory = ⟨[], .error (.unexpectedDirectory (joinPath path first))⟩ := by
  cases hfolder : directory.folder? with
  | none => exact absurd h (folder?_eq_none_iff.1 hfolder name)
  | some first => exact ⟨first, mem_of_folder? hfolder, by rw [load, hfolder]⟩

theorem not_mem_folder_of_load (h : (load path directory).outcome = .ok store) (name : String) :
    (name, .folder) ∉ directory := fun hname => by
  obtain ⟨first, -, hload⟩ := load_of_folder path hname
  rw [hload] at h
  cases h

/-- **When there is a store.** -/
theorem exists_load_iff (hnames : (directory.map Prod.fst).Nodup) :
    (∃ store, (load path directory).outcome = .ok store) ↔
      (∀ name, (name, .folder) ∉ directory) ∧
      (∀ file ∈ directory.files, ∃ tree, Tree.ofDocument file.2 = .ok tree ∧
        tree.validate = .ok ()) ∧ Apart directory.files := by
  constructor
  · rintro ⟨store, hstore⟩
    have hfolder := not_mem_folder_of_load hstore
    refine ⟨hfolder, sound_iff.1 ?_⟩
    rcases load_told path hnames hfolder with ⟨-, -, -, hsound⟩ | ⟨e, he, -⟩
    · exact hsound
    · cases hstore.symm.trans he
  · rintro ⟨hfolder, hfiles⟩
    rcases load_told path hnames hfolder with ⟨store, hstore, -⟩ | ⟨e, -, file, hfile, hfault, -⟩
    · exact ⟨store, hstore⟩
    · exact absurd hfault (sound_iff.2 hfiles file hfile).not_faulty

/-- **How many claimants are in it.** -/
theorem size_of_load (hnames : (directory.map Prod.fst).Nodup)
    (h : (load path directory).outcome = .ok store) :
    store.size = (directory.files.map fun file => Tree.statedNodes file.2).sum := by
  rcases load_told path hnames (not_mem_folder_of_load h) with
    ⟨store', hstore', hsize, -⟩ | ⟨e, he, -⟩
  · cases h.symm.trans hstore'
    exact hsize
  · cases h.symm.trans he

/-- **Why there is none.** -/
theorem load_eq_error_iff (hnames : (directory.map Prod.fst).Nodup)
    (hfolder : ∀ name, (name, .folder) ∉ directory) :
    (load path directory).outcome = .error e ↔ FirstFault path directory.files e := by
  have hfiles := hnames.sublist (names_files_sublist directory)
  rcases load_told path hnames hfolder with ⟨store, hstore, -, hsound⟩ | ⟨e', he', hfault'⟩
  · refine ⟨fun he => (nomatch hstore.symm.trans he), ?_⟩
    rintro ⟨file, hfile, hfault, -⟩
    exact absurd hfault (hsound file hfile).not_faulty
  · refine ⟨fun he => ?_, fun hfault => ?_⟩
    · cases he.symm.trans he'
      exact hfault'
    · rw [hfault.unique hfiles hfault', he']

/-- **The order of a directory does not matter**, but for which of several subdirectories is
named. -/
theorem load_perm (hnames : (directory.map Prod.fst).Nodup) (hperm : directory'.Perm directory) :
    load path directory' = load path directory ∨
      ∃ first first', first ≠ first' ∧
        (first, .folder) ∈ directory ∧ (first', .folder) ∈ directory ∧
        (load path directory).outcome = .error (.unexpectedDirectory (joinPath path first)) ∧
        (load path directory').outcome = .error (.unexpectedDirectory (joinPath path first')) := by
  cases hfolder : directory.folder? with
  | none =>
    have hfolder' : directory'.folder? = none := by
      rw [folder?_eq_none_iff] at hfolder ⊢
      exact fun name hname => hfolder name (hperm.mem_iff.1 hname)
    exact .inl (by rw [load, load, hfolder, hfolder', sortedFiles_eq_of_perm hperm hnames])
  | some name =>
    have hname := mem_of_folder? hfolder
    obtain ⟨first, hfirst, hload⟩ := load_of_folder path hname
    obtain ⟨first', hfirst', hload'⟩ := load_of_folder path (hperm.mem_iff.2 hname)
    rw [hload, hload']
    by_cases hsame : first = first'
    · exact .inl (by rw [hsame])
    · exact .inr ⟨first, first', hsame, hfirst, hperm.mem_iff.1 hfirst', rfl, rfl⟩

/-- **Flattening a directory loses, duplicates and invents nothing.**  A store is loaded exactly if
there is no subdirectory, every file is a valid tree, and no two files share a claimant; then it has
as many claimants as the files state nodes, and knows of each claimant the one node there is.  The
nodes of a valid tree all have proofs.  A subdirectory is refused in any case, and without one the
fault is that of the first file, by name, that has any.  The order of the directory only matters for
which of several subdirectories is named. -/
theorem load_flattens (path : String) (directory : Directory)
    (hnames : (directory.map Prod.fst).Nodup) :
    ((∃ store, (load path directory).outcome = .ok store) ↔
      (∀ name, (name, .folder) ∉ directory) ∧
      (∀ file ∈ directory.files, ∃ tree, Tree.ofDocument file.2 = .ok tree ∧
        tree.validate = .ok ()) ∧ Apart directory.files) ∧
    (∀ store, (load path directory).outcome = .ok store →
      store.size = (directory.files.map fun file => Tree.statedNodes file.2).sum ∧
      store.Holds directory.nodes) ∧
    (∀ content tree, validTree content = .ok tree → ∀ node ∈ tree.nodes, node.proof.isSome = true) ∧
    (∀ name, (name, .folder) ∈ directory → ∃ first, (first, .folder) ∈ directory ∧
      (load path directory).outcome = .error (.unexpectedDirectory (joinPath path first))) ∧
    ((∀ name, (name, .folder) ∉ directory) → ∀ e,
      (load path directory).outcome = .error e ↔ FirstFault path directory.files e) ∧
    ∀ directory' : Directory, directory'.Perm directory →
      load path directory' = load path directory ∨
      ∃ first first', first ≠ first' ∧
        (first, .folder) ∈ directory ∧ (first', .folder) ∈ directory ∧
        (load path directory).outcome = .error (.unexpectedDirectory (joinPath path first)) ∧
        (load path directory').outcome = .error (.unexpectedDirectory (joinPath path first')) := by
  refine ⟨exists_load_iff hnames, fun store hstore => ⟨size_of_load hnames hstore, ?_⟩, ?_, ?_,
    fun hfolder e => load_eq_error_iff hnames hfolder, fun directory' => load_perm hnames⟩
  · exact (load_eq_ok hstore).2
  · intro content tree htree node
    exact isSome_proof_of_validate (validTree_eq_ok_iff.1 htree).2
  · intro name hname
    obtain ⟨first, hfirst, hload⟩ := load_of_folder path hname
    exact ⟨first, hfirst, by rw [hload]⟩

/-- A tree of some nodes that states what they are. -/
def treeOf (nodes : List TreeNode) (total : UInt64) : Tree :=
  ⟨default, 0, .ofNat nodes.length, total, nodes⟩

theorem validate_treeOf {total : UInt64} (hlength : nodes.length < UInt32.size)
    (hdistinct : (nodes.map TreeNode.claimant).Nodup) (htotal : Tree.total? nodes = some total)
    (hproven : Tree.unproven? nodes = none) : (treeOf nodes total).validate = .ok () := by
  have hstated : (UInt64.ofNat nodes.length).toNat = nodes.length :=
    UInt64.toNat_ofNat_of_lt' (Nat.lt_trans hlength (by decide))
  exact Tree.validate_eq_ok_iff.2 ⟨hstated ▸ Nat.le_sub_one_of_lt hlength, hstated.symm, hdistinct,
    Tree.total?_eq_some_iff.1 htotal, Tree.unproven?_eq_none_iff.1 hproven⟩

/-- The file of a tree. -/
def fileOf (tree : Tree) : List UInt8 := Text.Utf8.encode (Json.Layout.pretty tree.tokens)

/-- A tree with one claimant. -/
def earlierTree : Tree := treeOf [⟨default, 5, some []⟩] 5

/-- A tree with two claimants, of which the second is that of the other tree. -/
def laterTree : Tree := treeOf [⟨.ofNumber 1, 2, some []⟩, ⟨default, 3, some []⟩] 5

/-- The files of both, listed the other way round. -/
def overlapping : Directory :=
  [("b", .file (fileOf laterTree)), ("a", .file (fileOf earlierTree))]

theorem ofDocument_earlierTree : Tree.ofDocument (fileOf earlierTree) = .ok earlierTree :=
  toOption_eq_some_iff.1 (by decide +kernel)

theorem ofDocument_laterTree : Tree.ofDocument (fileOf laterTree) = .ok laterTree :=
  toOption_eq_some_iff.1 (by decide +kernel)

theorem validate_earlierTree : earlierTree.validate = .ok () :=
  validate_treeOf (by decide) (by decide) (by decide +kernel) rfl

theorem validate_laterTree : laterTree.validate = .ok () :=
  validate_treeOf (by decide) (by decide +kernel) (by decide +kernel) rfl

theorem nameBefore_overlapping : NameBefore "a" "b" := nameBefore_iff.2 (by decide)

/-- Nothing is taken before the file with the earlier name, -/
theorem not_takenBefore_earlier (claimant : Address) :
    ¬ TakenBefore overlapping.files "a" claimant := by
  rintro ⟨file, hfile, hfirst, -⟩
  rcases List.mem_pair.1 hfile with rfl | rfl
  · exact List.lt_asymm nameBefore_overlapping hfirst
  · exact List.lt_irrefl _ hfirst

/-- and its one claimant before the other. -/
theorem takenBefore_later_iff (claimant : Address) :
    TakenBefore overlapping.files "b" claimant ↔ claimant = default := by
  have hnodes := nodesOf_eq ofDocument_earlierTree
  constructor
  · rintro ⟨file, hfile, hfirst, node, hnode, rfl⟩
    rcases List.mem_pair.1 hfile with rfl | rfl
    · exact absurd hfirst (List.lt_irrefl _)
    · obtain rfl := List.mem_singleton.1 (hnodes ▸ hnode)
      rfl
  · rintro rfl
    exact ⟨("a", fileOf earlierTree), List.mem_pair.2 (.inr rfl), nameBefore_overlapping,
      ⟨default, 5, some []⟩, hnodes ▸ List.mem_cons_self, rfl⟩

/-- So the file with the earlier name is sound, -/
theorem sound_earlier : Sound (TakenBefore overlapping.files "a") ("a", fileOf earlierTree) :=
  ⟨⟨earlierTree, ofDocument_earlierTree, validate_earlierTree⟩,
    fun node _ => not_takenBefore_earlier node.claimant⟩

/-- and the other repeats a claimant with its second node. -/
theorem faulty_later : Faulty "trees" (TakenBefore overlapping.files "b") ("b", fileOf laterTree)
    (.repeatedClaimant default (joinPath "trees" "b")) := by
  have hnodes : laterTree.nodes = [⟨.ofNumber 1, 2, some []⟩] ++ [⟨default, 3, some []⟩] := rfl
  refine .repeated ofDocument_laterTree validate_laterTree hnodes
    ((takenBefore_later_iff _).2 rfl) fun node hnode htaken => ?_
  obtain rfl := List.mem_singleton.1 hnode
  exact absurd ((takenBefore_later_iff _).1 htaken) (by decide +kernel)

/-- **A claimant in two files**: the one with the later name is refused, however they are listed. -/
theorem load_flattens_of_overlapping : (load "trees" overlapping).outcome =
    .error (.repeatedClaimant default "trees/b") := by
  have hpath : joinPath "trees" "b" = "trees/b" := by decide +kernel
  have herror := (load_flattens "trees" overlapping (by decide)).2.2.2.2.1 (by simp [overlapping])
  rw [← hpath]
  refine (herror _).2 ⟨("b", fileOf laterTree), List.mem_cons_self, faulty_later, ?_⟩
  intro file hfile hfirst
  rcases List.mem_pair.1 hfile with rfl | rfl
  · exact absurd hfirst (List.lt_irrefl _)
  · exact sound_earlier

end ProofStore

end Airdrop
