import Airdrop.Proofs.Json.Layout
import Airdrop.Proofs.Json.Reader
import Airdrop.Tree.File

/-!
# Proofs/Tree/File — a tree file is read as the tree that was written

Writing a tree and reading the file gives **the same tree in every field** (`file_round_trips`), valid or
not.  Two things may be missing from the file: the version, which is then zero, and the proof of a
node that has none.  Nothing else depends on the text either: any text that spells the same words is
read alike.
-/

namespace Airdrop

open Json

/-! ## Digests -/

theorem Digest.reads (digest : Digest) :
    Reads Digest.reader (Write.bytes digest.toList) digest := by
  have hbytes : List.Forall₂ (Reads Reader.byte)
      (digest.toList.map fun b => Write.natural b.toNat) digest.toList := by
    rw [List.forall₂_map_left_iff, List.forall₂_same]
    exact fun b _ => reads_byte b
  refine (reads_array hbytes).bind fun rest => ?_
  rw [Octets.ofList?_toList]
  rfl

theorem Digest.reads_list (digests : List Digest) :
    Reads (Reader.array Digest.reader) (Write.array (digests.map fun d => Write.bytes d.toList))
      digests := by
  refine reads_array ?_
  rw [List.forall₂_map_left_iff, List.forall₂_same]
  exact fun digest _ => Digest.reads digest

/-! ## Nodes -/

namespace TreeNode

/-- A proof as it is written. -/
def proofTokens : Option (List Digest) → List Token
  | none => [.null]
  | some proof => Write.array (proof.map fun digest => Write.bytes digest.toList)

/-- The members of a node as they are written. -/
def fields (node : TreeNode) : List (String × List Token) :=
  [("claimant", Write.bytes node.claimant.bytes), ("amount", Write.natural node.amount.toNat),
    ("proof", proofTokens node.proof)]

/-- **How a node may stand in a file**: with all its members, or without a proof that is null. -/
def WrittenAs (ts : List Token) (node : TreeNode) : Prop :=
  ts = node.tokens ∨
    node.proof = none ∧ ts = Write.object (node.fields.filter fun field => field.1 ≠ "proof")

theorem reads_proof (proof : Option (List Digest)) :
    Reads proofReader (proofTokens proof) proof := by
  match proof with
  | none => exact ⟨nofun, fun _ => rfl⟩
  | some proof =>
    have h := (Digest.reads_list proof).map some
    exact ⟨h.opens, h.eq_ok⟩

/-- The members of a node fill it, -/
theorem fills (node : TreeNode) :
    Fills members node.fields {} ⟨some node.claimant, some node.amount, some node.proof⟩ := by
  refine .cons rfl rfl (((Digest.reads node.claimant.octets).map Address.mk).map _) ?_
  refine .cons rfl rfl ((reads_word node.amount).map _) ?_
  exact .cons rfl rfl ((reads_proof node.proof).map _) (.nil _)

/-- …and so they do without a proof. -/
theorem fills_without_proof (node : TreeNode) :
    Fills members (node.fields.filter fun field => field.1 ≠ "proof") {}
      ⟨some node.claimant, some node.amount, none⟩ := by
  refine .cons rfl rfl (((Digest.reads node.claimant.octets).map Address.mk).map _) ?_
  exact .cons rfl rfl ((reads_word node.amount).map _) (.nil _)

/-- **A node is read, however it stands in the file.** -/
theorem WrittenAs.reads {ts : List Token} {node : TreeNode} (h : WrittenAs ts node) :
    Reads reader ts node := by
  obtain ⟨claimant, amount, proof⟩ := node
  rcases h with rfl | ⟨hproof, rfl⟩
  · exact (reads_record (fills _) rfl).bind fun _ => rfl
  · obtain rfl : proof = none := hproof
    exact (reads_record (fills_without_proof _) rfl).bind fun _ => rfl

theorem tidy_proofTokens (proof : Option (List Digest)) : Tidy (proofTokens proof) := by
  match proof with
  | none => exact Token.Writable.null.tidy
  | some proof => exact tidy_array (List.forall_mem_map.2 fun digest _ => tidy_bytes digest.toList)

theorem tidy_fields (node : TreeNode) : ∀ field ∈ node.fields, Tidy field.2 := by
  refine List.forall_mem_cons.2 ⟨tidy_bytes _, List.forall_mem_cons.2 ⟨tidy_natural _, ?_⟩⟩
  exact List.forall_mem_singleton.2 (tidy_proofTokens node.proof)

theorem WrittenAs.tidy {ts : List Token} {node : TreeNode} (h : WrittenAs ts node) : Tidy ts := by
  rcases h with rfl | ⟨-, rfl⟩
  · exact tidy_object (tidy_fields node)
  · exact tidy_object fun field hfield => tidy_fields node field (List.mem_of_mem_filter hfield)

end TreeNode

/-! ## Trees -/

namespace Tree

/-- The members of a tree as they are written, its nodes written as `nodes`. -/
def fieldsWith (tree : Tree) (nodes : List (List Token)) : List (String × List Token) :=
  [("merkle_root", Write.bytes tree.root.toList),
    ("airdrop_version", Write.natural tree.version.toNat),
    ("max_num_nodes", Write.natural tree.maxNodes.toNat),
    ("max_total_claim", Write.natural tree.maxTotal.toNat),
    ("tree_nodes", Write.array nodes)]

theorem tokens_eq (tree : Tree) :
    tree.tokens = Write.object (tree.fieldsWith (tree.nodes.map TreeNode.tokens)) := rfl

/-- **Every text of some tokens is read as a tree**: their pretty layout, and any other text that
spells them. -/
structure ReadFrom (ts : List Token) (tree : Tree) : Prop where
  pretty : ofDocument (Text.Utf8.encode (Layout.pretty ts)) = .ok tree
  spelled : ∀ document, Spelled ts document → ofDocument document = .ok tree

theorem readFrom_of_reads {ts : List Token} {tree : Tree} (h : Reads reader ts tree)
    (htidy : Tidy ts) : ReadFrom ts tree :=
  ⟨read_eq_ok h (spelled_pretty htidy).tokens_eq, fun _ hspelled => read_eq_ok h hspelled.tokens_eq⟩

variable {tree : Tree} {nodes : List (List Token)}

theorem reads_nodes (h : List.Forall₂ TreeNode.WrittenAs nodes tree.nodes) :
    Reads (Reader.array TreeNode.reader) (Write.array nodes) tree.nodes :=
  reads_array (h.imp fun _ _ => TreeNode.WrittenAs.reads)

/-- The members of a tree fill it, -/
theorem fills (h : List.Forall₂ TreeNode.WrittenAs nodes tree.nodes) :
    Fills members (tree.fieldsWith nodes) {} ⟨some tree.root, some tree.version,
      some tree.maxNodes, some tree.maxTotal, some tree.nodes⟩ := by
  refine .cons rfl rfl ((Digest.reads tree.root).map _) ?_
  refine .cons rfl rfl ((reads_word tree.version).map _) ?_
  refine .cons rfl rfl ((reads_word tree.maxNodes).map _) ?_
  refine .cons rfl rfl ((reads_word tree.maxTotal).map _) ?_
  exact .cons rfl rfl ((reads_nodes h).map _) (.nil _)

/-- …and so they do without a version. -/
theorem fills_without_version (h : List.Forall₂ TreeNode.WrittenAs nodes tree.nodes) :
    Fills members ((tree.fieldsWith nodes).filter fun field => field.1 ≠ "airdrop_version") {}
      ⟨some tree.root, none, some tree.maxNodes, some tree.maxTotal, some tree.nodes⟩ := by
  refine .cons rfl rfl ((Digest.reads tree.root).map _) ?_
  refine .cons rfl rfl ((reads_word tree.maxNodes).map _) ?_
  refine .cons rfl rfl ((reads_word tree.maxTotal).map _) ?_
  exact .cons rfl rfl ((reads_nodes h).map _) (.nil _)

theorem tidy_nodes : ∀ {nodes : List (List Token)} {list : List TreeNode},
    List.Forall₂ TreeNode.WrittenAs nodes list → ∀ ts ∈ nodes, Tidy ts
  | _, _, .nil => fun _ => nofun
  | _, _, .cons hnode hnodes => List.forall_mem_cons.2 ⟨hnode.tidy, tidy_nodes hnodes⟩

theorem tidy_fieldsWith (h : List.Forall₂ TreeNode.WrittenAs nodes tree.nodes) :
    ∀ field ∈ tree.fieldsWith nodes, Tidy field.2 := by
  refine List.forall_mem_cons.2 ⟨tidy_bytes _, List.forall_mem_cons.2 ⟨tidy_natural _, ?_⟩⟩
  refine List.forall_mem_cons.2 ⟨tidy_natural _, List.forall_mem_cons.2 ⟨tidy_natural _, ?_⟩⟩
  exact List.forall_mem_singleton.2 (tidy_array (tidy_nodes h))

theorem forall₂_tokens (tree : Tree) :
    List.Forall₂ TreeNode.WrittenAs (tree.nodes.map TreeNode.tokens) tree.nodes := by
  rw [List.forall₂_map_left_iff, List.forall₂_same]
  exact fun _ _ => .inl rfl

/-- A tree is read, however its nodes stand in the file, -/
theorem readFrom_fieldsWith (h : List.Forall₂ TreeNode.WrittenAs nodes tree.nodes) :
    ReadFrom (Write.object (tree.fieldsWith nodes)) tree :=
  readFrom_of_reads ((reads_record (fills h) rfl).bind fun _ => rfl)
    (tidy_object (tidy_fieldsWith h))

/-- …and with version zero if its version is left out. -/
theorem readFrom_without_version (h : List.Forall₂ TreeNode.WrittenAs nodes tree.nodes) :
    ReadFrom (Write.object ((tree.fieldsWith nodes).filter fun field => field.1 ≠ "airdrop_version"))
      { tree with version := 0 } :=
  readFrom_of_reads ((reads_record (fills_without_version h) rfl).bind fun _ => rfl)
    (tidy_object fun field hfield => tidy_fieldsWith h field (List.mem_of_mem_filter hfield))

/-- **Tree files round-trip.**  The file written of a tree is read as that tree.  It is read as the
same tree without the null proofs of any of its nodes, and as the same tree with version zero
without its version, whatever blanks the text has. -/
theorem file_round_trips (tree : Tree) :
    ofDocument (Text.Utf8.encode tree.document.toList) = .ok tree ∧
    ∀ nodes, List.Forall₂ TreeNode.WrittenAs nodes tree.nodes →
      ReadFrom (Write.object (tree.fieldsWith nodes)) tree ∧
      ReadFrom (Write.object ((tree.fieldsWith nodes).filter fun field =>
        field.1 ≠ "airdrop_version")) { tree with version := 0 } := by
  refine ⟨?_, fun nodes h => ⟨readFrom_fieldsWith h, readFrom_without_version h⟩⟩
  rw [document, String.toList_ofList, tokens_eq]
  exact (readFrom_fieldsWith tree.forall₂_tokens).pretty

/-- A node without a proof, and one with an empty proof. -/
def twoNodes : List TreeNode := [⟨default, 18446744073709551615, none⟩, ⟨default, 0, some []⟩]

/-- A tree of them that is not valid. -/
def unevenTree : Tree := ⟨default, 18446744073709551615, 7, 3, twoNodes⟩

theorem file_round_trips_of_two : ReadFrom
    (Write.object ((unevenTree.fieldsWith [
      Write.object (twoNodes[0].fields.filter fun field => field.1 ≠ "proof"),
      twoNodes[1].tokens]).filter fun field => field.1 ≠ "airdrop_version"))
    { unevenTree with version := 0 } :=
  ((file_round_trips unevenTree).2 _
    (.cons (.inr ⟨rfl, rfl⟩) (.cons (.inl rfl) .nil))).2

end Tree

end Airdrop
