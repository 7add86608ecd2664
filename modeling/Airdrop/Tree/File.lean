import Airdrop.Tree
import Airdrop.Json.Reader
import Airdrop.Json.Layout

/-!
# Tree/File — trees as documents

A tree file is one object.  Roots, claimants and proof nodes are arrays of 32 bytes.  **A version
left out is zero, a proof left out or null is none**; all else has to be there.
-/

namespace Airdrop

open Json

/-- An array of exactly 32 bytes. -/
def Digest.reader : Reader Digest := do
  let bytes ← Reader.array Reader.byte
  match Octets.ofList? 32 bytes with
  | some digest => return digest
  | none => Reader.malformed

namespace TreeNode

/-- A node being read. -/
structure Draft where
  claimant : Option Address := none
  amount : Option UInt64 := none
  proof : Option (Option (List Digest)) := none

/-- Null, or an array of digests. -/
def proofReader : Reader (Option (List Digest)) := fun
  | .null :: ts => .ok (none, ts)
  | ts => (some <$> Reader.array Digest.reader) ts

/-- The members of a node, in order. -/
def members : List (Reader.Member Draft) := [
  Reader.required "claimant" (·.claimant) (fun d v => { d with claimant := some v })
    (Address.mk <$> Digest.reader),
  Reader.required "amount" (·.amount) (fun d v => { d with amount := some v }) Reader.word,
  { Reader.required "proof" (·.proof) (fun d v => { d with proof := some v }) proofReader with
    optional := true }]

/-- The node that a draft has become. -/
def Draft.done (d : Draft) : Option TreeNode := do
  return ⟨← d.claimant, ← d.amount, d.proof.join⟩

/-- **A node.** -/
def reader : Reader TreeNode := do
  match (← Reader.record members {}).done with
  | some node => return node
  | none => Reader.malformed

/-- A node as tokens. -/
def tokens (node : TreeNode) : List Token :=
  Write.object [
    ("claimant", Write.bytes node.claimant.bytes),
    ("amount", Write.natural node.amount.toNat),
    ("proof", match node.proof with
      | none => [.null]
      | some proof => Write.array (proof.map fun digest => Write.bytes digest.toList))]

end TreeNode

namespace Tree

/-- A tree being read. -/
structure Draft where
  root : Option Digest := none
  version : Option UInt64 := none
  maxNodes : Option UInt64 := none
  maxTotal : Option UInt64 := none
  nodes : Option (List TreeNode) := none

/-- The members of a tree, in order. -/
def members : List (Reader.Member Draft) := [
  Reader.required "merkle_root" (·.root) (fun d v => { d with root := some v }) Digest.reader,
  { Reader.required "airdrop_version" (·.version) (fun d v => { d with version := some v })
      Reader.word with optional := true },
  Reader.required "max_num_nodes" (·.maxNodes) (fun d v => { d with maxNodes := some v })
    Reader.word,
  Reader.required "max_total_claim" (·.maxTotal) (fun d v => { d with maxTotal := some v })
    Reader.word,
  Reader.required "tree_nodes" (·.nodes) (fun d v => { d with nodes := some v })
    (Reader.array TreeNode.reader)]

/-- The tree that a draft has become. -/
def Draft.done (d : Draft) : Option Tree := do
  return ⟨← d.root, d.version.getD 0, ← d.maxNodes, ← d.maxTotal, ← d.nodes⟩

/-- **A tree.** -/
def reader : Reader Tree := do
  match (← Reader.record members {}).done with
  | some tree => return tree
  | none => Reader.malformed

/-- A tree as tokens. -/
def tokens (tree : Tree) : List Token :=
  Write.object [
    ("merkle_root", Write.bytes tree.root.toList),
    ("airdrop_version", Write.natural tree.version.toNat),
    ("max_num_nodes", Write.natural tree.maxNodes.toNat),
    ("max_total_claim", Write.natural tree.maxTotal.toNat),
    ("tree_nodes", Write.array (tree.nodes.map TreeNode.tokens))]

/-- **Read a tree file.** -/
def ofDocument (document : List UInt8) : Except Failure Tree := read reader document

/-- **The text of a tree file.** -/
def document (tree : Tree) : String := String.ofList (Layout.pretty tree.tokens)

end Tree

end Airdrop
