import Airdrop.Address
import Airdrop.Word
import Std.Data.HashSet

/-!
# Tree — what a merkle tree hands out

A tree lists its claimants with their amounts and proofs, and states how many there are and what
they get together.  `Tree.validate` checks those statements against the list; **the proofs are only
required to be there**, they are not recomputed.
-/

namespace Airdrop

/-- One claimant's place in a tree. -/
structure TreeNode where
  claimant : Address
  amount : UInt64
  /-- The sibling path from the leaf to the root, if it was recorded. -/
  proof : Option (List Digest)
  deriving DecidableEq

/-- **A merkle tree with everything needed to claim from it.** -/
structure Tree where
  root : Digest
  version : UInt64
  maxNodes : UInt64
  maxTotal : UInt64
  nodes : List TreeNode
  deriving DecidableEq

namespace Tree

/-- What is wrong with a tree, in the order in which it is looked for. -/
inductive Fault
  /-- It states more nodes than a tree of height 32 has. -/
  | tooManyNodes (stated : UInt64)
  /-- It has another number of nodes than it states. -/
  | nodeCount (actual : Nat) (stated : UInt64)
  /-- Two nodes have the same claimant. -/
  | repeatedClaimant
  /-- The amounts together are no 64-bit word. -/
  | totalOverflow
  /-- The amounts together are not what it states. -/
  | totalMismatch (actual stated : UInt64)
  /-- A node has no proof. -/
  | missingProof (claimant : Address)
  deriving DecidableEq

/-- The fault in words. -/
def Fault.message : Fault → String
  | .tooManyNodes stated => s!"Max num nodes {stated} is greater than 2^32 - 1"
  | .nodeCount actual stated => s!"Tree nodes length {actual} does not match max_num_nodes {stated}"
  | .repeatedClaimant => "Duplicate claimants found"
  | .totalOverflow => "Tree nodes sum overflows u64"
  | .totalMismatch actual stated =>
    s!"Tree nodes sum {actual} does not match max_total_claim {stated}"
  | .missingProof claimant => s!"Claimant {claimant} has no proof"

/-- The most nodes of a tree of height 32. -/
def nodeLimit : Nat := UInt32.size - 1

/-- What some nodes get together, unless that is `2 ^ 64` or more. -/
def total? (nodes : List TreeNode) : Option UInt64 := Word.sum? (nodes.map TreeNode.amount)

/-- Whether addresses differ from one another and from those `seen`. -/
def allDistinct (seen : Std.HashSet Address) : List Address → Bool
  | [] => true
  | a :: rest => !seen.contains a && allDistinct (seen.insert a) rest

/-- The first claimant without a proof. -/
def unproven? (nodes : List TreeNode) : Option Address :=
  (nodes.find? fun node => node.proof.isNone).map TreeNode.claimant

/-- **The structural check of a tree.** -/
def validate (tree : Tree) : Except Fault Unit :=
  if nodeLimit < tree.maxNodes.toNat then .error (.tooManyNodes tree.maxNodes)
  else if tree.nodes.length ≠ tree.maxNodes.toNat then
    .error (.nodeCount tree.nodes.length tree.maxNodes)
  else if !allDistinct ∅ (tree.nodes.map TreeNode.claimant) then .error .repeatedClaimant
  else match total? tree.nodes with
    | none => .error .totalOverflow
    | some total =>
      if total ≠ tree.maxTotal then .error (.totalMismatch total tree.maxTotal)
      else match unproven? tree.nodes with
        | some claimant => .error (.missingProof claimant)
        | none => .ok ()

end Tree

end Airdrop
