import Airdrop.LoadError
import Airdrop.Log
import Airdrop.Tree.File
import Std.Data.HashMap

/-!
# ProofStore — all trees of a directory in one map

A proof store answers what a claimant is to get, and with which proof, across every tree file of a
directory.  Loading it is **all or nothing**: a subdirectory, a file that is no valid tree, or a
claimant in two files, and there is no store.
-/

namespace Airdrop

/-- What a claimant is to get, and the proof. -/
structure Stored where
  amount : UInt64
  proof : List Digest
  deriving DecidableEq

/-- **What every claimant is to get.** -/
structure ProofStore where
  entries : Std.HashMap Address Stored

namespace ProofStore

/-- The store without claimants. -/
def empty : ProofStore := ⟨∅⟩

/-- What a claimant is to get. -/
def get? (store : ProofStore) (claimant : Address) : Option Stored := store.entries[claimant]?

/-- The number of claimants. -/
def size (store : ProofStore) : Nat := store.entries.size

/-- Put a claimant in, in place of what was there. -/
def insert (store : ProofStore) (claimant : Address) (stored : Stored) : ProofStore :=
  ⟨store.entries.insert claimant stored⟩

/-- The store of a list, where later entries win. -/
def ofList (entries : List (Address × Stored)) : ProofStore :=
  entries.foldl (fun store entry => store.insert entry.1 entry.2) empty

/-- **Add the nodes of one file**, unless one of the claimants is there already. -/
def addNodes (path : String) : ProofStore → List TreeNode → Except LoadError ProofStore
  | store, [] => .ok store
  | store, node :: rest =>
    match store.get? node.claimant with
    | some _ => .error (.repeatedClaimant node.claimant path)
    | none => addNodes path (store.insert node.claimant ⟨node.amount, node.proof.getD []⟩) rest

/-- A tree file, read and checked. -/
def validTree (content : List UInt8) : Except LoadError Tree :=
  match Tree.ofDocument content with
  | .error failure => .error (.malformedTree failure)
  | .ok tree =>
    match tree.validate with
    | .error fault => .error (.invalidTree fault)
    | .ok () => .ok tree

/-- What is worth noting while a store is loaded. -/
inductive Event
  | loaded (path : String) (nodes version : UInt64)
  | finished (claimants : Nat)
  deriving DecidableEq

/-- A note as a line. -/
def Event.line : Event → String
  | .loaded path nodes version =>
    Log.debug ("loaded " ++ Text.quote path ++ ": " ++ toString nodes ++ " nodes, version " ++
      toString version)
  | .finished claimants =>
    Log.info ("proof store loaded with " ++ toString claimants ++ " claimants")

/-- What became of loading, and what was noted on the way. -/
structure Loading where
  events : List Event
  outcome : Except LoadError ProofStore

/-- Load files one after another; `noted` holds the events so far, last one first. -/
def loadFiles (directory : String) (noted : List Event) (store : ProofStore) :
    List (String × List UInt8) → Loading
  | [] => ⟨(.finished store.size :: noted).reverse, .ok store⟩
  | (name, content) :: rest =>
    let path := joinPath directory name
    match validTree content with
    | .error e => ⟨noted.reverse, .error e⟩
    | .ok tree =>
      let noted := .loaded path tree.maxNodes tree.version :: noted
      match addNodes path store tree.nodes with
      | .error e => ⟨noted.reverse, .error e⟩
      | .ok store => loadFiles directory noted store rest

/-- **Load a directory.**  Subdirectories are looked for first; files are taken in the order of
their names. -/
def load (path : String) (directory : Directory) : Loading :=
  match directory.folder? with
  | some name => ⟨[], .error (.unexpectedDirectory (joinPath path name))⟩
  | none => loadFiles path [] empty directory.sortedFiles

/-- Load what may be no directory. -/
def loadFrom (path : String) : Except FileFault Directory → Loading
  | .ok directory => load path directory
  | .error fault => ⟨[], .error (.unreadable fault)⟩

end ProofStore

end Airdrop
