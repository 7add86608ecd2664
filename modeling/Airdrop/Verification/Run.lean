import Airdrop.Verification.Batch

/-!
# Verification/Run — an allocation list against the claim API

The list is cut into batches, which run **strictly one after another**, with a pause before each but
the first.  The first batch that fails ends the run with its error; a run that ends well has looked
every entry up.
-/

namespace Airdrop.Verification

/-- Cut a list into pieces of `width + 1` elements, the last one perhaps shorter. -/
def chunksOf {α : Type} (width : Nat) (list : List α) : List (List α) :=
  match list with
  | [] => []
  | a :: rest => (a :: rest.take width) :: chunksOf width (rest.drop width)
termination_by list.length
decreasing_by simp only [List.length_drop, List.length_cons]; omega

/-- **The batches of a list.** -/
def batches (c : Config) (entries : List Allocation) : List (List Allocation) :=
  chunksOf (c.width - 1) entries

/-- What a run that ended well has done. -/
structure Report where
  batches : Nat
  addresses : Nat
  deriving DecidableEq

/-- **What became of a run.** -/
structure Run (σ : Type) where
  result : Except VerificationError Report
  /-- When it was over. -/
  instant : Nat
  /-- The API afterwards. -/
  state : σ
  /-- What happened, first event first. -/
  journal : List Timed

variable {σ : Type}

/-- **The log of a run** over some entries. -/
def Run.log (c : Config) (entries : List Allocation) (done : Run σ) : List String :=
  logLines c (spanOf entries.length) (batches c entries).length done.journal

/-- A run that still has batches to do. -/
structure Progression (σ : Type) where
  /-- The batches and entries that agreed. -/
  report : Report
  instant : Nat
  state : σ
  /-- What has happened, last event first. -/
  journal : List Timed

/-- The pause before a batch, unless it is the first. -/
def Progression.pause (c : Config) (s : Progression σ) : Progression σ :=
  if s.report.batches = 0 then s
  else
    { s with
      instant := s.instant + c.batchDelay
      journal := ⟨s.instant, .waiting (s.report.batches + 1)⟩ :: s.journal }

/-- The announcement of a batch. -/
def Progression.announce (s : Progression σ) (size : Nat) : Progression σ :=
  { s with
    journal := ⟨s.instant, .fetching (s.report.batches + 1)⟩ ::
      ⟨s.instant, .pending (s.report.batches + 1) size⟩ :: s.journal }

/-- Run the next batch to its end. -/
def Progression.runBatch (service : Service σ) (c : Config) (store : Option ProofStore)
    (s : Progression σ) (batch : List Allocation) : BatchEnd σ :=
  Batch.run ⟨service, c, store, decide (narrowWidth < batch.length)⟩
    (Batch.start c s.report.addresses s.instant s.state s.journal batch)

/-- A batch has been checked. -/
def Progression.advance (s : Progression σ) (size : Nat) (done : BatchEnd σ) : Progression σ where
  report := ⟨s.report.batches + 1, s.report.addresses + size⟩
  instant := done.instant
  state := done.state
  journal := ⟨done.instant, .checked (s.report.batches + 1)⟩ :: done.journal

/-- All batches have been checked. -/
def Progression.finish (s : Progression σ) : Run σ :=
  let last : Timed := ⟨s.instant, .verified s.report.addresses s.report.batches⟩
  ⟨.ok s.report, s.instant, s.state, (last :: s.journal).reverse⟩

/-- A batch has failed. -/
def Progression.abort (s : Progression σ) (error : VerificationError) (done : BatchEnd σ) : Run σ :=
  let last : Timed := ⟨done.instant, .failed (s.report.batches + 1) error⟩
  ⟨.error error, done.instant, done.state, (last :: done.journal).reverse⟩

/-- Run the batches that are left. -/
def runBatches (service : Service σ) (c : Config) (store : Option ProofStore)
    (s : Progression σ) : List (List Allocation) → Run σ
  | [] => s.finish
  | batch :: rest =>
    let s := (s.pause c).announce batch.length
    let done := s.runBatch service c store batch
    match done.failure with
    | some error => s.abort error done
    | none => runBatches service c store (s.advance batch.length done) rest

/-- **Check an allocation list against the claim API**, and against a proof store if there is one,
beginning at an instant. -/
def run (service : Service σ) (c : Config) (store : Option ProofStore) (instant : Nat) (state : σ)
    (entries : List Allocation) : Run σ :=
  runBatches service c store ⟨⟨0, 0⟩, instant, state, []⟩ (batches c entries)

end Airdrop.Verification
