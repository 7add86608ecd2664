import Airdrop.Command.Run
import Airdrop.Proofs.Allocation
import Airdrop.Proofs.Amount
import Airdrop.Proofs.ProofStore
import Airdrop.Proofs.Verification.Check
import Airdrop.Proofs.Verification.Sequential

/-!
# Proofs/Command/Verify — what a verification that ends well has shown

The command reads an allocation list, perhaps the trees of a directory, and compares both with the
claim API, entry by entry.  `verify_sound` puts together what each of the three has shown by itself:
a list has an allocation for every record, a store holds the one node of a claimant, and **a run that
ends well has had an answer for every position, and every answer agrees**.
-/

namespace Airdrop

variable {σ : Type}

theorem Session.outcome_settle_eq_ok_iff {ε α : Type} {cause : ε → Cause} {result : Except ε α}
    {a : α} : (Session.settle cause result).outcome = .ok a ↔ result = .ok a := by
  rw [Session.settle, Traced.outcome_ofExcept, mapError_eq_ok_iff]

theorem Session.outcome_verified_eq_ok_iff {run : Verification.Run σ}
    {report : Verification.Report} :
    (Session.verified run).outcome = .ok report ↔ run.result = .ok report := by
  rw [Session.verified, mapError_eq_ok_iff]

namespace World

variable {w : World σ} {apiUrl table : String} {decimals : UInt32} {trees : Option String}
  {content : List UInt8}

/-- **There is a store exactly if a directory was given**, and it is that of the directory. -/
theorem storeOf_eq_ok {store : Option ProofStore} (h : w.storeOf trees = .ok store) :
    store.isSome = trees.isSome ∧ ∀ path, trees = some path → ∃ directory known,
      w.files.readDirectory path = .ok directory ∧ store = some known ∧
        (ProofStore.load path directory).outcome = .ok known := by
  cases trees with
  | none =>
    cases h
    exact ⟨rfl, nofun⟩
  | some path =>
    obtain ⟨known, hload, rfl⟩ := map_eq_ok_iff.1 h
    cases hread : w.files.readDirectory path with
    | error fault =>
      rw [hread] at hload
      cases hload
    | ok directory =>
      rw [hread] at hload
      refine ⟨rfl, fun path' hpath => ?_⟩
      cases hpath
      exact ⟨directory, known, hread, rfl, hload⟩

/-- **The steps of a verification that ends well.** -/
theorem exists_of_verify_ok (h : (w.verify apiUrl table decimals trees).outcome = .ok ()) :
    ∃ entries store api report,
      Allocation.load decimals.toNat (w.files.readFile table) = .ok entries ∧
      w.storeOf trees = .ok store ∧ w.apiAt apiUrl = .ok api ∧
      (Verification.run api {} store 0 w.memory entries).result = .ok report ∧
      (w.verify apiUrl table decimals trees).events =
        Session.callsOf (Verification.run api {} store 0 w.memory entries).journal ++
          [.printed (verifiedLine report store.isSome)] := by
  unfold verify at h ⊢
  obtain ⟨entries, hentries, h, hevents⟩ := Traced.exists_of_bind h
  obtain ⟨store, hstore, h, hevents'⟩ := Traced.exists_of_bind h
  obtain ⟨api, hapi, h, hevents''⟩ := Traced.exists_of_bind h
  obtain ⟨report, hreport, -, hevents'''⟩ := Traced.exists_of_bind h
  rw [Session.outcome_settle_eq_ok_iff] at hentries hstore
  rw [Traced.outcome_ofExcept] at hapi
  rw [Session.outcome_verified_eq_ok_iff] at hreport
  refine ⟨entries, store, api, report, hentries, hstore, hapi, hreport, ?_⟩
  rw [hevents, hevents', hevents'', hevents''']
  rfl

/-- …and these steps are all it takes. -/
theorem outcome_verify_of_steps {entries : List Allocation} {store : Option ProofStore}
    {api : Service σ} {report : Verification.Report}
    (hentries : Allocation.load decimals.toNat (w.files.readFile table) = .ok entries)
    (hstore : w.storeOf trees = .ok store) (hapi : w.apiAt apiUrl = .ok api)
    (hrun : (Verification.run api {} store 0 w.memory entries).result = .ok report) :
    (w.verify apiUrl table decimals trees).outcome = .ok () := by
  unfold verify
  rw [Traced.outcome_bind_of_ok (Session.outcome_settle_eq_ok_iff.2 hentries),
    Traced.outcome_bind_of_ok (Session.outcome_settle_eq_ok_iff.2 hstore),
    Traced.outcome_bind_of_ok ((Traced.outcome_ofExcept _).trans hapi),
    Traced.outcome_bind_of_ok (Session.outcome_verified_eq_ok_iff.2 hrun)]
  rfl

/-- **A verification that ends well has compared every record of the list.**  Of each data record
the claim API was asked for the address, and has answered with its very amount: the decimal in the
record, in units of `10 ^ -decimals`, rounded down.  If a directory was given, it has nothing but
valid trees in it, and among all their nodes together the address has exactly one, with this amount
and the proof of the answer.  As many users are told of as there are data records. -/
theorem verify_sound {σ : Type} (w : World σ) (apiUrl table : String) (decimals : UInt32)
    (trees : Option String) (content : List UInt8)
    (hfile : w.files.readFile table = .ok content)
    (hok : (w.verify apiUrl table decimals trees).outcome = .ok ()) :
    ∃ entries store api journal,
      Allocation.ofTable decimals.toNat content = .ok entries ∧ w.storeOf trees = .ok store ∧
      w.apiAt apiUrl = .ok api ∧
      (Verification.run api {} store 0 w.memory entries).journal = journal ∧
      (w.verify apiUrl table decimals trees).events = Session.callsOf journal ++
        [.printed ("Verification successfully completed! API data for " ++
          toString (Csv.data content).length ++ " users fully matches CSV " ++
          (if trees.isSome then "and merkle tree data." else "data."))] ∧
      (∀ path, trees = some path → ∃ directory, w.files.readDirectory path = .ok directory ∧
        ∀ entry ∈ directory, ∃ document tree, entry.2 = .file document ∧
          Tree.ofDocument document = .ok tree ∧ tree.validate = .ok ()) ∧
      ∀ (i : Nat) record, (Csv.data content)[i]? = some record →
        ∃ row address whole fraction claim,
          AllocationRow.ofRecord (Csv.header content) record = .ok row ∧
          Address.ofText row.address = .ok address ∧
          Amount.IsDecimal (Text.trim row.amount.toList) whole fraction ∧
          (∃ t, (⟨t, .called i address⟩ : Verification.Timed) ∈ journal) ∧
          Except.ok claim ∈ Verification.answers i journal ∧
          (∃ state attempt instant,
            (api.answer state ⟨i, address, attempt, instant⟩).1.outcome = .ok claim) ∧
          claim.amount.toNat =
            ⌊Amount.decimalValue whole fraction * 10 ^ decimals.toNat⌋₊ ∧
          ∀ path directory, trees = some path → w.files.readDirectory path = .ok directory →
            (directory.nodes.filter fun node => node.claimant = address) =
              [⟨address, claim.amount, some claim.proof⟩] := by
  obtain ⟨entries, store, api, report, hentries, hstore, hapi, hreport, hevents⟩ :=
    exists_of_verify_ok hok
  rw [hfile] at hentries
  have hentries : Allocation.ofTable decimals.toNat content = .ok entries := hentries
  obtain ⟨hlength, hrecords⟩ := Allocation.getElem?_of_ofTable hentries
  obtain ⟨rfl, hjudged⟩ :=
    Verification.judged_of_ok (Verification.keeps_produced api) hreport
  obtain ⟨hsome, hdirectory⟩ := storeOf_eq_ok hstore
  refine ⟨entries, store, api, (Verification.run api {} store 0 w.memory entries).journal, hentries,
    hstore, hapi, rfl, ?_, ?_, ?_⟩
  · refine hevents.trans (congrArg (fun line => _ ++ [Deed.printed line]) ?_)
    unfold verifiedLine
    rw [hlength, hsome]
  · intro path hpath
    obtain ⟨directory, known, hread, -, hload⟩ := hdirectory path hpath
    exact ⟨directory, hread, (ProofStore.load_eq_ok hload).1⟩
  · intro i record hi
    obtain ⟨row, entry, hentry, hrow, haddress, hamount⟩ := hrecords i record hi
    obtain ⟨-, whole, fraction, hdecimal, hvalue⟩ := Amount.scale_eq_ok_iff.1 hamount
    have hj := hjudged i entry hentry
    obtain ⟨claim, attempt, hanswer, ⟨state, instant, hproduced⟩, hcheck⟩ := hj.exists_claim
    obtain ⟨hequal, hknown⟩ := checkClaim_eq_ok_iff.1 hcheck
    refine ⟨row, entry.address, whole, fraction, claim, hrow, haddress, hdecimal, hj.exists_called,
      hanswer, ⟨state, attempt, instant, hproduced⟩, by rw [hequal, hvalue],
      fun path directory hpath hread => ?_⟩
    obtain ⟨directory', known, hread', hstored, hload⟩ := hdirectory path hpath
    obtain rfl : directory' = directory := Except.ok.inj (hread'.symm.trans hread)
    rw [(ProofStore.load_eq_ok hload).2 entry.address, hknown known hstored]
    rfl

/-! ## A world with one claimant -/

/-- A list of one record. -/
def onlyList : List UInt8 :=
  Text.Utf8.encode "pubkey,amount\n11111111111111111111111111111111,0.059\n".toList

/-- A tree of one claimant. -/
def onlyTree : Tree := ⟨default, 0, 1, 5, [⟨default, 5, some []⟩]⟩

/-- A directory of one tree. -/
def onlyDirectory : Directory :=
  [("tree", .file (Text.Utf8.encode (Json.Layout.pretty onlyTree.tokens)))]

/-- The world in which there is nothing else, and the API serves what the tree says. -/
def onlyClaimant : World Unit where
  files := ⟨fun _ => .ok onlyList, fun _ => .ok onlyDirectory⟩
  api _ := Verification.answering (fun _ _ _ => .ok ⟨default, 5, []⟩) fun _ _ => (0, ())
  memory := ()
  node := LedgerNode.unreachable

/-- Its store knows the claimant. -/
theorem storeOf_onlyClaimant : onlyClaimant.storeOf (some "trees") =
    .ok (some (ProofStore.empty.insert default ⟨5, []⟩)) := by
  have hread : Tree.ofDocument (Text.Utf8.encode (Json.Layout.pretty onlyTree.tokens)) =
      .ok onlyTree := toOption_eq_some_iff.1 (by decide +kernel)
  have hvalid : onlyTree.validate = .ok () := by
    have hdistinct : Tree.allDistinct ∅ (onlyTree.nodes.map TreeNode.claimant) = true := by
      simp [onlyTree, Tree.allDistinct]
    have htotal : Tree.total? onlyTree.nodes = some 5 := by decide +kernel
    rw [Tree.validate, if_neg (by decide), if_neg (by decide), hdistinct, htotal]
    rfl
  have hfiles : onlyDirectory.sortedFiles = onlyDirectory.files := by
    simp [Directory.sortedFiles, onlyDirectory, Directory.files]
  change (ProofStore.load "trees" onlyDirectory).outcome.map some = _
  rw [ProofStore.load, hfiles]
  change (ProofStore.loadFiles "trees" [] .empty [("tree", _)]).outcome.map some = _
  rw [ProofStore.loadFiles, ProofStore.validTree_eq_ok_iff.2 ⟨hread, hvalid⟩]
  dsimp only
  rw [onlyTree, ProofStore.addNodes, ProofStore.get?_empty]
  rfl

/-- A verification there ends well. -/
theorem verify_onlyClaimant :
    (onlyClaimant.verify "http://localhost" "list" 2 (some "trees")).outcome = .ok () := by
  have hentries : Allocation.load (2 : UInt32).toNat (onlyClaimant.files.readFile "list") =
      .ok [⟨default, 5⟩] := toOption_eq_some_iff.1 (by decide +kernel)
  have hcheck : (Endpoint.ofText "http://localhost").check = .ok () :=
    toOption_eq_some_iff.1 (by decide +kernel)
  have hapi : onlyClaimant.apiAt "http://localhost" =
      .ok (onlyClaimant.api (Endpoint.ofText "http://localhost")) := by
    rw [apiAt, hcheck]
  obtain ⟨report, hreport⟩ := (Verification.exists_report_iff (fun _ _ _ => .ok ⟨default, 5, []⟩)
    (fun (_ : Unit) _ => (0, ())) {} (some (ProofStore.empty.insert default ⟨5, []⟩)) 0 ()
    [⟨default, 5⟩]).2 fun i entry hi => by
      match i, hi with
      | 0, rfl => exact ⟨⟨default, 5, []⟩, rfl, checkClaim_eq_ok_iff.2 ⟨rfl, by simp⟩⟩
  exact outcome_verify_of_steps hentries storeOf_onlyClaimant hapi hreport

/-- **What it has shown there**: 0.059 with two decimals is 5, and the claimant's node has that. -/
theorem verify_sound_of_onlyClaimant :
    ∃ journal claim, (onlyClaimant.verify "http://localhost" "list" 2 (some "trees")).events =
        Session.callsOf journal ++ [.printed ("Verification successfully completed! API data " ++
          "for 1 users fully matches CSV and merkle tree data.")] ∧
      Except.ok claim ∈ Verification.answers 0 journal ∧
      claim.amount.toNat = ⌊Amount.decimalValue ['0'] ['0', '5', '9'] * 10 ^ 2⌋₊ ∧
      (onlyDirectory.nodes.filter fun node => node.claimant = default) =
        [⟨default, claim.amount, some claim.proof⟩] := by
  obtain ⟨_, _, _, journal, -, -, -, -, hevents, -, hrecords⟩ :=
    verify_sound onlyClaimant "http://localhost" "list" 2 (some "trees") onlyList rfl
      verify_onlyClaimant
  have hdata : Csv.data onlyList = [[List.replicate 32 0x31, [0x30, 0x2e, 0x30, 0x35, 0x39]]] := by
    decide +kernel
  have hrow : AllocationRow.ofRecord (Csv.header onlyList)
      [List.replicate 32 0x31, [0x30, 0x2e, 0x30, 0x35, 0x39]] =
        .ok ⟨"11111111111111111111111111111111", "0.059"⟩ := toOption_eq_some_iff.1 (by decide +kernel)
  have haddress : Address.ofText "11111111111111111111111111111111" = .ok default :=
    toOption_eq_some_iff.1 (by decide +kernel)
  obtain ⟨row, address, whole, fraction, claim, hrow', haddress', hdecimal, -, hanswer, -, hamount,
    hnode⟩ := hrecords 0 _ (by rw [hdata]; rfl)
  obtain rfl := Except.ok.inj (hrow.symm.trans hrow')
  obtain rfl := Except.ok.inj (haddress.symm.trans haddress')
  have hsplit : Amount.splitDot (Text.trim "0.059".toList) = (['0'], ['0', '5', '9']) := by
    decide +kernel
  obtain ⟨rfl, rfl⟩ := Prod.mk.inj (hsplit.symm.trans hdecimal.splitDot_eq)
  refine ⟨journal, claim, ?_, hanswer, hamount, hnode "trees" onlyDirectory rfl rfl⟩
  rw [hevents, hdata]
  rfl

end World

end Airdrop
