import Airdrop.Command.Run
import Airdrop.Proofs.Claim
import Airdrop.Proofs.Deployment.Assembly
import Airdrop.Proofs.Record

/-!
# Proofs/Command/Claim — a claim says what the claim API served, or is not made

The command asks the claim API, the ledger and the node before it makes a transaction.  What it has
to find is a `Preparation`: **without one it fails and no transaction is tried out or sent; with one
it handles a single transaction**, in its mode, and the last instruction of that transaction says the
amount and the proof that the API has served.  That the claim status and the token account have
derived addresses is not among what it has to find: zeros stand in for one that has not.
-/

namespace Airdrop

variable {σ : Type}

/-! ## Transactions of a session -/

/-- The transaction of a deed, if it is one, and what becomes of it. -/
def Deed.transaction? : Deed → Option (ClaimMode × List Instruction)
  | .simulated instructions => some (.simulate, instructions)
  | .sent instructions => some (.execute, instructions)
  | _ => none

namespace Session

variable {α β : Type} {s : Session α} {next : α → Session β}

/-- **The transactions of a session**, first one first. -/
def transactions (s : Session α) : List (ClaimMode × List Instruction) :=
  s.events.filterMap Deed.transaction?

/-- **A session fails** before it has made a transaction. -/
def Fails (s : Session α) : Prop := (∃ cause, s.outcome = .error cause) ∧ s.transactions = []

theorem transactions_bind (s : Session α) (next : α → Session β) :
    (s >>= next).transactions = s.transactions ++ match s.outcome with
      | .ok a => (next a).transactions
      | .error _ => [] := by
  rw [transactions, Traced.events_bind, List.filterMap_append]
  cases s.outcome <;> rfl

theorem transactions_bind_of_ok (hs : s.transactions = []) {a : α} (h : s.outcome = .ok a) :
    (s >>= next).transactions = (next a).transactions := by
  rw [transactions_bind, hs, h]
  rfl

/-- What follows a session without transactions fails, and so does all of it. -/
theorem Fails.bind (hs : s.transactions = []) (h : ∀ a, s.outcome = .ok a → (next a).Fails) :
    (s >>= next).Fails := by
  cases houtcome : s.outcome with
  | error cause =>
    refine ⟨⟨cause, ?_⟩, ?_⟩
    · rw [Traced.outcome_bind, houtcome]
      rfl
    · rw [transactions_bind, hs, houtcome]
      rfl
  | ok a =>
    obtain ⟨⟨cause, hcause⟩, hnone⟩ := h a houtcome
    exact ⟨⟨cause, (Traced.outcome_bind_of_ok houtcome).trans hcause⟩,
      (transactions_bind_of_ok hs houtcome).trans hnone⟩

/-! Questions are no transactions. -/

theorem transactions_inquire (q : Inquiry α) : (inquire q).transactions = [] := by
  rw [transactions, inquire, List.filterMap_map]
  exact List.filterMap_eq_nil_iff.2 fun _ _ => rfl

theorem transactions_found (lookup : Verification.Lookup σ) :
    (found lookup).transactions = [] := by
  rw [transactions, found, callsOf, List.filterMap_map]
  exact List.filterMap_eq_nil_iff.2 fun _ _ => rfl

theorem transactions_printAll (lines : List String) : (printAll lines).transactions = [] := by
  rw [transactions, printAll, List.filterMap_map]
  exact List.filterMap_eq_nil_iff.2 fun _ _ => rfl

theorem outcome_found_eq_ok_iff {lookup : Verification.Lookup σ} {claim : Claim} :
    (found lookup).outcome = .ok claim ↔ lookup.result = .ok claim := by
  rw [found, mapError_eq_ok_iff]

theorem outcome_inquire_eq_ok_iff {q : Inquiry α} {a : α} :
    (inquire q).outcome = .ok a ↔ q.outcome = .ok a := by
  rw [inquire, mapError_eq_ok_iff]

end Session

/-! ## Lookups -/

namespace Verification

/-- A lookup ends well with the claim that it was answered with, -/
theorem eq_ok_of_verdict {c : Config} {address : Address} {left : Nat} {outcome : Outcome}
    {claim : Claim} (h : verdict c address left outcome = .done (.ok claim)) :
    outcome = .ok claim := by
  match outcome, left with
  | .ok _, _ =>
    cases h
    rfl
  | .error fault, 0 => cases h
  | .error fault, left + 1 =>
    rw [verdict] at h
    split at h <;> cases h

/-- …so **what was found is the answer to a question**, the first one or one that was repeated. -/
theorem exists_answer_of_lookupFrom {service : Service σ} {c : Config} {position : Nat}
    {address : Address} {claim : Claim} (left : Nat) : ∀ {instant : Nat} {state : σ},
    (lookupFrom service c position address left instant state).result = .ok claim →
      ∃ state attempt instant,
        (service.answer state ⟨position, address, attempt, instant⟩).1.outcome = .ok claim := by
  induction left using Nat.strongRecOn with
  | ind left ih =>
    intro instant state h
    rw [lookupFrom] at h
    split at h
    · next result hverdict =>
      obtain rfl : result = .ok claim := h
      exact ⟨state, c.made left, instant, eq_ok_of_verdict hverdict⟩
    · next more fault hverdict => exact ih more (lt_of_verdict_again hverdict) h

/-- …and a lookup whose first question is answered with a claim has found it. -/
theorem result_lookup_of_answered {service : Service σ} {c : Config} {address : Address}
    {claim : Claim} {instant : Nat} {state : σ}
    (h : (service.answer state ⟨0, address, c.made (c.attempts - 1), instant⟩).1.outcome =
      .ok claim) : (lookup service c address instant state).result = .ok claim := by
  rw [lookup, lookupFrom]
  split
  · next result hverdict =>
    rw [h] at hverdict
    cases hverdict
    rfl
  · next hverdict =>
    rw [h] at hverdict
    cases hverdict

end Verification

namespace World

/-- **What a claim has to find**: a keypair, a usable claim API and what it serves for the keypair,
the distributor of that, the token account of the claimant if there is one, and a block.  Four bytes
have to count the nodes that were served (`countable`), or no instruction can say them. -/
structure Preparation (w : World σ) (i : Invocation) (apiUrl : String) where
  keypair : Keypair
  keypair_eq : w.keypair i = .ok keypair
  api : Service σ
  api_eq : w.apiAt apiUrl = .ok api
  claim : Claim
  lookup_eq : (Verification.lookup api {} keypair.address 0 w.memory).result = .ok claim
  account : Account
  account_eq : (w.node i.nodeUrl).ledger.read claim.distributor = .ok (some account)
  owner_eq : account.owner = i.program
  record : Distributor
  record_eq : Record.decode Distributor account.data = .ok record
  held : Option Account
  held_eq : (w.node i.nodeUrl).ledger.read
    (Address.tokenAccount keypair.address record.mint) = .ok held
  countable : claim.proof.length < 2 ^ 32
  block : Digest
  block_eq : (w.node i.nodeUrl).blockhash = .ok block

/-- What becomes of a transaction in a mode. -/
def handle (node : LedgerNode) (mode : ClaimMode) (transaction : List Instruction)
    (block : Digest) : Session Unit :=
  match mode with
  | .simulate => tryOut node transaction block
  | .execute => carryOut node transaction block

/-- **A transaction is handled once**, in its mode. -/
theorem transactions_handle (node : LedgerNode) (mode : ClaimMode)
    (transaction : List Instruction) (block : Digest) :
    (handle node mode transaction block).transactions = [(mode, transaction)] := by
  cases mode with
  | simulate =>
    rw [handle, tryOut, Session.transactions_bind]
    cases (Session.simulate node transaction block).outcome with
    | error cause => rfl
    | ok simulation =>
      dsimp only
      rw [Session.transactions_bind_of_ok (Session.transactions_printAll _) rfl]
      cases simulation.error <;> rfl
  | execute =>
    rw [handle, carryOut, Session.transactions_bind]
    cases (Session.send node transaction block).outcome <;> rfl

/-- …and well if the node says so. -/
theorem outcome_handle_eq_ok_iff {node : LedgerNode} {mode : ClaimMode}
    {transaction : List Instruction} {block : Digest} :
    (handle node mode transaction block).outcome = .ok () ↔ match mode with
      | .simulate => ∃ simulation, node.simulate transaction block = .ok simulation ∧
          simulation.error = none
      | .execute => ∃ signature, node.send transaction block = .ok signature := by
  cases mode with
  | simulate =>
    rw [handle, tryOut, Traced.outcome_bind, bind_eq_ok_iff]
    refine exists_congr fun simulation => and_congr_right fun _ => ?_
    rw [Traced.outcome_bind_of_ok rfl]
    cases simulation.error with
    | none => exact iff_of_true rfl rfl
    | some error => exact iff_of_false nofun nofun
  | execute =>
    rw [handle, carryOut, Traced.outcome_bind, bind_eq_ok_iff]
    exact exists_congr fun signature => and_iff_left rfl

variable {w : World σ} {i : Invocation} {apiUrl : String} {mode : ClaimMode} {multiplier : UInt64}

/-- **A claim without a preparation fails**, and nothing is tried out or sent. -/
theorem fails_claim (h : IsEmpty (Preparation w i apiUrl)) :
    (w.claim i apiUrl mode multiplier).Fails := by
  refine .bind rfl fun keypair hkeypair => ?_
  refine .bind rfl fun api hapi => ?_
  refine .bind (Session.transactions_found _) fun claim hclaim => ?_
  refine .bind (Session.transactions_inquire _) fun instructions hinstructions => ?_
  refine .bind rfl fun block hblock => ?_
  rw [Traced.outcome_ofExcept] at hkeypair hapi
  obtain ⟨record, held, instruction, hrecord, hheld, hinstruction, -⟩ :=
    Deployment.claimInstructions_eq_ok_iff.1 (Session.outcome_inquire_eq_ok_iff.1 hinstructions)
  obtain ⟨account, haccount, howner, hdecode⟩ :=
    Deployment.outcome_distributor_eq_ok_iff.1 hrecord
  have hcountable : claim.proof.length < UInt32.size :=
    Deployment.exists_claimInstruction_iff.1 ⟨instruction, hinstruction⟩
  exact (h.false ⟨keypair, hkeypair, api, hapi, claim, Session.outcome_found_eq_ok_iff.1 hclaim,
    account, haccount, howner, record, hdecode, held, hheld, hcountable, block, hblock⟩).elim

namespace Preparation

/-- With a preparation the claim can be put together. -/
theorem exists_claimInstructions (p : Preparation w i apiUrl) : ∃ instructions,
    ((w.deployment i).claimInstructions p.claim.distributor p.keypair.address p.claim.amount
      p.claim.proof).outcome = .ok instructions := by
  obtain ⟨instruction, hinstruction⟩ : ∃ instruction, (w.deployment i).claimInstruction
      p.claim.distributor p.keypair.address p.record p.claim.amount p.claim.proof =
        .ok instruction := Deployment.exists_claimInstruction_iff.2 p.countable
  exact ⟨_, Deployment.claimInstructions_eq_ok_iff.2 ⟨p.record, p.held, instruction,
    Deployment.outcome_distributor_eq_ok_iff.2 ⟨p.account, p.account_eq, p.owner_eq, p.record_eq⟩,
    p.held_eq, hinstruction, rfl⟩⟩

/-- **Then it is made and handled**, and nothing before it is a transaction. -/
theorem claim_eq_handled (p : Preparation w i apiUrl) {instructions : List Instruction}
    (h : ((w.deployment i).claimInstructions p.claim.distributor p.keypair.address p.claim.amount
      p.claim.proof).outcome = .ok instructions) :
    (w.claim i apiUrl mode multiplier).transactions =
        (handle (w.node i.nodeUrl) mode (budgetOf mode multiplier ++ instructions)
          p.block).transactions ∧
      (w.claim i apiUrl mode multiplier).outcome =
        (handle (w.node i.nodeUrl) mode (budgetOf mode multiplier ++ instructions)
          p.block).outcome := by
  have hkeypair : (Traced.ofExcept (w.keypair i) : Session Keypair).outcome = .ok p.keypair :=
    (Traced.outcome_ofExcept _).trans p.keypair_eq
  have hapi : (Traced.ofExcept (w.apiAt apiUrl) : Session (Service σ)).outcome = .ok p.api :=
    (Traced.outcome_ofExcept _).trans p.api_eq
  have hclaim := Session.outcome_found_eq_ok_iff.2 p.lookup_eq
  have hinstructions := Session.outcome_inquire_eq_ok_iff.2 h
  have hblock : (Session.blockhash (w.node i.nodeUrl)).outcome = .ok p.block := p.block_eq
  unfold World.claim
  constructor
  · rw [Session.transactions_bind_of_ok rfl hkeypair, Session.transactions_bind_of_ok rfl hapi,
      Session.transactions_bind_of_ok (Session.transactions_found _) hclaim,
      Session.transactions_bind_of_ok (Session.transactions_inquire _) hinstructions]
    exact Session.transactions_bind_of_ok rfl hblock
  · rw [Traced.outcome_bind_of_ok hkeypair, Traced.outcome_bind_of_ok hapi,
      Traced.outcome_bind_of_ok hclaim, Traced.outcome_bind_of_ok hinstructions]
    exact Traced.outcome_bind_of_ok hblock

/-- **A transaction is the claim that was served**: its instructions behind the budget, and in the
last of them the amount, nothing locked, and the nodes in order. -/
structure IsMade (p : Preparation w i apiUrl) (mode : ClaimMode) (multiplier : UInt64)
    (transaction : List Instruction) : Prop where
  parts : ∃ instructions, ((w.deployment i).claimInstructions p.claim.distributor
      p.keypair.address p.claim.amount p.claim.proof).outcome = .ok instructions ∧
    transaction = budgetOf mode multiplier ++ instructions
  last : ∃ claim arguments, transaction.getLast? = some claim ∧
    claim.data = Action.Kind.newClaim.tag.toList ++ arguments ∧
    Action.Kind.newClaim.ofArguments arguments = .ok (.newClaim p.claim.amount 0 p.claim.proof)

theorem isMade (p : Preparation w i apiUrl) {instructions : List Instruction}
    (h : ((w.deployment i).claimInstructions p.claim.distributor p.keypair.address p.claim.amount
      p.claim.proof).outcome = .ok instructions) :
    p.IsMade mode multiplier (budgetOf mode multiplier ++ instructions) := by
  refine ⟨⟨instructions, h, rfl⟩, ?_⟩
  obtain ⟨record, held, claim, -, -, hclaim, rfl⟩ := Deployment.claimInstructions_eq_ok_iff.1 h
  obtain ⟨arguments, hdata, harguments⟩ := Deployment.exists_arguments_of_claimInstruction hclaim
  refine ⟨claim, arguments, ?_, hdata, harguments⟩
  rw [← List.append_assoc, List.getLast?_concat]

end Preparation

/-- **What a claim pays for computing**: nothing when it is tried out; otherwise it says how much it
may use, and a price that is capped where 64 bits end. -/
theorem budgetOf_eq (multiplier : UInt64) : budgetOf .simulate multiplier = [] ∧
    ∃ limit price, budgetOf .execute multiplier =
        [⟨Budget.program, [], 2 :: limit⟩, ⟨Budget.program, [], 3 :: price⟩] ∧
      limit.length = 4 ∧ LittleEndian.valueOf limit = 1000000 ∧
      price.length = 8 ∧
      LittleEndian.valueOf price = min (5 * multiplier.toNat) (2 ^ 64 - 1) := by
  have hprice : Budget.price multiplier < 256 ^ 8 :=
    Nat.lt_of_le_of_lt (Nat.min_le_right _ _) (by decide)
  exact ⟨rfl, _, _, rfl, LittleEndian.length_bytesOf 4 _,
    LittleEndian.valueOf_bytesOf_of_lt (by decide), LittleEndian.length_bytesOf 8 _,
    LittleEndian.valueOf_bytesOf_of_lt hprice⟩

/-- **A claim says what the claim API served, or is not made.**  If the command does not find what
it needs, it fails and nothing is tried out or sent.  Otherwise it handles one transaction, in its
mode: the budget if it is to be sent, then the instructions that claim what the API has answered for
the keypair, the last of which says the amount and the nodes.  It ends well exactly if the node says
so.  And an answer on the web is the claim that its body serves, in whichever form each node is. -/
theorem claim_handles_what_was_served {σ : Type} (w : World σ) (i : Invocation) (apiUrl : String)
    (mode : ClaimMode) (multiplier : UInt64) :
    (IsEmpty (Preparation w i apiUrl) →
      (∃ cause, (w.claim i apiUrl mode multiplier).outcome = .error cause) ∧
        (w.claim i apiUrl mode multiplier).transactions = []) ∧
    (∀ p : Preparation w i apiUrl, ∃ transaction,
      (w.claim i apiUrl mode multiplier).transactions = [(mode, transaction)] ∧
      p.IsMade mode multiplier transaction ∧
      (∃ state attempt instant,
        (p.api.answer state ⟨0, p.keypair.address, attempt, instant⟩).1.outcome = .ok p.claim) ∧
      ((w.claim i apiUrl mode multiplier).outcome = .ok () ↔ match mode with
        | .simulate => ∃ simulation, (w.node i.nodeUrl).simulate transaction p.block =
            .ok simulation ∧ simulation.error = none
        | .execute => ∃ signature, (w.node i.nodeUrl).send transaction p.block =
            .ok signature)) ∧
    (budgetOf .simulate multiplier = [] ∧ ∃ limit price, budgetOf .execute multiplier =
        [⟨Budget.program, [], 2 :: limit⟩, ⟨Budget.program, [], 3 :: price⟩] ∧
      limit.length = 4 ∧ LittleEndian.valueOf limit = 1000000 ∧
      price.length = 8 ∧
      LittleEndian.valueOf price = min (5 * multiplier.toNat) (2 ^ 64 - 1)) ∧
    (∀ (e : Endpoint) (web : Net.Web) (call : Call) (response : Net.Response) ts served,
      web.get (e.userUrl call.address) = .ok response →
      200 ≤ response.status → response.status < 300 →
      Claim.Serves ts served → Json.Spelled ts response.body →
      ((e.service web).answer () call).1.outcome = .ok served) := by
  refine ⟨fails_claim, fun p => ?_, budgetOf_eq multiplier,
    fun e web call response ts served hget hstatus hstatus' hserves hbody => ?_⟩
  · obtain ⟨instructions, hinstructions⟩ := p.exists_claimInstructions
    obtain ⟨htransactions, houtcome⟩ := p.claim_eq_handled hinstructions
    refine ⟨budgetOf mode multiplier ++ instructions, ?_, p.isMade hinstructions,
      Verification.exists_answer_of_lookupFrom _ p.lookup_eq, ?_⟩
    · rw [htransactions, transactions_handle]
    · rw [houtcome, outcome_handle_eq_ok_iff]
  · change e.ask web call.address = .ok served
    rw [Endpoint.ask, hget]
    exact hserves.outcomeOf hbody hstatus hstatus'

/-! ## A world in which a claim is served -/

/-- Five units of the default distributor, with two nodes. -/
def servedClaim : Claim := ⟨default, 5, [.replicate 32 7, .replicate 32 171]⟩

/-- It is served with its first node in bytes, and its second in capitals behind a mark. -/
def servedTokens : List Json.Token :=
  Json.Write.object [("merkle_tree", Json.Write.text "11111111111111111111111111111111"),
    ("amount", Json.Write.natural 5),
    ("proof", Json.Write.array [Json.Write.bytes (.replicate 32 7),
      [.text (some (Claim.marked 1 ((Hex.encode (.replicate 32 171)).map Char.toUpper)))]])]

/-- The answer of every server there. -/
def servedResponse : Net.Response :=
  ⟨200, none, Text.Utf8.encode (Json.Layout.pretty servedTokens)⟩

/-- A keypair whose secret is all zeros. -/
def servedKeypair : String :=
  "[0,0,0,0,0,0,0,0,0,0,0,0,0,0,0,0,0,0,0,0,0,0,0,0,0,0,0,0,0,0,0,0,59,106,39,188,206,182,164,45," ++
    "98,163,168,208,42,111,13,115,101,50,21,119,29,226,67,166,58,192,72,161,139,89,218,41]"

/-- The address of that keypair. -/
def servedAddress : Address :=
  ⟨⟨[59, 106, 39, 188, 206, 182, 164, 45, 98, 163, 168, 208, 42, 111, 13, 115, 101, 50, 21, 119,
    29, 226, 67, 166, 58, 192, 72, 161, 139, 89, 218, 41], rfl⟩⟩

/-- The world with that keypair and these answers, in which every account is a distributor. -/
def servedWorld : World Unit where
  files := ⟨fun _ => .ok (Text.Utf8.encode servedKeypair.toList), fun _ => .error .notFound⟩
  api e := e.service fun _ => .ok servedResponse
  memory := ()
  node _ := {
    ledger := ⟨fun _ => .ok (some ⟨default, Record.encode ({} : Distributor)⟩), fun _ => .ok []⟩
    slot := .ok 0
    blockhash := .ok default
    simulate := fun _ _ => .ok ⟨[], none, none⟩
    send := fun _ _ => .ok "signature" }

/-- A claim that is sent there. -/
def servedInvocation : Invocation :=
  ⟨"http://localhost", default, some "id.json", .claim "http://localhost" .execute 3⟩

theorem serves_servedTokens : Claim.Serves servedTokens servedClaim :=
  ⟨"11111111111111111111111111111111", _, toOption_eq_some_iff.1 (by decide +kernel),
    .cons (.bytes (.replicate 32 7)) (.cons (.text 1 (Hex.spells_encode _)) .nil), rfl⟩

theorem spelled_servedResponse : Json.Spelled servedTokens servedResponse.body := by
  refine Json.spelled_pretty (Json.tidy_object (List.forall_mem_cons.2 ⟨Json.tidy_text _, ?_⟩))
  refine List.forall_mem_cons.2 ⟨Json.tidy_natural _,
    List.forall_mem_singleton.2 (Json.tidy_array ?_)⟩
  exact List.forall_mem_cons.2 ⟨Json.tidy_bytes _,
    List.forall_mem_singleton.2 (Json.Token.Writable.text _).tidy⟩

theorem keypair_servedWorld : ∃ keypair, servedWorld.keypair servedInvocation = .ok keypair ∧
    keypair.address = servedAddress := by
  have haddress : (servedWorld.keypair servedInvocation).toOption.map Keypair.address =
      some servedAddress := by decide +kernel
  obtain ⟨keypair, hkeypair, hequal⟩ := Option.map_eq_some_iff.1 haddress
  exact ⟨keypair, toOption_eq_some_iff.1 hkeypair, hequal⟩

theorem get_servedResponse :
    Net.Web.get (fun _ => .ok servedResponse)
      ((Endpoint.ofText "http://localhost").userUrl servedAddress) = .ok servedResponse := by
  have hread : (Net.Request.read
      ((Endpoint.ofText "http://localhost").userUrl servedAddress)).toOption.isSome := by
    decide +kernel
  obtain ⟨url, hurl⟩ := Option.isSome_iff_exists.1 hread
  rw [Net.Web.get, toOption_eq_some_iff.1 hurl]
  rfl

/-- Of the preparation there, the claim is what was served. -/
theorem exists_preparation_servedWorld (hanswer : ∀ attempt,
    (((Endpoint.ofText "http://localhost").service fun _ => .ok servedResponse).answer ()
      ⟨0, servedAddress, attempt, 0⟩).1.outcome = .ok servedClaim) :
    ∃ p : Preparation servedWorld servedInvocation "http://localhost", p.claim = servedClaim := by
  obtain ⟨keypair, hkeypair, haddress⟩ := keypair_servedWorld
  have hcheck : (Endpoint.ofText "http://localhost").check = .ok () :=
    toOption_eq_some_iff.1 (by decide +kernel)
  have hrecord : Record.decode Distributor (Record.encode ({} : Distributor)) = .ok {} := by
    have hdecode := Record.decode_encode_append Distributor.inverts_take {} []
    rwa [List.append_nil] at hdecode
  refine ⟨{
    keypair := keypair
    keypair_eq := hkeypair
    api := servedWorld.api (Endpoint.ofText "http://localhost")
    api_eq := by rw [apiAt, hcheck]
    claim := servedClaim
    lookup_eq := Verification.result_lookup_of_answered (haddress ▸ hanswer _)
    account := ⟨default, Record.encode ({} : Distributor)⟩
    account_eq := rfl
    owner_eq := rfl
    record := {}
    record_eq := hrecord
    held := some ⟨default, Record.encode ({} : Distributor)⟩
    held_eq := rfl
    countable := by decide
    block := default
    block_eq := rfl }, rfl⟩

/-- **What is sent there**, and that nothing is tried out without a keypair. -/
theorem claim_handles_what_was_served_of_two :
    (∃ transaction claim arguments,
      (servedWorld.claim servedInvocation "http://localhost" .execute 3).transactions =
        [(.execute, transaction)] ∧
      transaction.getLast? = some claim ∧
      claim.data = Action.Kind.newClaim.tag.toList ++ arguments ∧
      Action.Kind.newClaim.ofArguments arguments =
        .ok (.newClaim 5 0 [.replicate 32 7, .replicate 32 171])) ∧
    (servedWorld.claim { servedInvocation with keypairPath := none } "http://localhost" .simulate
      3).transactions = [] := by
  obtain ⟨-, hmade, -, hserved⟩ :=
    claim_handles_what_was_served servedWorld servedInvocation "http://localhost" .execute 3
  obtain ⟨hfails, -⟩ := claim_handles_what_was_served servedWorld
    { servedInvocation with keypairPath := none } "http://localhost" .simulate 3
  obtain ⟨p, hclaim⟩ := exists_preparation_servedWorld fun attempt =>
    hserved (Endpoint.ofText "http://localhost") _ ⟨0, servedAddress, attempt, 0⟩ servedResponse _ _
      get_servedResponse (by decide) (by decide) serves_servedTokens spelled_servedResponse
  obtain ⟨transaction, htransaction, ⟨-, claim, arguments, hlast, hdata, harguments⟩, -⟩ := hmade p
  rw [hclaim] at harguments
  refine ⟨⟨transaction, claim, arguments, htransaction, hlast, hdata, harguments⟩,
    (hfails ⟨fun p => ?_⟩).2⟩
  have hkeypair := p.keypair_eq
  cases hkeypair

end World

end Airdrop
