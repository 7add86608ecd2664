import Airdrop.Command.Program
import Airdrop.Proofs.Address.Text
import Airdrop.Proofs.Command.Claim
import Airdrop.Proofs.Deployment.Claimed
import Airdrop.Proofs.Json.Layout
import Airdrop.Proofs.Json.Reader
import Airdrop.Proofs.Verification.Retry

/-!
# Proofs/Command/Statuses — users are told about up to the first failure

A user who is told about is **visited**: the claim API is asked about the user, the ledger about the
claim that was served, and a line is printed (`Visit`).  A visit may fail at either question, and
then the command is over.

So what a run of the command does is what its visits do, one after another (`Reports`): those of the
longest prefix of the list whose visits succeed, and of the user behind it, if there is one.  The
proof goes down the list, with **the clock and the memory of the API general**, since every lookup
begins where the one before it ended (`stoodAfter`).
-/

namespace Airdrop

variable {σ : Type}

namespace Traced

variable {ω ε α β γ : Type} {work : Traced ω ε α} {next : α → Traced ω ε β}

theorem bind_of_ok {a : α} (h : work.outcome = .ok a) :
    work >>= next = ⟨work.events ++ (next a).events, (next a).outcome⟩ := by
  change work.andThen next = _
  rw [andThen, h]

theorem bind_of_error {e : ε} (h : work.outcome = .error e) :
    work >>= next = ⟨work.events, .error e⟩ := by
  change work.andThen next = _
  rw [andThen, h]

theorem bind_assoc (work : Traced ω ε α) (next : α → Traced ω ε β) (after : β → Traced ω ε γ) :
    work >>= next >>= after = work >>= fun a => next a >>= after := by
  cases hwork : work.outcome with
  | error e => rw [bind_of_error hwork, bind_of_error rfl, bind_of_error hwork]
  | ok a =>
    rw [bind_of_ok hwork, bind_of_ok hwork]
    cases hnext : (next a).outcome with
    | error e => rw [bind_of_error rfl, bind_of_error hnext]
    | ok b => rw [bind_of_ok rfl, bind_of_ok hnext, List.append_assoc]

end Traced

/-- The line of a deed, if it is one. -/
def Deed.line? : Deed → Option String
  | .printed line => some line
  | _ => none

theorem Session.printed_eq {α : Type} (s : Session α) :
    s.printed = s.events.filterMap Deed.line? := rfl

namespace World

/-! ## One user -/

/-- **What is told of a user who is served a claim**: it has been claimed if the account of that
user's claim from that distributor is there and holds anything. -/
inductive Line (d : Deployment) (user : Address) (claim : Claim) : String → Prop
  | claimed {account : Account}
      (read : d.ledger.read (d.claimAccount user claim.distributor) = .ok (some account))
      (held : account.data ≠ []) :
      Line d user claim ("User " ++ user.text ++ " has already claimed their allocation: " ++
        toString claim.amount)
  | unclaimed {found : Option Account}
      (read : d.ledger.read (d.claimAccount user claim.distributor) = .ok found)
      (absent : ∀ account, found = some account → account.data = []) :
      Line d user claim ("User " ++ user.text ++ " has not claimed their allocation: " ++
        toString claim.amount)

/-- **A visit**: what came of a user whose claim was looked up, a line or a failure, and what was
done for it. -/
inductive Visit (d : Deployment) (user : Address) (looked : Verification.Lookup σ) :
    Except Cause String → List Deed → Prop
  | told {claim : Claim} {line : String} (served : looked.result = .ok claim)
      (line_is : Line d user claim line) :
      Visit d user looked (.ok line) (Session.callsOf looked.journal ++
        [.ledger (.read (d.claimAccount user claim.distributor)), .printed line])
  | unserved {error : VerificationError} (failed : looked.result = .error error) :
      Visit d user looked (.error error.cause) (Session.callsOf looked.journal)
  | unread {claim : Claim} {error : LedgerError} (served : looked.result = .ok claim)
      (failed : d.ledger.read (d.claimAccount user claim.distributor) = .error error) :
      Visit d user looked (.error error.cause) (Session.callsOf looked.journal ++
        [.ledger (.read (d.claimAccount user claim.distributor))])

section

variable {d : Deployment} {user : Address} {claim : Claim} {line : String}

theorem statusLine_true (user : Address) (amount : UInt64) : statusLine user amount true =
    "User " ++ user.text ++ " has already claimed their allocation: " ++ toString amount := by
  rw [statusLine, if_pos rfl, @String.append_assoc (_ ++ _) " has already"]
  rfl

theorem statusLine_false (user : Address) (amount : UInt64) : statusLine user amount false =
    "User " ++ user.text ++ " has not claimed their allocation: " ++ toString amount := by
  rw [statusLine, if_neg Bool.false_ne_true, @String.append_assoc (_ ++ _) " has not"]
  rfl

/-- **The line says what was found out.** -/
theorem line_iff : Line d user claim line ↔ ∃ claimed,
    (d.hasClaimed user claim.distributor).outcome = .ok claimed ∧
      statusLine user claim.amount claimed = line := by
  constructor
  · rintro (⟨hread, hheld⟩ | ⟨hread, habsent⟩)
    · refine ⟨true, Deployment.hasClaimed_eq_ok_iff.2 ⟨_, hread, ?_⟩, statusLine_true _ _⟩
      exact Account.isPresent_eq_true_iff.2 ⟨_, rfl, hheld⟩
    · refine ⟨false, Deployment.hasClaimed_eq_ok_iff.2 ⟨_, hread, ?_⟩, statusLine_false _ _⟩
      rw [Account.isPresent_eq_false_iff]
      exact (Option.eq_none_or_eq_some _).imp_right fun ⟨account, h⟩ => ⟨account, h, habsent _ h⟩
  · rintro ⟨claimed, hclaimed, rfl⟩
    obtain ⟨found, hread, hpresent⟩ := Deployment.hasClaimed_eq_ok_iff.1 hclaimed
    cases claimed with
    | true =>
      obtain ⟨account, rfl, hheld⟩ := Account.isPresent_eq_true_iff.1 hpresent
      rw [statusLine_true]
      exact .claimed hread hheld
    | false =>
      rw [statusLine_false]
      refine .unclaimed hread fun account hfound => ?_
      rcases Account.isPresent_eq_false_iff.1 hpresent with rfl | ⟨_, rfl, hempty⟩
      · cases hfound
      · cases hfound
        exact hempty

/-- **The line says that the claim was made exactly if the account holds anything.** -/
theorem line_claimed_iff : Line d user claim ("User " ++ user.text ++
      " has already claimed their allocation: " ++ toString claim.amount) ↔
    ∃ account, d.ledger.read (d.claimAccount user claim.distributor) = .ok (some account) ∧
      account.data ≠ [] := by
  constructor
  · generalize hline : "User " ++ user.text ++ " has already claimed their allocation: " ++
      toString claim.amount = line
    rintro (⟨hread, hheld⟩ | ⟨-, -⟩)
    · exact ⟨_, hread, hheld⟩
    · rw [String.append_left_inj, String.append_right_inj] at hline
      exact absurd hline (by decide)
  · rintro ⟨account, hread, hheld⟩
    exact .claimed hread hheld

end

/-- **Visit a user** whose claim was looked up, and tell the line. -/
def visit (d : Deployment) (user : Address) (looked : Verification.Lookup σ) : Session String := do
  let claim ← .found looked
  let claimed ← .inquire (d.hasClaimed user claim.distributor)
  .print (statusLine user claim.amount claimed)
  return statusLine user claim.amount claimed

namespace Visit

variable {d : Deployment} {user : Address} {looked : Verification.Lookup σ}
  {result result' : Except Cause String} {deeds deeds' : List Deed} {line : String} {cause : Cause}

theorem visit_eq (h : Visit d user looked result deeds) :
    visit d user looked = ⟨deeds, result⟩ := by
  cases h with
  | @unserved error hfailed =>
    have hfound : (Session.found looked).outcome = .error error.cause := by
      rw [Session.found, hfailed]
      rfl
    rw [visit, Traced.bind_of_error hfound]
    rfl
  | @told claim line hserved hline =>
    obtain ⟨claimed, hclaimed, rfl⟩ := line_iff.1 hline
    rw [visit, Traced.bind_of_ok (Session.outcome_found_eq_ok_iff.2 hserved),
      Traced.bind_of_ok (Session.outcome_inquire_eq_ok_iff.2 hclaimed), Session.inquire,
      Deployment.events_hasClaimed]
    rfl
  | @unread claim error hserved hfailed =>
    have hinquire : (Session.inquire (d.hasClaimed user claim.distributor)).outcome =
        .error error.cause := by
      rw [Session.inquire, Deployment.outcome_hasClaimed, hfailed]
      rfl
    rw [visit, Traced.bind_of_ok (Session.outcome_found_eq_ok_iff.2 hserved),
      Traced.bind_of_error hinquire, Session.inquire, Deployment.events_hasClaimed]
    rfl

/-- **Only one thing comes of a visit**, -/
theorem unique (h : Visit d user looked result deeds) (h' : Visit d user looked result' deeds') :
    result = result' ∧ deeds = deeds' := by
  cases h.visit_eq.symm.trans h'.visit_eq
  exact ⟨rfl, rfl⟩

/-- …and one thing does. -/
theorem exists_of_lookup (d : Deployment) (user : Address) (looked : Verification.Lookup σ) :
    (∃ line deeds, Visit d user looked (.ok line) deeds) ∨
      ∃ cause deeds, Visit d user looked (.error cause) deeds := by
  cases hserved : looked.result with
  | error error => exact .inr ⟨_, _, .unserved hserved⟩
  | ok claim =>
    cases hread : d.ledger.read (d.claimAccount user claim.distributor) with
    | error error => exact .inr ⟨_, _, .unread hserved hread⟩
    | ok found =>
      have hclaimed := Deployment.hasClaimed_eq_ok_iff.2 ⟨found, hread, rfl⟩
      exact .inl ⟨_, _, .told hserved (line_iff.2 ⟨_, hclaimed, rfl⟩)⟩

/-! Questions are no lines. -/

theorem lines_callsOf (journal : List Verification.Timed) :
    (Session.callsOf journal).filterMap Deed.line? = [] := by
  rw [Session.callsOf, List.filterMap_map]
  exact List.filterMap_eq_nil_iff.2 fun _ _ => rfl

theorem lines_of_told (h : Visit d user looked (.ok line) deeds) :
    deeds.filterMap Deed.line? = [line] := by
  cases h
  rw [List.filterMap_append, lines_callsOf]
  rfl

theorem lines_of_failed (h : Visit d user looked (.error cause) deeds) :
    deeds.filterMap Deed.line? = [] := by
  cases h with
  | unserved _ => exact lines_callsOf _
  | unread _ _ =>
    rw [List.filterMap_append, lines_callsOf]
    rfl

end Visit

/-! ## How a claim is looked up -/

/-- **A user is asked about**: only that user, at most five times.  The claim API gave the replies;
all but the last are failures that another try may mend, and the last one is the result. -/
structure Asked (api : Service σ) (user : Address) (begun : Nat) (looked : Verification.Lookup σ)
    (replies : List Reply) : Prop where
  few : replies.length ≤ 5
  called : ∃ instants : List Nat, instants.length = replies.length ∧
    Session.callsOf looked.journal = instants.map (Deed.called user)
  given : Verification.Given api {} 0 user begun replies
  concludes : Verification.Concludes {} user (replies.map Reply.outcome) looked.result

theorem callsOf_eq {journal : List Verification.Timed} {user : Address} {n : Nat}
    (h : (Verification.calls journal).map Prod.snd = List.replicate n user) :
    Session.callsOf journal =
      ((Verification.calls journal).map Prod.fst).map (Deed.called user) := by
  rw [Session.callsOf, List.map_map]
  refine List.map_congr_left fun call hcall => ?_
  have huser : call.2 = user :=
    List.eq_of_mem_replicate (h ▸ List.mem_map_of_mem (f := Prod.snd) hcall)
  rw [← huser]
  rfl

theorem exists_asked (api : Service σ) (user : Address) (begun : Nat) (state : σ) :
    ∃ replies, Asked api user begun (Verification.lookup api {} user begun state) replies := by
  obtain ⟨setbacks, last, hended⟩ := Verification.exists_ended_lookup api {} user begun state
  have hconcludes := hended.concludes
  rw [List.map_append, List.map_singleton] at hconcludes
  obtain ⟨hallowed, -, -⟩ := hconcludes.of_concat
  refine ⟨_, ?_, ⟨_, ?_, callsOf_eq hended.heard.called⟩, hended.heard.given, hended.concludes⟩
  · rw [List.length_map, List.length_map] at hallowed
    rw [List.length_append, List.length_singleton, List.length_map]
    exact hallowed
  · have hlength := congrArg List.length hended.heard.called
    rwa [List.length_map, List.length_replicate, ← List.length_map (f := Prod.fst)] at hlength

/-! ## Users one after another -/

/-- When the claim API is next asked, and what it remembers, after some users. -/
def stoodAfter (api : Service σ) (since : Nat × σ) (users : List Address) : Nat × σ :=
  users.foldl (fun since user =>
    let looked := Verification.lookup api {} user since.1 since.2
    (looked.instant, looked.state)) since

/-- **The lookup of a user after others.** -/
def lookupAfter (api : Service σ) (since : Nat × σ) (before : List Address) (user : Address) :
    Verification.Lookup σ :=
  Verification.lookup api {} user (stoodAfter api since before).1 (stoodAfter api since before).2

/-- A user ahead of the others is looked up first. -/
theorem lookupAfter_cons (api : Service σ) (since : Nat × σ) (user : Address)
    (before : List Address) (next : Address) : lookupAfter api since (user :: before) next =
      lookupAfter api (stoodAfter api since [user]) before next := rfl

/-- **A user is looked up when the lookup before has ended**, with what the API remembers then. -/
theorem stoodAfter_concat (api : Service σ) (since : Nat × σ) (before : List Address)
    (user : Address) : stoodAfter api since (before ++ [user]) =
      ((lookupAfter api since before user).instant, (lookupAfter api since before user).state) :=
  List.foldl_concat _ _ _ _

/-- **Users are told about by visiting the first one**, and then telling about the others. -/
theorem tellStatuses_cons (api : Service σ) (d : Deployment) (since : Nat × σ) (user : Address)
    (rest : List Address) :
    let after := stoodAfter api since [user]
    tellStatuses api d since.1 since.2 (user :: rest) =
      visit d user (lookupAfter api since [] user) >>= fun _ =>
        tellStatuses api d after.1 after.2 rest := by
  simp only [visit, Traced.bind_assoc]
  rfl

/-- **A session reports on users**: the first ones are told about, each in a visit, and it ends with
the last user or in the first visit that fails. -/
structure Reports (api : Service σ) (d : Deployment) (since : Nat × σ) (users : List Address)
    (told : List (String × List Deed)) (s : Session Unit) : Prop where
  visited : ∀ (k : Nat) line deeds, told[k]? = some (line, deeds) → ∃ user, users[k]? = some user ∧
    Visit d user (lookupAfter api since (users.take k) user) (.ok line) deeds
  ended : (told.length = users.length ∧ s = ⟨(told.map Prod.snd).flatten, .ok ()⟩) ∨
    ∃ user cause deeds, users[told.length]? = some user ∧
      Visit d user (lookupAfter api since (users.take told.length) user) (.error cause) deeds ∧
      s = ⟨(told.map Prod.snd).flatten ++ deeds, .error cause⟩

/-- **Telling about users reports on them.** -/
theorem exists_reports (api : Service σ) (d : Deployment) (users : List Address) :
    ∀ since : Nat × σ, ∃ told,
      Reports api d since users told (tellStatuses api d since.1 since.2 users) := by
  induction users with
  | nil => exact fun since => ⟨[], nofun, .inl ⟨rfl, rfl⟩⟩
  | cons user rest ih =>
    intro since
    rw [tellStatuses_cons]
    rcases Visit.exists_of_lookup d user (lookupAfter api since [] user) with
      ⟨line, deeds, hvisit⟩ | ⟨cause, deeds, hvisit⟩
    · -- The others are looked up from where this lookup has ended.
      obtain ⟨told, hvisited, hended⟩ := ih (stoodAfter api since [user])
      refine ⟨(line, deeds) :: told, fun k line' deeds' hk => ?_, ?_⟩
      · match k, hk with
        | 0, rfl => exact ⟨user, rfl, hvisit⟩
        | k + 1, hk =>
          obtain ⟨next, hnext, hvisit'⟩ := hvisited k line' deeds' hk
          exact ⟨next, hnext, by rwa [List.take_succ_cons, lookupAfter_cons]⟩
      · rw [hvisit.visit_eq, Traced.bind_of_ok rfl]
        rcases hended with ⟨hall, hsession⟩ | ⟨next, cause, deeds', hnext, hvisit', hsession⟩
        · exact .inl ⟨congrArg Nat.succ hall, by rw [hsession]; rfl⟩
        · refine .inr ⟨next, cause, deeds', hnext, ?_, ?_⟩
          · rwa [List.length_cons, List.take_succ_cons, lookupAfter_cons]
          · rw [hsession, List.map_cons, List.flatten_cons, List.append_assoc]
    · refine ⟨[], nofun, .inr ⟨user, cause, deeds, rfl, hvisit, ?_⟩⟩
      rw [hvisit.visit_eq]
      exact Traced.bind_of_error rfl

namespace Reports

variable {api : Service σ} {d : Deployment} {since : Nat × σ} {users : List Address}
  {told : List (String × List Deed)} {s : Session Unit}

/-- **One line is printed for each user told about**, and no other. -/
theorem printed (h : Reports api d since users told s) : s.printed = told.map Prod.fst := by
  have hlines : (told.map Prod.snd).flatten.filterMap Deed.line? = told.map Prod.fst := by
    rw [List.filterMap_flatten, List.map_map, ← List.flatMap_def, List.map_eq_flatMap]
    refine List.flatMap_congr fun entry hentry => ?_
    obtain ⟨k, hk⟩ := List.mem_iff_getElem?.1 hentry
    obtain ⟨user, -, hvisit⟩ := h.visited k _ _ hk
    exact hvisit.lines_of_told
  rw [Session.printed_eq]
  rcases h.ended with ⟨-, rfl⟩ | ⟨user, cause, deeds, -, hvisit, rfl⟩
  · exact hlines
  · rw [List.filterMap_append, hvisit.lines_of_failed, List.append_nil, hlines]

/-- **As many users as possible are told about.** -/
theorem longest (h : Reports api d since users told s) {n : Nat}
    (hn : ∀ k < n, ∃ user line deeds, users[k]? = some user ∧
      Visit d user (lookupAfter api since (users.take k) user) (.ok line) deeds) :
    n ≤ told.length := by
  by_contra hlt
  obtain ⟨user, line, deeds, huser, hvisit⟩ := hn told.length (Nat.lt_of_not_le hlt)
  rcases h.ended with ⟨hall, -⟩ | ⟨user', cause, deeds', huser', hvisit', -⟩
  · rw [hall, List.getElem?_eq_none (Nat.le_refl _)] at huser
    cases huser
  · cases huser.symm.trans huser'
    cases (hvisit.unique hvisit').1

/-- **The program ends well if all users are told about**, and prints those lines anyway. -/
theorem ending (h : Reports api d since users told s) :
    (Ending.ofSession s).output = Ending.textOf (told.map Prod.fst) ∧
      ((Ending.ofSession s).code = 0 ↔ told.length = users.length) := by
  rw [← h.printed]
  rcases h.ended with ⟨hall, rfl⟩ | ⟨user, cause, deeds, huser, -, rfl⟩
  · exact ⟨rfl, fun _ => hall, fun _ => rfl⟩
  · refine ⟨rfl, nofun, fun hall => ?_⟩
    rw [hall, List.getElem?_eq_none (Nat.le_refl _)] at huser
    cases huser

end Reports

/-! ## The users asked for -/

/-- **A file lists texts**: it holds a JSON array of them. -/
def Lists (w : World σ) (path : String) (texts : List String) : Prop :=
  ∃ text, w.files.readText path = .ok text ∧
    Json.read (Json.Reader.array Json.Reader.text) (Text.Utf8.encode text) = .ok texts

/-- The address that a text of a list is. -/
def listedAddress (text : String) : Except Cause Address :=
  (Address.ofText text).mapError fun fault =>
    ⟨"invalid address " ++ text ++ ": " ++ fault.message, []⟩

section

variable {w : World σ} {path : String} {texts : List String} {list : List Address}

/-- A file that holds a text is read as that text. -/
theorem readText_eq_ok {text : List Char}
    (h : w.files.readFile path = .ok (Text.Utf8.encode text)) :
    w.files.readText path = .ok text := by
  simp only [FileSystem.readText, h, bind, Except.bind, Text.Utf8.decode?_encode]
  rfl

/-- The blanks of the file do not matter. -/
theorem lists_of_spelled {text : List Char} (hread : w.files.readText path = .ok text)
    (h : Json.Spelled (Json.Write.array (texts.map Json.Write.text)) (Text.Utf8.encode text)) :
    w.Lists path texts := by
  have htexts : List.Forall₂ (Json.Reads Json.Reader.text) (texts.map Json.Write.text) texts :=
    List.forall₂_map_left_iff.2 (List.forall₂_same.2 fun text _ => Json.reads_text text)
  exact ⟨text, hread, Json.read_eq_ok (Json.reads_array htexts) h.tokens_eq⟩

/-- The texts of a file are read as addresses, one after another. -/
theorem Lists.addresses_eq (h : w.Lists path texts) :
    w.addresses path = texts.mapM listedAddress := by
  obtain ⟨text, hread, hjson⟩ := h
  rw [addresses, hread]
  change addressesOf text = _
  rw [addressesOf, hjson]
  refine congrArg (texts.mapM ·) (funext fun text => ?_)
  rw [listedAddress]
  cases Address.ofText text <;> rfl

theorem listedAddress_eq_ok_iff {text : String} {address : Address} :
    listedAddress text = .ok address ↔ text = address.text := by
  rw [listedAddress, mapError_eq_ok_iff, Address.ofText_eq_ok_iff]

/-- **A file gives the addresses whose texts it lists.** -/
theorem addresses_eq_ok_iff :
    w.addresses path = .ok list ↔ w.Lists path (list.map Address.text) := by
  have htexts : ∀ texts, texts.mapM listedAddress = .ok list ↔ texts = list.map Address.text := by
    intro texts
    simp only [mapM_eq_ok_iff, listedAddress_eq_ok_iff]
    rw [← List.forall₂_eq_eq_eq, List.forall₂_map_right_iff]
  constructor
  · intro h
    cases hread : w.files.readText path with
    | error fault =>
      rw [addresses, hread] at h
      cases h
    | ok text =>
      cases hjson : Json.read (Json.Reader.array Json.Reader.text) (Text.Utf8.encode text) with
      | error failure =>
        rw [addresses, hread] at h
        change addressesOf text = _ at h
        rw [addressesOf, hjson] at h
        cases h
      | ok texts =>
        have hlists : w.Lists path texts := ⟨text, hread, hjson⟩
        rw [hlists.addresses_eq, htexts] at h
        exact h ▸ hlists
  · intro h
    rw [h.addresses_eq, htexts]

/-- **A file with a text that is no address is refused** because of the first such text. -/
theorem Lists.exists_invalid (h : w.Lists path texts)
    (hbad : ∃ text ∈ texts, ∀ address : Address, text ≠ address.text) :
    ∃ (k : Nat) (text : String) (fault : Address.Fault), texts[k]? = some text ∧
      Address.ofText text = .error fault ∧
      (∀ (j : Nat) (t : String), j < k → texts[j]? = some t →
        ∃ address : Address, t = address.text) ∧
      w.addresses path = .error ⟨"invalid address " ++ text ++ ": " ++ fault.message, []⟩ := by
  rw [h.addresses_eq]
  cases hresult : texts.mapM listedAddress with
  | ok list =>
    obtain ⟨text, htext, hnone⟩ := hbad
    obtain ⟨address, haddress⟩ := exists_mapM_iff.1 ⟨list, hresult⟩ text htext
    exact absurd (listedAddress_eq_ok_iff.1 haddress) (hnone address)
  | error cause =>
    obtain ⟨k, text, htext, hcause, hbefore⟩ := mapM_eq_error_iff.1 hresult
    cases hfault : Address.ofText text with
    | ok address =>
      rw [listedAddress, hfault] at hcause
      cases hcause
    | error fault =>
      rw [listedAddress, hfault] at hcause
      cases hcause
      refine ⟨k, text, fault, htext, hfault, fun j t hj ht => ?_, rfl⟩
      obtain ⟨address, haddress⟩ := hbefore j t hj ht
      exact ⟨address, listedAddress_eq_ok_iff.1 haddress⟩

end

/-! ## The command -/

section

variable {w : World σ} {i : Invocation} {apiUrl : String} {users : Users}

/-- With users and a usable claim API, users are told about. -/
theorem claimStatuses_eq {list : List Address} (hlist : w.usersOf users = .ok list)
    (hcheck : (Endpoint.ofText apiUrl).check = .ok ()) : w.claimStatuses i apiUrl users =
      tellStatuses (w.api (Endpoint.ofText apiUrl)) (w.deployment i) 0 w.memory list := by
  have hapi : w.apiAt apiUrl = .ok (w.api (Endpoint.ofText apiUrl)) := by
    rw [apiAt, hcheck]
  rw [claimStatuses, Traced.bind_of_ok ((Traced.outcome_ofExcept _).trans hlist),
    Traced.bind_of_ok ((Traced.outcome_ofExcept _).trans hapi)]
  rfl

/-- Without users nothing is done. -/
theorem claimStatuses_of_error {cause : Cause} (h : w.usersOf users = .error cause) :
    w.claimStatuses i apiUrl users = ⟨[], .error cause⟩ := by
  rw [claimStatuses, Traced.bind_of_error ((Traced.outcome_ofExcept _).trans h)]
  rfl

end

/-- **Users are told about up to the first failure.**  With users and a usable URL the command
reports on the longest prefix of the users whose visits succeed: it prints one line for each of
them, in order, and nothing is done after a visit that fails.  The program ends well exactly if that
prefix is all of them.  In a visit nobody but the user is asked about, and the line says that the
claim was made exactly if its account holds anything.  A file of addresses gives those addresses,
and if one of its texts is none, nothing is done at all. -/
theorem statuses_stop_at_first_failure {σ : Type} (w : World σ) (i : Invocation) (apiUrl : String)
    (users : Users) (hcommand : i.command = .claimStatuses apiUrl users) :
    (∀ list, w.usersOf users = .ok list → (Endpoint.ofText apiUrl).check = .ok () → ∃ told,
      Reports (w.api (Endpoint.ofText apiUrl)) (w.deployment i) (0, w.memory) list told (w.run i) ∧
      (∀ n, (∀ k < n, ∃ user line deeds, list[k]? = some user ∧
          Visit (w.deployment i) user (lookupAfter (w.api (Endpoint.ofText apiUrl)) (0, w.memory)
            (list.take k) user) (.ok line) deeds) → n ≤ told.length) ∧
      (w.run i).printed = told.map Prod.fst ∧
      (Ending.ofSession (w.run i)).output = Ending.textOf (told.map Prod.fst) ∧
      ((Ending.ofSession (w.run i)).code = 0 ↔ told.length = list.length)) ∧
    (∀ (api : Service σ) (since : Nat × σ) (before : List Address) (user : Address), ∃ replies,
      Asked api user (stoodAfter api since before).1 (lookupAfter api since before user) replies) ∧
    (∀ (d : Deployment) (user : Address) (claim : Claim), Line d user claim ("User " ++ user.text ++
        " has already claimed their allocation: " ++ toString claim.amount) ↔
      ∃ account, d.ledger.read (d.claimAccount user claim.distributor) = .ok (some account) ∧
        account.data ≠ []) ∧
    (∀ user, w.usersOf (.one user) = .ok [user]) ∧
    (∀ path list, w.usersOf (.listed path) = .ok list ↔ w.Lists path (list.map Address.text)) ∧
    (∀ path text texts, w.files.readText path = .ok text →
      Json.Spelled (Json.Write.array (texts.map Json.Write.text)) (Text.Utf8.encode text) →
      w.Lists path texts) ∧
    (∀ path texts, users = .listed path → w.Lists path texts →
      (∃ text ∈ texts, ∀ address : Address, text ≠ address.text) →
      ∃ (k : Nat) (text : String) (fault : Address.Fault), texts[k]? = some text ∧
        Address.ofText text = .error fault ∧
        (∀ (j : Nat) (t : String), j < k → texts[j]? = some t →
          ∃ address : Address, t = address.text) ∧
        w.run i = ⟨[], .error ⟨"invalid address " ++ text ++ ": " ++ fault.message, []⟩⟩) := by
  have hrun : w.run i = w.claimStatuses i apiUrl users := by rw [run, hcommand]
  refine ⟨fun list hlist hcheck => ?_, fun api since before user => exists_asked _ _ _ _,
    fun d user claim => line_claimed_iff, fun user => rfl, fun path list => addresses_eq_ok_iff,
    fun path text texts hread hspelled => lists_of_spelled hread hspelled,
    fun path texts husers hlists hbad => ?_⟩
  · obtain ⟨told, hreports⟩ := exists_reports (w.api (Endpoint.ofText apiUrl)) (w.deployment i) list
      (0, w.memory)
    rw [hrun, claimStatuses_eq hlist hcheck]
    exact ⟨told, hreports, fun n hn => hreports.longest hn, hreports.printed, hreports.ending⟩
  · obtain ⟨k, text, fault, htext, hfault, hbefore, haddresses⟩ := hlists.exists_invalid hbad
    refine ⟨k, text, fault, htext, hfault, hbefore, ?_⟩
    rw [hrun, husers]
    exact claimStatuses_of_error haddresses

/-! ## A world with three users -/

/-- What a claim API answers that loses count of its users: the first question and the third are
served, the second one came too soon, and then it fails for good. -/
def forgetfulReply (asked : Nat) : Reply :=
  match asked with
  | 0 => ⟨.ok ⟨default, 5, []⟩, 10⟩
  | 1 => ⟨.error .rateLimited, 10⟩
  | 2 => ⟨.ok ⟨default, 7, []⟩, 10⟩
  | _ => ⟨.error (.malformedBody ⟨none, 1, 0⟩), 10⟩

/-- The API that gives these answers. -/
def forgetfulApi : Service Nat := ⟨fun asked _ => (forgetfulReply asked, asked + 1)⟩

/-- The ledger on which the default user has claimed from the default distributor. -/
def onceClaimed : Snapshot :=
  Snapshot.empty.insert (Address.claimStatus default default default) ⟨default, [1]⟩

/-- The users there; the first one is asked for twice. -/
def threeUsers : List Address := [default, .ofNumber 3, .ofNumber 4, default]

/-- The world with that API and ledger, in which one file lists the users, and any other nobody. -/
def forgetfulWorld : World Nat where
  files := ⟨fun path => .ok (Text.Utf8.encode (Json.Layout.pretty (Json.Write.array
    ((if path = "users.json" then threeUsers.map Address.text else ["nobody"]).map
      Json.Write.text)))), fun _ => .error .notFound⟩
  api _ := forgetfulApi
  memory := 0
  node url := { LedgerNode.unreachable url with ledger := onceClaimed.ledger }

/-- The users of a file are asked for there. -/
def statusInvocation (path : String) : Invocation :=
  ⟨"http://localhost", default, none, .claimStatuses "http://localhost" (.listed path)⟩

/-- The first two users are served, the second one in a second attempt; the third one is not. -/
theorem lookups_forgetful :
    (lookupAfter forgetfulApi (0, 0) [] default).result = .ok ⟨default, 5, []⟩ ∧
    (lookupAfter forgetfulApi (0, 0) [default] (.ofNumber 3)).result = .ok ⟨default, 7, []⟩ ∧
    (lookupAfter forgetfulApi (0, 0) [default, .ofNumber 3] (.ofNumber 4)).result =
      .error (.lookup (.ofNumber 4) 1 (.malformedBody ⟨none, 1, 0⟩)) := by
  obtain ⟨_, hfirst⟩ : ∃ journal, lookupAfter forgetfulApi (0, 0) [] default =
      ⟨.ok ⟨default, 5, []⟩, 10, 1, journal⟩ := ⟨_, Verification.lookupFrom_of_done rfl rfl⟩
  have hone : stoodAfter forgetfulApi (0, 0) [default] = (10, 1) :=
    (stoodAfter_concat _ _ [] _).trans (by rw [hfirst])
  obtain ⟨_, hsecond⟩ : ∃ journal, lookupAfter forgetfulApi (0, 0) [default] (.ofNumber 3) =
      ⟨.ok ⟨default, 7, []⟩, 2030, 3, journal⟩ := by
    rw [lookupAfter, hone, Verification.lookup, Verification.lookupFrom_of_again rfl rfl,
      Verification.lookupFrom_of_done rfl rfl]
    exact ⟨_, rfl⟩
  have htwo : stoodAfter forgetfulApi (0, 0) [default, .ofNumber 3] = (2030, 3) :=
    (stoodAfter_concat _ _ [default] _).trans (by rw [hsecond])
  refine ⟨by rw [hfirst], by rw [hsecond], ?_⟩
  rw [lookupAfter, htwo, Verification.lookup, Verification.lookupFrom_of_done rfl rfl]
  rfl

/-- What the files there list. -/
theorem lists_forgetful (path : String) : forgetfulWorld.Lists path
    (if path = "users.json" then threeUsers.map Address.text else ["nobody"]) := by
  refine lists_of_spelled ?_ (Json.spelled_pretty (Json.tidy_array
    (List.forall_mem_map.2 fun text _ => Json.tidy_text text)))
  exact readText_eq_ok rfl

/-- The visits of the first two users succeed, and the third one fails. -/
theorem visits_forgetful : ∃ deeds deeds' cause deeds'',
    Visit (forgetfulWorld.deployment (statusInvocation "users.json")) default
      (lookupAfter forgetfulApi (0, 0) [] default)
      (.ok ("User " ++ (default : Address).text ++ " has already claimed their allocation: " ++
        toString 5)) deeds ∧
    Visit (forgetfulWorld.deployment (statusInvocation "users.json")) (.ofNumber 3)
      (lookupAfter forgetfulApi (0, 0) [default] (.ofNumber 3))
      (.ok ("User " ++ (Address.ofNumber 3).text ++ " has not claimed their allocation: " ++
        toString 7)) deeds' ∧
    Visit (forgetfulWorld.deployment (statusInvocation "users.json")) (.ofNumber 4)
      (lookupAfter forgetfulApi (0, 0) [default, .ofNumber 3] (.ofNumber 4)) (.error cause)
      deeds'' := by
  obtain ⟨hfirst, hsecond, hthird⟩ := lookups_forgetful
  have hother : Address.claimStatus default (.ofNumber 3) default ≠
      Address.claimStatus default default default := by decide +kernel
  have hmissing : onceClaimed.ledger.read (Address.claimStatus default (.ofNumber 3) default) =
      .ok none := by
    rw [onceClaimed, Snapshot.read_insert_of_ne _ _ hother]
    simp [Snapshot.ledger, Snapshot.get?, Snapshot.empty]
  exact ⟨_, _, _, _,
    .told hfirst (.claimed (Snapshot.read_insert_self _ _ _) (List.cons_ne_nil _ _)),
    .told hsecond (.unclaimed hmissing (by simp)), .unserved hthird⟩

/-- The first two users are told about, and nobody is asked about after the third one, for whom no
claim is found; and nothing is done for a file with a text that is no address. -/
theorem statuses_stop_at_first_failure_of_three :
    (Ending.ofSession (forgetfulWorld.run (statusInvocation "users.json"))).output =
      Ending.textOf
        ["User " ++ (default : Address).text ++ " has already claimed their allocation: " ++
            toString 5,
          "User " ++ (Address.ofNumber 3).text ++ " has not claimed their allocation: " ++
            toString 7] ∧
    (Ending.ofSession (forgetfulWorld.run (statusInvocation "users.json"))).code ≠ 0 ∧
    (forgetfulWorld.run (statusInvocation "others.json")).events = [] := by
  obtain ⟨hreport, -, -, -, hlisted, -⟩ := statuses_stop_at_first_failure forgetfulWorld
    (statusInvocation "users.json") "http://localhost" (.listed "users.json") rfl
  obtain ⟨-, -, -, -, -, -, hrefused⟩ := statuses_stop_at_first_failure forgetfulWorld
    (statusInvocation "others.json") "http://localhost" (.listed "others.json") rfl
  obtain ⟨told, hreports, hlongest, -, houtput, hcode⟩ := hreport threeUsers
    ((hlisted _ _).2 (lists_forgetful _)) (toOption_eq_some_iff.1 (by decide +kernel))
  obtain ⟨_, _, _, _, hfirst, hsecond, hthird⟩ := visits_forgetful
  have hatLeast : 2 ≤ told.length := hlongest 2 fun k hk => by
    match k, hk with
    | 0, _ => exact ⟨_, _, _, rfl, hfirst⟩
    | 1, _ => exact ⟨_, _, _, rfl, hsecond⟩
  have hnobody : ∀ address : Address, "nobody" ≠ address.text := fun address htext => by
    have hfault : (Address.ofText "nobody").toOption = none := by decide +kernel
    rw [Address.ofText_eq_ok_iff.2 htext] at hfault
    cases hfault
  obtain ⟨_, _, _, -, -, -, hrun⟩ := hrefused "others.json" _ rfl (lists_forgetful _)
    ⟨"nobody", List.mem_singleton_self _, hnobody⟩
  match told, hatLeast with
  | _ :: _ :: _ :: _, _ =>
    obtain ⟨_, huser, hvisit⟩ := hreports.visited 2 _ _ rfl
    cases huser
    cases (hvisit.unique hthird).1
  | [(line, deeds), (line', deeds')], _ =>
    obtain ⟨_, huser, hvisit⟩ := hreports.visited 0 _ _ rfl
    obtain ⟨_, huser', hvisit'⟩ := hreports.visited 1 _ _ rfl
    cases huser
    cases huser'
    have hline := Except.ok.inj (hvisit.unique hfirst).1
    have hline' := Except.ok.inj (hvisit'.unique hsecond).1
    refine ⟨?_, fun hzero => absurd (hcode.1 hzero) (show 2 ≠ 4 by decide), by rw [hrun]⟩
    rw [houtput, hline, hline']
    rfl

end World

end Airdrop
