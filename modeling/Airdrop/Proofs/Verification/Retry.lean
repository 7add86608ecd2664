import Airdrop.Proofs.Verification.Dialogue
import Airdrop.Proofs.Verification.Sequential

/-!
# Proofs/Verification/Retry — one lookup, attempt by attempt

A lookup is **under way** while it has heard nothing but setbacks: failures that another try may
mend (`Underway`).  Each of them costs its own delay and a pause, and is told in the log.  The first
other answer ends the lookup, or the last attempt allowed (`Ended`).

Over given outcomes that attempt is known beforehand (`lastAttempt`), and so is everything that the
lookup does (`lookup_retried`).  The attempts may be counted upwards by a 32-bit word; **the word
never runs over**, since counting stops at a limit that is a word itself (`countedFrom_eq`).
-/

namespace Airdrop.Verification

variable {σ : Type}

/-! ## The last attempt -/

/-- **An outcome that ends a lookup**: a claim, or a failure that another try cannot mend. -/
inductive Final : Outcome → Prop
  | served (claim : Claim) : Final (.ok claim)
  | malformed (failure : Json.Failure) : Final (.error (.malformedBody failure))
  | unusable (reason : String) : Final (.error (.invalidUrl reason))

/-- Whatever is not final is worth another try. -/
theorem final_iff {outcome : Outcome} : Final outcome ↔ worthRetrying outcome = false := by
  constructor
  · rintro (_ | _ | _) <;> rfl
  · intro h
    match outcome, h with
    | .ok claim, _ => exact .served claim
    | .error (.malformedBody failure), _ => exact .malformed failure
    | .error (.invalidUrl reason), _ => exact .unusable reason

/-- **The last attempt** of those allowed, counted from one: the first whose outcome is not worth
another try, or the last one allowed. -/
def lastAttempt (allowed : Nat) (outcome : Nat → Outcome) : Nat :=
  ((List.range' 1 allowed).find? fun n => !worthRetrying (outcome n)).getD allowed

/-- An attempt after setbacks is the last one if its outcome is final or no more are allowed. -/
theorem lastAttempt_eq {allowed made : Nat} {outcome : Nat → Outcome} (hmade : made < allowed)
    (hbefore : ∀ n ∈ List.range' 1 made, worthRetrying (outcome n))
    (hlast : worthRetrying (outcome (made + 1)) = true → made + 1 = allowed) :
    lastAttempt allowed outcome = made + 1 := by
  obtain ⟨more, rfl⟩ := Nat.exists_eq_add_of_lt hmade
  have hsplit : List.range' 1 (made + more + 1) =
      List.range' 1 made ++ (made + 1) :: List.range' (made + 2) more := by
    rw [Nat.add_assoc, ← List.range'_append_1, List.range'_succ, Nat.add_comm 1 made]
  rw [lastAttempt, hsplit, List.find?_append,
    List.find?_eq_none.2 fun n hn => by simp [hbefore n hn], Option.none_or]
  cases hworth : worthRetrying (outcome (made + 1)) with
  | false => simp [hworth]
  | true =>
    obtain rfl : more = 0 := by have := hlast hworth; omega
    simp [hworth]

/-- An unusable URL after two setbacks. -/
example : lastAttempt 5 (fun n => .error (if n < 3 then .rateLimited else .invalidUrl "")) = 3 := by
  decide

/-! ## Setbacks -/

/-- **A setback**: a failure that another try may mend, and how long it took to come. -/
structure Setback where
  fault : ApiFault
  delay : Nat
  retryable : fault.isRetryable = true

/-- The reply that a setback is. -/
def Setback.reply (s : Setback) : Reply := ⟨.error s.fault, s.delay⟩

/-- What the log says of a setback. -/
def retryLine (c : Config) (span : String) (address : Address) (attempt : Nat) (fault : ApiFault) :
    String :=
  Log.warn (span ++ "attempt " ++ toString attempt ++ "/" ++ toString c.attempts ++
    " for " ++ address.text ++ " failed: " ++ fault.message)

/-- A question at an instant and its answer. -/
def exchange (i : Nat) (address : Address) (asked : Nat) (reply : Reply) : List Timed :=
  [⟨asked, .called i address⟩, ⟨asked + reply.delay, .answered i reply.outcome⟩]

@[simp] theorem exchanges_exchange (i : Nat) (address : Address) (asked : Nat) (reply : Reply) :
    exchanges i (exchange i address asked reply) = exchange i address asked reply := by
  simp [exchange, exchanges, Event.isExchange]

@[simp] theorem calls_append (J K : List Timed) : calls (J ++ K) = calls J ++ calls K :=
  List.filterMap_append

@[simp] theorem calls_exchange (i : Nat) (address : Address) (asked : Nat) (reply : Reply) :
    calls (exchange i address asked reply) = [(asked, address)] := rfl

@[simp] theorem logLines_append (c : Config) (span : String) (batches : Nat) (J K : List Timed) :
    logLines c span batches (J ++ K) = logLines c span batches J ++ logLines c span batches K :=
  List.filterMap_append

@[simp] theorem logLines_exchange (c : Config) (span : String) (batches i : Nat)
    (address : Address) (asked : Nat) (reply : Reply) :
    logLines c span batches (exchange i address asked reply) = [] := rfl

/-- **An outcome that ends a lookup** ends it with its answer. -/
theorem lookupFrom_of_done {service : Service σ} {c : Config} {i left instant : Nat}
    {address : Address} {state : σ} {result : Except VerificationError Claim}
    {answer : Reply × σ}
    (hanswer : service.answer state ⟨i, address, c.made left, instant⟩ = answer)
    (h : verdict c address left answer.1.outcome = .done result) :
    lookupFrom service c i address left instant state =
      ⟨result, instant + answer.1.delay, answer.2, exchange i address instant answer.1⟩ := by
  subst hanswer
  rw [lookupFrom]
  split
  · next h' =>
    cases h.symm.trans h'
    rfl
  · next h' => cases h.symm.trans h'

/-- A failure ends a lookup if another try cannot mend it, or no more are allowed. -/
theorem verdict_of_not_again {c : Config} {address : Address} {left : Nat} {fault : ApiFault}
    (h : ¬ (left ≠ 0 ∧ fault.isRetryable = true)) : verdict c address left (.error fault) =
      .done (.error (.lookup address (c.made left) fault)) := by
  cases left with
  | zero => rfl
  | succ more => exact if_neg fun hyes => h ⟨more.succ_ne_zero, hyes⟩

/-- **A setback** is told, and after the pause the lookup goes on. -/
theorem lookupFrom_of_again {service : Service σ} {c : Config} {i left more instant : Nat}
    {address : Address} {state : σ} {fault : ApiFault} {answer : Reply × σ}
    (hanswer : service.answer state ⟨i, address, c.made left, instant⟩ = answer)
    (h : verdict c address left answer.1.outcome = .again more fault) :
    lookupFrom service c i address left instant state =
      let rest := lookupFrom service c i address more
        (instant + answer.1.delay + c.retryDelay) answer.2
      { rest with
        journal := exchange i address instant answer.1 ++
          (⟨instant + answer.1.delay, .retrying i address (c.made left) fault⟩ ::
            rest.journal) } := by
  subst hanswer
  rw [lookupFrom]
  split
  · next h' => cases h.symm.trans h'
  · next h' =>
    cases h.symm.trans h'
    rfl

/-- **What a lookup has heard and told**: the API gave the replies to its questions, and the log has
a line for each of the setbacks. -/
structure Heard (service : Service σ) (c : Config) (i : Nat) (address : Address) (begun : Nat)
    (journal : List Timed) (replies : List Reply) (told : List Setback) : Prop where
  given : Given service c i address begun replies
  exchanged : exchanges i journal = dialogue c i address begun replies
  called : (calls journal).map Prod.snd = List.replicate replies.length address
  logged : ∀ span batches, logLines c span batches journal =
    told.mapIdx fun n s => retryLine c span address (n + 1) s.fault

/-- **A lookup has ended** after some setbacks, with a reply that decides. -/
structure Ended (service : Service σ) (c : Config) (i : Nat) (address : Address) (begun : Nat)
    (journal : List Timed) (setbacks : List Setback) (last : Reply) (looked : Lookup σ) :
    Prop where
  heard : Heard service c i address begun journal (setbacks.map Setback.reply ++ [last]) setbacks
  instant : looked.instant = begun + timeOf c (setbacks.map Setback.reply ++ [last])
  concludes : Concludes c address ((setbacks.map Setback.reply ++ [last]).map Reply.outcome)
    looked.result

namespace Heard

variable {service : Service σ} {c : Config} {i begun : Nat} {address : Address}
  {journal : List Timed} {replies : List Reply} {told setbacks : List Setback}

/-- Nothing is heard before the first question. -/
theorem start : Heard service c i address begun [] [] [] :=
  ⟨fun _ _ h => (nomatch h), rfl, rfl, fun _ _ => rfl⟩

/-- **A question and its answer.** -/
theorem answer (h : Heard service c i address begun journal replies told) {state : σ}
    {answer : Reply × σ} (hanswer : service.answer state
      ⟨i, address, replies.length + 1, resumesAt c begun replies⟩ = answer) :
    Heard service c i address begun
      (journal ++ exchange i address (resumesAt c begun replies) answer.1)
      (replies ++ [answer.1]) told where
  given := hanswer ▸ h.given.concat state
  exchanged := by
    rw [exchanges_append, exchanges_exchange, h.exchanged, dialogue_concat, exchange]
  called := by
    rw [calls_append, List.map_append, h.called, calls_exchange, List.length_append,
      List.length_singleton, List.replicate_succ']
    rfl
  logged span batches := by
    rw [logLines_append, logLines_exchange, List.append_nil, h.logged]

/-- **A setback is told.** -/
theorem tell (h : Heard service c i address begun journal replies told) (instant : Nat)
    (s : Setback) : Heard service c i address begun
      (journal ++ [⟨instant, .retrying i address (told.length + 1) s.fault⟩])
      replies (told ++ [s]) where
  given := h.given
  exchanged := by rw [exchanges_retrying, h.exchanged]
  called := by
    rw [calls_append, ← h.called]
    simp [calls]
  logged span batches := by
    rw [logLines_append, h.logged, List.mapIdx_concat]
    rfl

/-- **A lookup that has met with setbacks ends**, since every setback uses an attempt up. -/
theorem exists_ended {left : Nat}
    (h : Heard service c i address begun journal (setbacks.map Setback.reply) setbacks)
    (hleft : setbacks.length + 1 + left = c.attempts) (state : σ) :
    let looked := lookupFrom service c i address left
      (resumesAt c begun (setbacks.map Setback.reply)) state
    ∃ all last, Ended service c i address begun (journal ++ looked.journal) all last looked := by
  induction left using Nat.strongRecOn generalizing journal setbacks state with
  | ind left ih =>
    generalize hasked : resumesAt c begun (setbacks.map Setback.reply) = asked
    generalize hanswer : service.answer state ⟨i, address, c.made left, asked⟩ = answer
    have hreply : service.answer state ⟨i, address, (setbacks.map Setback.reply).length + 1,
        resumesAt c begun (setbacks.map Setback.reply)⟩ = answer := by
      rw [List.length_map, hasked, ← made_eq hleft, hanswer]
    have hnext := h.answer hreply
    rw [hasked] at hnext
    cases hverdict : verdict c address left answer.1.outcome with
    | done result =>
      rw [lookupFrom_of_done hanswer hverdict]
      refine ⟨setbacks, answer.1, hnext, by rw [add_timeOf_concat, hasked], ?_⟩
      rw [List.map_append, List.map_singleton]
      refine concludes_of_verdict ?_ (by simpa using hleft) hverdict
      rw [List.forall_mem_map, List.forall_mem_map]
      exact fun s _ => s.retryable
    | again more fault =>
      rw [lookupFrom_of_again hanswer hverdict]
      obtain ⟨hfault, hretryable, rfl⟩ := worthRetrying_of_verdict hverdict
      -- The answer is a setback, which is told before the pause.
      let s : Setback := ⟨fault, answer.1.delay, hretryable⟩
      have hs : answer.1 = s.reply := by rw [Setback.reply, ← hfault]
      have hreplies : setbacks.map Setback.reply ++ [answer.1] =
          (setbacks ++ [s]).map Setback.reply := by rw [List.map_append, List.map_singleton, hs]
      have hresumes : resumesAt c begun ((setbacks ++ [s]).map Setback.reply) =
          asked + answer.1.delay + c.retryDelay := by rw [← hreplies, resumesAt_concat, hasked]
      have htold := hnext.tell (asked + answer.1.delay) s
      rw [hreplies] at htold
      obtain ⟨all, last, hended⟩ := ih more (Nat.lt_succ_self more) htold
        (by rw [List.length_append, List.length_singleton]; omega) answer.2
      rw [hresumes] at hended
      refine ⟨all, last, ?_, hended.instant, hended.concludes⟩
      have hheard := hended.heard
      rw [List.append_assoc, List.append_assoc, List.singleton_append, ← made_eq hleft] at hheard
      exact hheard

end Heard

/-! ## Over given outcomes -/

/-- Replies are as promised. -/
theorem Given.kept {service : Service σ} {promise : Promise} {c : Config} {i begun : Nat}
    {address : Address} {replies : List Reply} (h : Given service c i address begun replies)
    (hkeeps : Keeps service promise) : Kept promise i address (replies.map Reply.outcome) := by
  intro n o hn
  rw [List.getElem?_map, Option.map_eq_some_iff] at hn
  obtain ⟨reply, hreply, rfl⟩ := hn
  obtain ⟨state, rfl⟩ := h n reply hreply
  exact hkeeps state ⟨i, address, n + 1, _⟩

/-- **What a lookup does over given outcomes** when `last` is its last attempt. -/
structure Retried (service : Service σ) (c : Config) (address : Address)
    (outcome : Nat → Outcome) (begun last : Nat) (looked : Lookup σ) : Prop where
  /-- There is an attempt, and no more of them than allowed. -/
  allowed : 1 ≤ last ∧ last ≤ max c.maxAttempts.toNat 1
  /-- What came before the last attempt were failures that another try may mend. -/
  earlier : ∀ n, 1 ≤ n → n < last → ∃ fault, outcome n = .error fault ∧ fault.isRetryable = true
  /-- Fewer attempts than allowed are made only if the outcome is final. -/
  final : last < max c.maxAttempts.toNat 1 → Final (outcome last)
  /-- There is one question an attempt, all of them for the address. -/
  called : (calls looked.journal).map Prod.snd = List.replicate last address
  /-- They are answered with the outcomes of the attempts, in order. -/
  answered : (repliesTo 0 looked.journal).map Reply.outcome = (List.range' 1 last).map outcome
  /-- The API gave the answers, and each next question is asked after the pause. -/
  served : Served service c 0 address begun looked.journal (repliesTo 0 looked.journal)
  /-- There is no other pause, and none after the last answer. -/
  instant : looked.instant =
    begun + ((repliesTo 0 looked.journal).map Reply.delay).sum + (last - 1) * c.retryDelay
  /-- The last outcome is the result; a failure goes with the number of attempts. -/
  result : looked.result = (outcome last).mapError (VerificationError.lookup address last)
  /-- The log has a line for each attempt but the last. -/
  logged : ∀ span batches, List.Forall₂ (fun n line => ∃ fault, outcome n = .error fault ∧
      line = Log.warn (span ++ "attempt " ++ toString n ++ "/" ++
        toString (max c.maxAttempts.toNat 1) ++ " for " ++ address.text ++ " failed: " ++
        fault.message))
    (List.range' 1 (last - 1)) (logLines c span batches looked.journal)

/-- What the last answer has to do with the result. -/
theorem Concludes.of_concat {c : Config} {address : Address} {earlier : List Outcome}
    {last : Outcome} {result : Except VerificationError Claim}
    (h : Concludes c address (earlier ++ [last]) result) :
    earlier.length < c.attempts ∧
      (worthRetrying last = true → earlier.length + 1 = c.attempts) ∧
      result = last.mapError (VerificationError.lookup address (earlier.length + 1)) := by
  generalize hall : earlier ++ [last] = all at h
  cases h with
  | served claim retried allowed =>
    obtain ⟨rfl, hlast⟩ := List.append_inj' hall rfl
    cases hlast
    exact ⟨allowed, nofun, rfl⟩
  | gaveUp fault retried allowed final =>
    obtain ⟨rfl, hlast⟩ := List.append_inj' hall rfl
    cases hlast
    exact ⟨allowed, final, rfl⟩

namespace Ended

variable {outcome : Nat → Outcome} {pace : σ → Call → Nat × σ} {c : Config} {address : Address}
  {begun : Nat} {journal : List Timed} {setbacks : List Setback} {last : Reply} {looked : Lookup σ}

section

variable (h : Ended (answering (fun _ _ => outcome) pace) c 0 address begun journal setbacks last
  looked)

include h

/-- The outcomes of the replies are those given, in order. -/
theorem outcome_eq {n : Nat} {reply : Reply}
    (hn : (setbacks.map Setback.reply ++ [last])[n]? = some reply) :
    outcome (n + 1) = reply.outcome := by
  have hkept := h.heard.given.kept (keeps_answering _ _)
  exact (hkept n reply.outcome (by rw [List.getElem?_map, hn]; rfl)).symm

theorem outcome_setback {n : Nat} (hn : n < setbacks.length) :
    outcome (n + 1) = .error setbacks[n].fault := by
  have hreply : (setbacks.map Setback.reply ++ [last])[n]? = some setbacks[n].reply := by
    rw [List.getElem?_append_left (by rwa [List.length_map]), List.getElem?_map,
      List.getElem?_eq_getElem hn]
    rfl
  exact h.outcome_eq hreply

theorem outcome_last : outcome (setbacks.length + 1) = last.outcome :=
  h.outcome_eq (by simp)

/-- What the last answer decides. -/
theorem of_last :
    setbacks.length < c.attempts ∧
      (worthRetrying (outcome (setbacks.length + 1)) = true → setbacks.length + 1 = c.attempts) ∧
      looked.result = (outcome (setbacks.length + 1)).mapError
        (VerificationError.lookup address (setbacks.length + 1)) := by
  have hconcludes := h.concludes
  rw [List.map_append, List.map_singleton] at hconcludes
  rw [h.outcome_last]
  simpa using hconcludes.of_concat

/-- **A lookup ends with the last attempt.** -/
theorem lastAttempt_eq : lastAttempt c.attempts outcome = setbacks.length + 1 := by
  obtain ⟨hallowed, hfinal, -⟩ := h.of_last
  refine Verification.lastAttempt_eq hallowed (fun n hn => ?_) hfinal
  obtain ⟨hone, hle⟩ := List.mem_range'_1.1 hn
  obtain ⟨k, rfl⟩ := Nat.exists_eq_add_of_le' hone
  rw [h.outcome_setback (n := k) (by omega)]
  exact setbacks[k].retryable

/-- The log has a line for each attempt but the last. -/
theorem logged (span : String) (batches : Nat) :
    List.Forall₂ (fun n line => ∃ fault, outcome n = .error fault ∧
        line = retryLine c span address n fault)
      (List.range' 1 setbacks.length) (logLines c span batches journal) := by
  rw [h.heard.logged, List.forall₂_iff_get]
  refine ⟨by simp, fun n hn _ => ?_⟩
  have hlt : n < setbacks.length := by simpa using hn
  have hattempt : (List.range' 1 setbacks.length).get ⟨n, hn⟩ = n + 1 := by
    simp [Nat.add_comm 1]
  rw [hattempt]
  exact ⟨setbacks[n].fault, h.outcome_setback hlt, by rw [List.get_eq_getElem, List.getElem_mapIdx]⟩

end

/-- **A lookup that has ended has made the last attempt.** -/
theorem retried
    (h : Ended (answering (fun _ _ => outcome) pace) c 0 address begun looked.journal setbacks last
      looked) :
    Retried (answering (fun _ _ => outcome) pace) c address outcome begun
      (lastAttempt c.attempts outcome) looked := by
  obtain ⟨hallowed, hfinal, hresult⟩ := h.of_last
  have hreplies := repliesTo_eq h.heard.exchanged
  rw [h.lastAttempt_eq]
  refine ⟨⟨Nat.le_add_left _ _, hallowed⟩, fun n hone hn => ?_, fun hless => ?_, ?_, ?_, ?_, ?_,
    hresult, h.logged⟩
  · obtain ⟨k, rfl⟩ := Nat.exists_eq_add_of_le' hone
    exact ⟨_, h.outcome_setback (by omega), setbacks[k].retryable⟩
  · exact final_iff.2 (eq_false_of_ne_true fun hworth => hless.ne (hfinal hworth))
  · simpa using h.heard.called
  · rw [hreplies, (h.heard.given.kept (keeps_answering _ _)).eq_map]
    simp
  · rw [hreplies]
    exact ⟨by simp, h.heard.given, h.heard.exchanged⟩
  · rw [hreplies, h.instant, timeOf, Nat.add_assoc, List.length_append, List.length_map]
    rfl

end Ended

/-! ## The counter -/

/-- The attempts allowed, as a word. -/
def Config.attemptsWord (c : Config) : UInt32 := max c.maxAttempts 1

/-- One more, unless the word would run over. -/
def oneMore? (made : UInt32) : Option UInt32 :=
  if made.toNat + 1 < UInt32.size then some (made + 1) else none

theorem oneMore?_eq_some_iff {made attempt : UInt32} :
    oneMore? made = some attempt ↔ attempt.toNat = made.toNat + 1 := by
  unfold oneMore?
  split
  · next h =>
    have hsum : (made + 1).toNat = made.toNat + 1 := Nat.mod_eq_of_lt h
    rw [Option.some.injEq, ← UInt32.toNat_inj, hsum, eq_comm]
  · next h =>
    have : attempt.toNat < UInt32.size := attempt.toNat_lt
    constructor
    · exact nofun
    · omega

theorem Config.toNat_attemptsWord (c : Config) : c.attemptsWord.toNat = c.attempts := by
  unfold attemptsWord attempts
  rw [UInt32.toNat_max]
  rfl

/-- **The word has room** for every attempt allowed. -/
theorem exists_oneMore {c : Config} {made : UInt32} (h : made.toNat < c.attempts) :
    ∃ attempt, oneMore? made = some attempt ∧ attempt.toNat = made.toNat + 1 := by
  have hlimit : c.attempts < UInt32.size := c.toNat_attemptsWord ▸ c.attemptsWord.toNat_lt
  have hsome : oneMore? made = some (made + 1) := if_pos (by omega)
  exact ⟨made + 1, hsome, oneMore?_eq_some_iff.1 hsome⟩

/-- **Look an address up, counting upwards**: `made` attempts have been made before.  There is no
lookup if the counter runs over. -/
def countedFrom (service : Service σ) (c : Config) (position : Nat) (address : Address)
    (made : UInt32) (instant : Nat) (state : σ) : Option (Lookup σ) :=
  match _hnext : oneMore? made with
  | none => none
  | some attempt =>
    let answer := service.answer state ⟨position, address, attempt.toNat, instant⟩
    let settled := instant + answer.1.delay
    let told := exchange position address instant answer.1
    match answer.1.outcome with
    | .ok claim => some ⟨.ok claim, settled, answer.2, told⟩
    | .error fault =>
      if _hmore : attempt < c.attemptsWord ∧ fault.isRetryable then
        (countedFrom service c position address attempt (settled + c.retryDelay) answer.2).map
          fun rest => { rest with
            journal := told ++
              ⟨settled, .retrying position address attempt.toNat fault⟩ :: rest.journal }
      else some ⟨.error (.lookup address attempt.toNat fault), settled, answer.2, told⟩
termination_by c.attemptsWord.toNat - made.toNat
decreasing_by
  have := oneMore?_eq_some_iff.1 _hnext
  have := UInt32.lt_iff_toNat_lt.1 _hmore.1
  omega

/-- **The counter never runs over**, and the lookup is the one with so many attempts left. -/
theorem countedFrom_eq (service : Service σ) (c : Config) (position : Nat) (address : Address)
    {made : UInt32} {left : Nat} (instant : Nat) (state : σ)
    (h : made.toNat + 1 + left = c.attempts) :
    countedFrom service c position address made instant state =
      some (lookupFrom service c position address left instant state) := by
  induction left using Nat.strongRecOn generalizing made instant state with
  | ind left ih =>
    obtain ⟨attempt, hattempt, hnat⟩ := exists_oneMore (show made.toNat < c.attempts by omega)
    have hmade : c.made left = attempt.toNat := by rw [made_eq h, hnat]
    have hmore : attempt < c.attemptsWord ↔ left ≠ 0 := by
      rw [UInt32.lt_iff_toNat_lt, c.toNat_attemptsWord]
      omega
    generalize hanswer : service.answer state ⟨position, address, c.made left, instant⟩ = answer
    rw [countedFrom]
    split
    · next hnone => cases hattempt.symm.trans hnone
    next _ hsome =>
    cases hattempt.symm.trans hsome
    rw [← hmade, hanswer]
    dsimp only
    split
    · next claim houtcome =>
      rw [lookupFrom_of_done hanswer (by rw [houtcome]; rfl)]
    next fault houtcome =>
    split
    · next hboth =>
      obtain ⟨more, rfl⟩ := Nat.exists_eq_succ_of_ne_zero (hmore.1 hboth.1)
      rw [ih more (Nat.lt_succ_self more) _ _ (by omega),
        lookupFrom_of_again hanswer (by rw [houtcome, verdict]; exact if_pos hboth.2)]
      rfl
    · next hnot =>
      rw [hmore] at hnot
      rw [lookupFrom_of_done hanswer (by rw [houtcome, verdict_of_not_again hnot])]

/-- **A lookup that counts its attempts upwards**, from none. -/
def lookupCounted (service : Service σ) (c : Config) (address : Address) (instant : Nat)
    (state : σ) : Option (Lookup σ) :=
  countedFrom service c 0 address 0 instant state

theorem lookupCounted_eq (service : Service σ) (c : Config) (address : Address) (instant : Nat)
    (state : σ) : lookupCounted service c address instant state =
      some (lookup service c address instant state) :=
  countedFrom_eq service c 0 address instant state (by
    have := c.attempts_pos
    rw [UInt32.toNat_zero]
    omega)

/-- Every lookup ends. -/
theorem exists_ended_lookup (service : Service σ) (c : Config) (address : Address) (begun : Nat)
    (state : σ) : ∃ setbacks last, Ended service c 0 address begun
      (lookup service c address begun state).journal setbacks last
      (lookup service c address begun state) := by
  have hstart : Heard service c 0 address begun [] (([] : List Setback).map Setback.reply) [] :=
    .start
  have hleft : 0 + 1 + (c.attempts - 1) = c.attempts := by have := c.attempts_pos; omega
  have hended := hstart.exists_ended hleft state
  rwa [show resumesAt c begun (([] : List Setback).map Setback.reply) = begun by simp [resumesAt]]
    at hended

/-- **A lookup makes its attempts one after another, with a pause between each two**, until one has
a final outcome or no more are allowed; a word suffices to count them. -/
theorem lookup_retried (outcome : Nat → Outcome) (pace : σ → Call → Nat × σ) (c : Config)
    (address : Address) (begun : Nat) (state : σ) :
    Retried (answering (fun _ _ => outcome) pace) c address outcome begun
      (lastAttempt (max c.maxAttempts.toNat 1) outcome)
      (lookup (answering (fun _ _ => outcome) pace) c address begun state) ∧
    lookupCounted (answering (fun _ _ => outcome) pace) c address begun state =
      some (lookup (answering (fun _ _ => outcome) pace) c address begun state) := by
  obtain ⟨setbacks, last, hended⟩ := exists_ended_lookup
    (answering (fun _ _ => outcome) pace) c address begun state
  exact ⟨hended.retried, lookupCounted_eq _ c address begun state⟩

end Airdrop.Verification
