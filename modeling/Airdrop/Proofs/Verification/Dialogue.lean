import Airdrop.Proofs.Verification.Clock
import Mathlib.Algebra.Order.Ring.Nat

/-!
# Proofs/Verification/Dialogue — questions and answers on the clock

What is asked for an entry and answered is a **dialogue**: every answer comes when its reply has
taken its time, and the next question follows after the pause (`dialogue`).  The replies can be read
back off the journal (`repliesTo`), so the time that a lookup takes is known from it: the delays of
its replies, and a pause between each two (`timeOf`).

A batch keeps that up move by move (`OnTime`).  When it ends well, **it ends when its longest lookup
does** (`OnTime.run`).
-/

namespace Airdrop.Verification

variable {σ : Type}

/-! ## Dialogues -/

/-- **A dialogue for an entry**, begun at an instant: each question is answered after the delay of
its reply, and the next one is asked after the pause. -/
def dialogue (c : Config) (i : Nat) (address : Address) : (begun : Nat) → List Reply → List Timed
  | _, [] => []
  | begun, reply :: rest =>
    ⟨begun, .called i address⟩ :: ⟨begun + reply.delay, .answered i reply.outcome⟩ ::
      dialogue c i address (begun + reply.delay + c.retryDelay) rest

/-- When a dialogue goes on after some replies. -/
def resumesAt (c : Config) (begun : Nat) (replies : List Reply) : Nat :=
  begun + (replies.map Reply.delay).sum + replies.length * c.retryDelay

/-- **The time that a dialogue takes**: the delays of its replies, and a pause between each two. -/
def timeOf (c : Config) (replies : List Reply) : Nat :=
  (replies.map Reply.delay).sum + (replies.length - 1) * c.retryDelay

/-- Whether an event is a question for a position, or an answer. -/
def Event.isExchange (i : Nat) : Event → Bool
  | .called p _ => p == i
  | .answered p _ => p == i
  | _ => false

/-- **The questions for a position and their answers**, in the order of the journal. -/
def exchanges (i : Nat) (journal : List Timed) : List Timed :=
  journal.filter fun timed => timed.event.isExchange i

/-- The replies that questions and their answers amount to. -/
def pairUp : List Timed → List Reply
  | ⟨asked, .called _ _⟩ :: ⟨heard, .answered _ outcome⟩ :: rest =>
    ⟨outcome, heard - asked⟩ :: pairUp rest
  | _ => []

/-- **The replies to the questions for a position**, read off the journal. -/
def repliesTo (i : Nat) (journal : List Timed) : List Reply := pairUp (exchanges i journal)

section

variable {c : Config} {i begun : Nat} {address : Address}

/-- **The replies of a dialogue are read back.** -/
theorem pairUp_dialogue (replies : List Reply) :
    pairUp (dialogue c i address begun replies) = replies := by
  induction replies generalizing begun with
  | nil => rfl
  | cons reply rest ih => rw [dialogue, pairUp, ih, Nat.add_sub_cancel_left]

theorem repliesTo_eq {journal : List Timed} {replies : List Reply}
    (h : exchanges i journal = dialogue c i address begun replies) :
    repliesTo i journal = replies := by
  rw [repliesTo, h, pairUp_dialogue]

theorem resumesAt_cons (reply : Reply) (rest : List Reply) :
    resumesAt c begun (reply :: rest) =
      resumesAt c (begun + reply.delay + c.retryDelay) rest := by
  simp only [resumesAt, List.map_cons, List.sum_cons, List.length_cons, Nat.succ_mul]
  omega

/-- **A reply more**, and then the pause. -/
theorem resumesAt_concat (replies : List Reply) (reply : Reply) :
    resumesAt c begun (replies ++ [reply]) =
      resumesAt c begun replies + reply.delay + c.retryDelay := by
  simp only [resumesAt, List.map_append, List.sum_append, List.map_cons, List.map_nil,
    List.sum_singleton, List.length_append, List.length_singleton, Nat.succ_mul]
  omega

/-- The last reply comes when the time of the dialogue is over. -/
theorem add_timeOf_concat (replies : List Reply) (reply : Reply) :
    begun + timeOf c (replies ++ [reply]) = resumesAt c begun replies + reply.delay := by
  simp only [timeOf, resumesAt, List.map_append, List.sum_append, List.map_cons, List.map_nil,
    List.sum_singleton, List.length_append, List.length_singleton, Nat.add_sub_cancel]
  omega

/-- **A dialogue goes on with a question** when it resumes, and its answer after the delay. -/
theorem dialogue_concat (replies : List Reply) (reply : Reply) :
    dialogue c i address begun (replies ++ [reply]) = dialogue c i address begun replies ++
      [⟨resumesAt c begun replies, .called i address⟩,
        ⟨resumesAt c begun replies + reply.delay, .answered i reply.outcome⟩] := by
  induction replies generalizing begun with
  | nil => simp [dialogue, resumesAt]
  | cons first rest ih => rw [List.cons_append, dialogue, dialogue, ih, resumesAt_cons]; rfl

end

/-! ## What a journal tells of them -/

@[simp] theorem exchanges_append (i : Nat) (J K : List Timed) :
    exchanges i (J ++ K) = exchanges i J ++ exchanges i K := List.filter_append ..

/-- Events about other positions are no exchanges for this one. -/
theorem exchanges_eq_nil {i : Nat} {J : List Timed}
    (h : ∀ timed ∈ J, timed.event.position? ≠ some i) : exchanges i J = [] := by
  refine List.filter_eq_nil_iff.2 fun timed ht => ?_
  have hne := h timed ht
  unfold Event.position? at hne
  unfold Event.isExchange
  grind

/-- …so they change nothing. -/
theorem exchanges_append_of_other {i : Nat} {J K : List Timed}
    (h : ∀ timed ∈ K, timed.event.position? ≠ some i) :
    exchanges i (J ++ K) = exchanges i J := by
  rw [exchanges_append, exchanges_eq_nil h, List.append_nil]

theorem repliesTo_congr {i : Nat} {J K : List Timed} (h : exchanges i K = exchanges i J) :
    repliesTo i K = repliesTo i J := congrArg pairUp h

/-- Some replies are those of an API to the successive questions of a dialogue. -/
def Given (service : Service σ) (c : Config) (i : Nat) (address : Address) (begun : Nat)
    (replies : List Reply) : Prop :=
  ∀ n reply, replies[n]? = some reply → ∃ state,
    (service.answer state ⟨i, address, n + 1, resumesAt c begun (replies.take n)⟩).1 = reply

/-- One reply more is given. -/
theorem Given.concat {service : Service σ} {c : Config} {i begun : Nat} {address : Address}
    {replies : List Reply} (h : Given service c i address begun replies) (state : σ) :
    Given service c i address begun (replies ++ [(service.answer state
      ⟨i, address, replies.length + 1, resumesAt c begun replies⟩).1]) := by
  intro n reply hn
  rcases Nat.lt_trichotomy n replies.length with hlt | rfl | hgt
  · rw [List.getElem?_append_left hlt] at hn
    rw [List.take_append_of_le_length hlt.le]
    exact h n reply hn
  · rw [List.getElem?_concat_length] at hn
    rw [List.take_left]
    exact ⟨state, Option.some.inj hn⟩
  · rw [List.getElem?_eq_none (by simp; omega)] at hn
    cases hn

/-- **A lookup was served with some replies**: the API gave them, and the journal holds the dialogue
that they make. -/
structure Served (service : Service σ) (c : Config) (i : Nat) (address : Address) (begun : Nat)
    (journal : List Timed) (replies : List Reply) : Prop where
  ne_nil : replies ≠ []
  given : Given service c i address begun replies
  exchanged : exchanges i journal = dialogue c i address begun replies

/-- Only the exchanges for the position count. -/
theorem Served.congr {service : Service σ} {c : Config} {i begun : Nat} {address : Address}
    {J K : List Timed} {replies : List Reply} (h : Served service c i address begun J replies)
    (hsame : exchanges i K = exchanges i J) : Served service c i address begun K replies :=
  ⟨h.ne_nil, h.given, hsame.trans h.exchanged⟩

/-- The last that is heard in a dialogue is its last answer, when its time is over. -/
theorem Served.getLast?_exchanges {service : Service σ} {c : Config} {i begun : Nat}
    {address : Address} {J : List Timed} {replies : List Reply}
    (h : Served service c i address begun J replies) : ∃ outcome, (exchanges i J).getLast? =
      some ⟨begun + timeOf c replies, .answered i outcome⟩ := by
  obtain ⟨before, reply, rfl⟩ := (List.eq_nil_or_concat replies).resolve_left h.ne_nil
  rw [List.concat_eq_append] at h ⊢
  refine ⟨reply.outcome, ?_⟩
  rw [h.exchanged, dialogue_concat, add_timeOf_concat, List.getLast?_append]
  rfl

/-! Of one more event. -/

theorem exchanges_called (i t p : Nat) (a : Address) (J : List Timed) :
    exchanges i (J ++ [⟨t, .called p a⟩]) =
      exchanges i J ++ if p = i then [⟨t, .called p a⟩] else [] := by
  by_cases h : p = i <;> simp [exchanges, Event.isExchange, h]

theorem exchanges_answered (i t p : Nat) (o : Outcome) (J : List Timed) :
    exchanges i (J ++ [⟨t, .answered p o⟩]) =
      exchanges i J ++ if p = i then [⟨t, .answered p o⟩] else [] := by
  by_cases h : p = i <;> simp [exchanges, Event.isExchange, h]

theorem exchanges_retrying (i t p n : Nat) (a : Address) (fault : ApiFault) (J : List Timed) :
    exchanges i (J ++ [⟨t, .retrying p a n fault⟩]) = exchanges i J := by
  simp [exchanges, Event.isExchange]

/-! ## What every move keeps -/

/-- **A flight is on time**: it was given some replies, and is due when the dialogue resumes, or when
the reply to an open question has taken its time. -/
def Flight.OnTime (p : Plan σ) (begun : Nat) (journal : List Timed) (f : Flight) : Prop :=
  ∃ replies, replies.length + 1 + f.left = p.config.attempts ∧
    Given p.service p.config f.position f.entry.address begun replies ∧
    match f.phase with
    | .ask _ => f.due = resumesAt p.config begun replies ∧
        exchanges f.position journal =
          dialogue p.config f.position f.entry.address begun replies
    | .hear _ outcome => ∃ delay, f.due = resumesAt p.config begun replies + delay ∧
        Given p.service p.config f.position f.entry.address begun (replies ++ [⟨outcome, delay⟩]) ∧
        exchanges f.position journal =
          dialogue p.config f.position f.entry.address begun replies ++
            [⟨resumesAt p.config begun replies, .called f.position f.entry.address⟩]

/-- **A batch is on time**: its flights are, and its landed entries were served; if none is left on
its way, the last one has just landed. -/
structure OnTime (p : Plan σ) (first begun : Nat) (batch : List Allocation) (b : Batch σ) :
    Prop where
  flying : ∀ f ∈ b.flights, f.OnTime p begun b.journal.reverse
  landed : ∀ k entry, batch[k]? = some entry → first + k ∉ b.flights.map Flight.position →
    ∃ replies, Served p.service p.config (first + k) entry.address begun b.journal.reverse replies ∧
      begun + timeOf p.config replies ≤ b.instant
  attained : b.flights = [] → ∃ k entry replies, batch[k]? = some entry ∧
    Served p.service p.config (first + k) entry.address begun b.journal.reverse replies ∧
    begun + timeOf p.config replies = b.instant

namespace OnTime

variable {promise : Promise} {p : Plan σ} {first begun : Nat} {batch : List Allocation}
  {journal₀ added : List Timed} {b b' : Batch σ} {f : Flight} {rest : List Flight}

/-- **What a move does to a batch on time**: its flight is still on its way, and on time, or its
lookup is over now. -/
theorem step (h : OnTime p first begun batch b) (hcourse : Course promise p first batch b)
    (hclock : OnClock first begun batch journal₀ b) (hb : b.flights = f :: rest)
    (hinstant : b'.instant = f.due) (hjournal : b'.journal = added ++ b.journal)
    (hadded : ∀ timed ∈ added, timed.event.position? = some f.position)
    (hmove : (∃ moved : Flight, b'.flights = moved.insert rest ∧ moved.position = f.position ∧
        moved.OnTime p begun b'.journal.reverse) ∨
      b'.flights = rest ∧ ∃ replies, Served p.service p.config f.position f.entry.address begun
        b'.journal.reverse replies ∧ begun + timeOf p.config replies = f.due) :
    OnTime p first begun batch b' := by
  have hnow : b.instant ≤ f.due := hclock.due f (hb ▸ List.mem_cons_self)
  have hdistinct : f.position ∉ rest.map Flight.position := by
    have := hcourse.nodup
    rw [hb, List.map_cons, List.nodup_cons] at this
    exact this.1
  have helse : ∀ i, i ≠ f.position →
      exchanges i b'.journal.reverse = exchanges i b.journal.reverse := fun i hi => by
    rw [hjournal, List.reverse_append]
    refine exchanges_append_of_other fun timed ht hp => hi ?_
    rw [hadded timed (List.mem_reverse.1 ht)] at hp
    exact (Option.some.inj hp).symm
  have hrest : ∀ g ∈ rest, g.OnTime p begun b'.journal.reverse := fun g hg => by
    have hne : g.position ≠ f.position := fun he => hdistinct (he ▸ List.mem_map_of_mem hg)
    unfold Flight.OnTime
    rw [helse _ hne]
    exact h.flying g (hb ▸ List.mem_cons_of_mem _ hg)
  -- An entry that had landed before is served as it was.
  have hbefore : ∀ k entry, batch[k]? = some entry → first + k ≠ f.position →
      first + k ∉ rest.map Flight.position → ∃ replies, Served p.service p.config (first + k)
        entry.address begun b'.journal.reverse replies ∧
        begun + timeOf p.config replies ≤ f.due := fun k entry hk hne hout => by
    obtain ⟨replies, hserved, hle⟩ := h.landed k entry hk (by simp [hb, hne, hout])
    exact ⟨replies, hserved.congr (helse _ hne), hle.trans hnow⟩
  rcases hmove with ⟨moved, hflights, hposition, hmoved⟩ | ⟨hflights, replies, hserved, hdue⟩
  · have hmem : ∀ i, i ∈ b'.flights.map Flight.position ↔
        i = f.position ∨ i ∈ rest.map Flight.position := fun i => by
      rw [hflights, ((moved.perm_insert rest).map _).mem_iff, List.map_cons, hposition,
        List.mem_cons]
    refine ⟨fun g hg => ?_, fun k entry hk hout => ?_, fun hnone => ?_⟩
    · rw [hflights, Flight.mem_insert] at hg
      rcases hg with rfl | hg
      · exact hmoved
      · exact hrest g hg
    · rw [hmem, not_or] at hout
      rw [hinstant]
      exact hbefore k entry hk hout.1 hout.2
    · have := (moved.perm_insert rest).length_eq
      rw [← hflights, hnone] at this
      cases this
  · obtain ⟨k, hk, hentry⟩ := (hcourse.flying f (hb ▸ List.mem_cons_self)).1
    rw [hk] at hserved
    refine ⟨fun g hg => hrest g (hflights ▸ hg), fun j entry hj hout => ?_, fun _ => ?_⟩
    · rw [hflights] at hout
      rw [hinstant]
      by_cases he : first + j = f.position
      · obtain rfl : j = k := by omega
        obtain rfl := Option.some.inj (hj.symm.trans hentry)
        exact ⟨replies, hserved, hdue.le⟩
      · exact hbefore j entry hj he hout
    · rw [hinstant]
      exact ⟨k, f.entry, replies, hentry, hserved, hdue⟩

/-- **Every move keeps a batch on time.** -/
theorem move (h : OnTime p first begun batch b) (hcourse : Course promise p first batch b)
    (hclock : OnClock first begun batch journal₀ b) (hb : b.flights = f :: rest) :
    OnTime p first begun batch (b.move p f rest) := by
  obtain ⟨replies, hattempts, hgiven, hphases⟩ := h.flying f (hb ▸ List.mem_cons_self)
  unfold Batch.move
  split
  · next left hphase =>
    simp only [hphase] at hphases
    obtain ⟨hdue, hexchanged⟩ := hphases
    have hleft : f.left = left := by rw [Flight.left, hphase]
    have hmade : p.config.made left = replies.length + 1 := made_eq (hleft ▸ hattempts)
    have hnext := hgiven.concat b.state
    rw [← hmade, ← hdue] at hnext
    refine h.step hcourse hclock hb rfl (List.singleton_append).symm (by simp [Event.position?])
      (.inl ⟨_, rfl, rfl, replies, hleft ▸ hattempts, hgiven, _, congrArg (· + _) hdue, hnext, ?_⟩)
    rw [Batch.ask, List.reverse_cons, exchanges_called, if_pos rfl, hexchanged, hdue]
  · next left outcome hphase =>
    simp only [hphase] at hphases
    obtain ⟨delay, hdue, hnext, hexchanged⟩ := hphases
    have hleft : f.left = left := by rw [Flight.left, hphase]
    have hheard : exchanges f.position (b.journal.reverse ++
          [⟨f.due, .answered f.position outcome⟩]) =
        dialogue p.config f.position f.entry.address begun (replies ++ [⟨outcome, delay⟩]) := by
      rw [exchanges_answered, if_pos rfl, hexchanged, dialogue_concat, hdue, List.append_assoc]
      rfl
    split
    · next more fault hv =>
      obtain ⟨rfl, -, rfl⟩ := worthRetrying_of_verdict hv
      refine h.step hcourse hclock hb rfl (show _ = [_, _] ++ b.journal from rfl)
        (by simp [Event.position?]) (.inl ⟨_, rfl, rfl, replies ++ [⟨.error fault, delay⟩], ?_,
          hnext, ?_, ?_⟩)
      · rw [List.length_append, List.length_singleton]
        change replies.length + 1 + 1 + more = p.config.attempts
        omega
      · rw [resumesAt_concat, ← hdue]
      · rw [Batch.askAgain, List.reverse_cons, List.reverse_cons, exchanges_retrying]
        exact hheard
    · refine h.step hcourse hclock hb rfl (List.singleton_append).symm (by simp [Event.position?])
        (.inr ⟨rfl, replies ++ [⟨outcome, delay⟩], ⟨by simp, hnext, ?_⟩, ?_⟩)
      · rw [Batch.land, List.reverse_cons]
        exact hheard
      · rw [add_timeOf_concat, hdue]

/-- A batch begins on time: nothing has been asked on its behalf. -/
theorem start (c : Config) (hc : p.config = c) (first begun : Nat) (state : σ)
    (journal : List Timed) (hbatch : batch ≠ [])
    (hsilent : ∀ i, first ≤ i → exchanges i journal.reverse = []) :
    OnTime p first begun batch (Batch.start c first begun state journal batch) := by
  subst hc
  have hpositions := map_position_flightsOf p.config begun first batch
  refine ⟨fun f hf => ?_, fun k entry hk hout => absurd ?_ hout, fun hnone => ?_⟩
  · obtain ⟨k, entry, hk, rfl⟩ := mem_flightsOf.1 hf
    refine ⟨[], ?_, fun n reply hn => by simp at hn, ?_, ?_⟩
    · have := p.config.attempts_pos
      simp only [List.length_nil, Flight.left]
      omega
    · simp [resumesAt]
    · exact hsilent _ (Nat.le_add_right _ _)
  · rw [Batch.start, hpositions, List.mem_range'_1]
    have := (List.getElem?_eq_some_iff.1 hk).1
    omega
  · have hnil : Batch.flightsOf p.config begun first batch = [] := hnone
    have hlength := congrArg List.length hpositions
    rw [hnil, List.length_range'] at hlength
    exact absurd (List.length_eq_zero_iff.1 hlength.symm) hbatch

/-- **A batch that ends well ends when its longest lookup does**: all of its entries were served, the
last one just now. -/
theorem run (h : OnTime p first begun batch b) (hcourse : Course (produced p.service) p first batch b)
    (hclock : OnClock first begun batch journal₀ b) (hfailure : (b.run p).failure = none) :
    (∀ k entry, batch[k]? = some entry → ∃ replies,
      Served p.service p.config (first + k) entry.address begun (b.run p).journal.reverse replies ∧
        begun + timeOf p.config replies ≤ (b.run p).instant) ∧
    ∃ k entry replies, batch[k]? = some entry ∧
      Served p.service p.config (first + k) entry.address begun (b.run p).journal.reverse replies ∧
      begun + timeOf p.config replies = (b.run p).instant := by
  obtain ⟨last, ⟨hlast, -, -⟩, hrun, hempty⟩ := Batch.run_invariant
    (motive := fun b => OnTime p first begun batch b ∧
      Course (produced p.service) p first batch b ∧ OnClock first begun batch journal₀ b)
    (fun _ _ _ hb ⟨h, hcourse, hclock⟩ => ⟨h.move hcourse hclock hb,
      hcourse.move (keeps_produced _) hb, hclock.move hb⟩) b ⟨h, hcourse, hclock⟩
  rw [hrun] at hfailure ⊢
  have hflights : last.flights = [] := hempty hfailure
  exact ⟨fun k entry hk => hlast.landed k entry hk (by simp [hflights]), hlast.attained hflights⟩

end OnTime

end Airdrop.Verification
