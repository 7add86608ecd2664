import Airdrop.Vesting
import Mathlib.Algebra.BigOperators.Group.List.Basic
import Mathlib.Algebra.Order.Ring.Nat
import Mathlib.Data.Nat.Basic

/-!
# Proofs/Vesting — withdrawals never get ahead of what is unlocked

In unbounded arithmetic the unlocked amount is a function of the locked amount and the time
(`unlockedPart`): it never exceeds what is locked and **never goes back**.  The words of the account
compute just that (`unlockedAt_eq`), so long as the window has a length in 64 bits.

Whoever withdraws no more than can be withdrawn stays covered by it (`Covered`), at every later
time as well.  What is left to withdraw is then all that is unlocked and not withdrawn yet, so
**nothing is lost to rounding on the way**, however many withdrawals there have been.
-/

namespace Airdrop

/-- **A withdrawal of the unlocked part of a claim.** -/
structure Withdrawal where
  instant : Int64
  amount : UInt64
  deriving DecidableEq

namespace ClaimStatus

variable {s : ClaimStatus} {now now' start stop : Int64} {unlocked most : UInt64}

/-! ## What is unlocked -/

/-- **What of a locked amount is unlocked at a time**: nothing before the window, everything behind
it, and within it the share of the time passed, rounded down. -/
def unlockedPart (locked : Nat) (now start stop : Int) : Nat :=
  if now < start then 0
  else if stop ≤ now then locked
  else locked * (now - start).toNat / (stop - start).toNat

/-- Never more than is locked. -/
theorem unlockedPart_le (locked : Nat) (now start stop : Int) :
    unlockedPart locked now start stop ≤ locked := by
  rw [unlockedPart]
  split_ifs with hbefore hbehind
  · exact Nat.zero_le _
  · exact Nat.le_refl _
  · exact Nat.div_le_of_le_mul (by
      rw [Nat.mul_comm (stop - start).toNat]
      exact Nat.mul_le_mul_left _ (by omega))

/-- **It never goes back.** -/
theorem unlockedPart_mono (locked : Nat) {now now' : Int} (start stop : Int) (h : now ≤ now') :
    unlockedPart locked now start stop ≤ unlockedPart locked now' start stop := by
  by_cases hbehind : start ≤ now' ∧ stop ≤ now'
  · calc unlockedPart locked now start stop
      _ ≤ locked := unlockedPart_le _ _ _ _
      _ = unlockedPart locked now' start stop := by
        rw [unlockedPart, if_neg (by omega), if_pos hbehind.2]
  · by_cases hbefore : now < start
    · rw [unlockedPart, if_pos hbefore]
      exact Nat.zero_le _
    · rw [unlockedPart, if_neg hbefore, if_neg (by omega), unlockedPart, if_neg (by omega),
        if_neg (by omega)]
      exact Nat.div_le_div_right (Nat.mul_le_mul_left _ (by omega))

/-- Within the window it is short of the exact share by less than one. -/
theorem unlockedPart_bounds (locked : Nat) {now start stop : Int} (hstart : start ≤ now)
    (hstop : now < stop) :
    (unlockedPart locked now start stop : Int) * (stop - start) ≤ locked * (now - start) ∧
      locked * (now - start) < (unlockedPart locked now start stop + 1) * (stop - start) := by
  obtain ⟨passed, hpassed⟩ := Int.eq_ofNat_of_zero_le (Int.sub_nonneg_of_le hstart)
  obtain ⟨window, hwindow⟩ := Int.eq_ofNat_of_zero_le (a := stop - start) (by omega)
  rw [unlockedPart, if_neg (by omega), if_neg (by omega), hpassed, hwindow, Int.toNat_natCast,
    Int.toNat_natCast]
  norm_cast
  refine ⟨Nat.div_mul_le_self _ _, ?_⟩
  rw [Nat.mul_comm _ window]
  exact Nat.lt_mul_div_succ _ (by omega)

/-- **The unlocked amount is this part**, in a window with a length. -/
theorem unlockedAt_eq (s : ClaimStatus) (now : Int64)
    (hwindow : stop.toInt - start.toInt ≤ 2 ^ 63 - 1) :
    ∃ unlocked, s.unlockedAt now start stop = .ok unlocked ∧
      unlocked.toNat = unlockedPart s.locked.toNat now.toInt start.toInt stop.toInt := by
  have hlong : ¬ maxWindow < stop.toInt - start.toInt := Int.not_lt.2 hwindow
  have hle := unlockedPart_le s.locked.toNat now.toInt start.toInt stop.toInt
  rw [unlockedPart] at hle ⊢
  simp only [unlockedAt, Int64.lt_iff_toInt_lt, Int64.le_iff_toInt_le, if_neg hlong]
  split_ifs at hle ⊢
  · exact ⟨0, rfl, rfl⟩
  · exact ⟨s.locked, rfl, rfl⟩
  · refine ⟨_, rfl, ?_⟩
    rw [Nat.mul_comm]
    exact UInt64.toNat_ofNat_of_lt' (Nat.lt_of_le_of_lt hle s.locked.toNat_lt)

section

variable (hwindow : stop.toInt - start.toInt ≤ 2 ^ 63 - 1)
  (hunlocked : s.unlockedAt now start stop = .ok unlocked)

include hwindow hunlocked

theorem toNat_unlocked :
    unlocked.toNat = unlockedPart s.locked.toNat now.toInt start.toInt stop.toInt := by
  obtain ⟨unlocked', hunlocked', hpart⟩ := s.unlockedAt_eq now hwindow
  rwa [← Except.ok.inj (hunlocked.symm.trans hunlocked')] at hpart

theorem le_locked : unlocked ≤ s.locked := by
  rw [UInt64.le_iff_toNat_le, toNat_unlocked hwindow hunlocked]
  exact unlockedPart_le _ _ _ _

/-- **Behind the window everything is unlocked.** -/
theorem eq_locked (hstart : start ≤ now) (hstop : stop ≤ now) : unlocked = s.locked := by
  rw [Int64.le_iff_toInt_le] at hstart hstop
  rw [← UInt64.toNat_inj, toNat_unlocked hwindow hunlocked, unlockedPart,
    if_neg (Int.not_lt.2 hstart), if_pos hstop]

/-- **What is unlocked stays so.** -/
theorem unlocked_le {unlocked' : UInt64} (hle : now ≤ now')
    (hunlocked' : s.unlockedAt now' start stop = .ok unlocked') : unlocked ≤ unlocked' := by
  rw [UInt64.le_iff_toNat_le, toNat_unlocked hwindow hunlocked, toNat_unlocked hwindow hunlocked']
  exact unlockedPart_mono _ _ _ (Int64.le_iff_toInt_le.1 hle)

end

/-! ## One withdrawal -/

/-- **Withdrawals are covered at a time** if no more has been withdrawn than is unlocked then. -/
def Covered (start stop : Int64) (s : ClaimStatus) (now : Int64) : Prop :=
  ∃ unlocked, s.unlockedAt now start stop = .ok unlocked ∧ s.withdrawn ≤ unlocked

/-- The status after a withdrawal. -/
def withdraw (s : ClaimStatus) (amount : UInt64) : ClaimStatus :=
  { s with withdrawn := s.withdrawn + amount }

/-- A withdrawal does not change what is unlocked. -/
@[simp] theorem unlockedAt_withdraw (s : ClaimStatus) (amount : UInt64) (now start stop : Int64) :
    (s.withdraw amount).unlockedAt now start stop = s.unlockedAt now start stop := rfl

/-- **What is covered stays so.** -/
theorem Covered.later (hwindow : stop.toInt - start.toInt ≤ 2 ^ 63 - 1) (hle : now ≤ now')
    (h : Covered start stop s now) : Covered start stop s now' := by
  obtain ⟨unlocked, hunlocked, hwithdrawn⟩ := h
  obtain ⟨later, hlater, -⟩ := s.unlockedAt_eq now' hwindow
  exact ⟨later, hlater, UInt64.le_trans hwithdrawn (unlocked_le hwindow hunlocked hle hlater)⟩

/-- **What is covered can be withdrawn**: all that is unlocked and has not been withdrawn. -/
theorem Covered.exists_withdrawable (h : Covered start stop s now) :
    ∃ unlocked most, s.unlockedAt now start stop = .ok unlocked ∧
      s.withdrawableAt now start stop = .ok most ∧
      s.withdrawn.toNat + most.toNat = unlocked.toNat := by
  obtain ⟨unlocked, hunlocked, hle⟩ := h
  refine ⟨unlocked, unlocked - s.withdrawn, hunlocked, ?_, ?_⟩
  · rw [withdrawableAt, hunlocked]
    simp only [bind, Except.bind, Word.sub?, if_pos hle]
    rfl
  · rw [UInt64.toNat_sub_of_le _ _ hle]
    exact Nat.add_sub_cancel' (UInt64.le_iff_toNat_le.1 hle)

/-- **A withdrawal of no more than that leaves the status covered**, and nothing wraps. -/
theorem Covered.withdraw {amount : UInt64} (h : Covered start stop s now)
    (hallowed : ∀ most, s.withdrawableAt now start stop = .ok most → amount ≤ most) :
    Covered start stop (s.withdraw amount) now ∧
      (s.withdraw amount).withdrawn.toNat = s.withdrawn.toNat + amount.toNat := by
  obtain ⟨unlocked, most, hunlocked, hmost, hsum⟩ := h.exists_withdrawable
  have hle : amount.toNat ≤ most.toNat := UInt64.le_iff_toNat_le.1 (hallowed most hmost)
  have hadd : (s.withdraw amount).withdrawn.toNat = s.withdrawn.toNat + amount.toNat := by
    have hlt := unlocked.toNat_lt
    exact (UInt64.toNat_add _ _).trans (Nat.mod_eq_of_lt (by omega))
  refine ⟨⟨unlocked, hunlocked, UInt64.le_iff_toNat_le.2 ?_⟩, hadd⟩
  omega

/-! ## Any number of withdrawals -/

/-- The status after some withdrawals. -/
def withdrawAll (s : ClaimStatus) (withdrawals : List Withdrawal) : ClaimStatus :=
  withdrawals.foldl (fun s w => s.withdraw w.amount) s

/-- **Some withdrawals are allowed** if each takes at most what can be withdrawn when it is made. -/
def Allowed (start stop : Int64) : ClaimStatus → List Withdrawal → Prop
  | _, [] => True
  | s, w :: rest =>
    (∀ most, s.withdrawableAt w.instant start stop = .ok most → w.amount ≤ most) ∧
      Allowed start stop (s.withdraw w.amount) rest

/-- What can be withdrawn at most is known. -/
theorem allowed_cons {w : Withdrawal} {rest : List Withdrawal}
    (hmost : s.withdrawableAt w.instant start stop = .ok most) (hle : w.amount ≤ most)
    (hrest : Allowed start stop (s.withdraw w.amount) rest) : Allowed start stop s (w :: rest) :=
  ⟨fun _ h => Except.ok.inj (hmost.symm.trans h) ▸ hle, hrest⟩

@[simp] theorem unlockedAt_withdrawAll (withdrawals : List Withdrawal) (s : ClaimStatus)
    (now start stop : Int64) :
    (s.withdrawAll withdrawals).unlockedAt now start stop = s.unlockedAt now start stop := by
  induction withdrawals generalizing s with
  | nil => rfl
  | cons w rest ih =>
    exact (ih (s.withdraw w.amount)).trans (unlockedAt_withdraw s w.amount now start stop)

/-- **Withdrawals in the order of time are covered, one and all**, and add up. -/
theorem Covered.withdrawAll (hwindow : stop.toInt - start.toInt ≤ 2 ^ 63 - 1) :
    ∀ (before : List Withdrawal) (s : ClaimStatus) (w : Withdrawal) (after : List Withdrawal),
    (before ++ w :: after).Pairwise (fun w w' => w.instant ≤ w'.instant) →
    (∀ first ∈ (before ++ w :: after).head?, Covered start stop s first.instant) →
    Allowed start stop s (before ++ w :: after) →
    Covered start stop (s.withdrawAll before) w.instant ∧
      (s.withdrawAll before).withdrawn.toNat =
        s.withdrawn.toNat + (before.map fun w => w.amount.toNat).sum ∧
      ∀ most, (s.withdrawAll before).withdrawableAt w.instant start stop = .ok most →
        w.amount ≤ most
  | [], s, w, after, _, hfirst, hallowed => ⟨hfirst w rfl, rfl, hallowed.1⟩
  | v :: before, s, w, after, hordered, hfirst, hallowed => by
      obtain ⟨hearlier, hordered⟩ := List.pairwise_cons.1 hordered
      obtain ⟨hcovered, hadd⟩ := (hfirst v rfl).withdraw hallowed.1
      have hnext : ∀ first ∈ (before ++ w :: after).head?,
          Covered start stop (s.withdraw v.amount) first.instant := fun first hfirst =>
        hcovered.later hwindow (hearlier first (List.mem_of_mem_head? hfirst))
      obtain ⟨hat, hsum, hmost⟩ :=
        Covered.withdrawAll hwindow before (s.withdraw v.amount) w after hordered hnext hallowed.2
      refine ⟨hat, hsum.trans ?_, hmost⟩
      rw [hadd, List.map_cons, List.sum_cons, Nat.add_assoc]

/-- **Vesting never over-pays, never goes back and does not drift.**  In a window with a length
there is an unlocked amount at every time, the share of the time passed rounded down, and it is no
less at a later time.  Of withdrawals in the order of time, the first of them covered and each of at
most what could be withdrawn, every one finds those before it covered.  What can be withdrawn is
then the unlocked amount less just what has been withdrawn, and behind the window all that is
locked less that. -/
theorem vests_without_drift (s : ClaimStatus) (start stop : Int64)
    (hwindow : stop.toInt - start.toInt ≤ 2 ^ 63 - 1) :
    (∀ now, ∃ unlocked, s.unlockedAt now start stop = .ok unlocked ∧ unlocked ≤ s.locked ∧
      (now < start → unlocked = 0) ∧
      (start ≤ now → stop ≤ now → unlocked = s.locked) ∧
      (start ≤ now → now < stop →
        (unlocked.toNat : Int) * (stop.toInt - start.toInt) ≤
          s.locked.toNat * (now.toInt - start.toInt) ∧
        s.locked.toNat * (now.toInt - start.toInt) <
          (unlocked.toNat + 1) * (stop.toInt - start.toInt))) ∧
    (∀ now now' unlocked unlocked', now ≤ now' → s.unlockedAt now start stop = .ok unlocked →
      s.unlockedAt now' start stop = .ok unlocked' → unlocked ≤ unlocked') ∧
    ∀ withdrawals : List Withdrawal,
      withdrawals.Pairwise (fun w w' => w.instant ≤ w'.instant) →
      (∀ first ∈ withdrawals.head?, Covered start stop s first.instant) →
      Allowed start stop s withdrawals →
      ∀ before w after, withdrawals = before ++ w :: after → ∃ unlocked most,
        s.unlockedAt w.instant start stop = .ok unlocked ∧
        (s.withdrawAll before).unlockedAt w.instant start stop = .ok unlocked ∧
        (s.withdrawAll before).withdrawableAt w.instant start stop = .ok most ∧
        (s.withdrawAll before).withdrawn.toNat =
          s.withdrawn.toNat + (before.map fun w => w.amount.toNat).sum ∧
        (s.withdrawAll before).withdrawn.toNat + most.toNat = unlocked.toNat ∧
        (s.withdrawAll before).withdrawn ≤ unlocked ∧
        ((s.withdrawAll before).withdraw w.amount).withdrawn ≤ unlocked ∧
        unlocked ≤ s.locked ∧
        (start ≤ w.instant → stop ≤ w.instant → unlocked = s.locked) := by
  refine ⟨fun now => ?_, fun now now' unlocked unlocked' hle h h' => unlocked_le hwindow h hle h',
    fun withdrawals hordered hfirst hallowed before w after hsplit => ?_⟩
  · obtain ⟨unlocked, hunlocked, hpart⟩ := s.unlockedAt_eq now hwindow
    refine ⟨unlocked, hunlocked, le_locked hwindow hunlocked, fun hbefore => ?_,
      eq_locked hwindow hunlocked, fun hstart hstop => ?_⟩
    · rw [unlockedAt, if_pos hbefore] at hunlocked
      exact (Except.ok.inj hunlocked).symm
    · rw [hpart]
      exact unlockedPart_bounds _ (Int64.le_iff_toInt_le.1 hstart) (Int64.lt_iff_toInt_lt.1 hstop)
  · subst hsplit
    obtain ⟨hcovered, hsum, hmost⟩ :=
      Covered.withdrawAll hwindow before s w after hordered hfirst hallowed
    obtain ⟨unlocked, most, hunlocked, hwithdrawable, hleft⟩ := hcovered.exists_withdrawable
    obtain ⟨unlocked', hunlocked', hstill⟩ := (hcovered.withdraw hmost).1
    obtain rfl := Except.ok.inj (hunlocked.symm.trans hunlocked')
    have hbefore := (unlockedAt_withdrawAll before s w.instant start stop).symm.trans hunlocked
    refine ⟨unlocked, most, hbefore, hunlocked, hwithdrawable, hsum, hleft,
      UInt64.le_iff_toNat_le.2 (by omega), hstill, le_locked hwindow hbefore,
      eq_locked hwindow hbefore⟩

/-- Ten units over three instants: 3, 6 and 10 are unlocked, and the third withdrawal gets the four
that are left. -/
theorem vests_without_drift_of_ten :
    (3 : Int64).toInt - (0 : Int64).toInt ≤ 2 ^ 63 - 1 ∧
    Covered 0 3 { locked := 10 } 1 ∧
    Allowed 0 3 { locked := 10 } [⟨1, 3⟩, ⟨2, 3⟩, ⟨5, 4⟩] ∧
    ∃ most, (withdrawAll { locked := 10 } [⟨1, 3⟩, ⟨2, 3⟩]).withdrawableAt 5 0 3 = .ok most ∧
      (withdrawAll { locked := 10 } [⟨1, 3⟩, ⟨2, 3⟩]).withdrawn.toNat + most.toNat = 10 := by
  have hwindow : (3 : Int64).toInt - (0 : Int64).toInt ≤ 2 ^ 63 - 1 := by decide
  have hcovered : Covered 0 3 { locked := 10 } 1 := ⟨3, rfl, by decide⟩
  have hallowed : Allowed 0 3 { locked := 10 } [⟨1, 3⟩, ⟨2, 3⟩, ⟨5, 4⟩] :=
    allowed_cons rfl (by decide) (allowed_cons rfl (by decide) (allowed_cons rfl (by decide) trivial))
  obtain ⟨unlocked, most, -, -, hmost, -, hleft, -, -, -, hall⟩ :=
    (vests_without_drift { locked := 10 } 0 3 hwindow).2.2 [⟨1, 3⟩, ⟨2, 3⟩, ⟨5, 4⟩] (by decide)
      (fun first hfirst => by cases hfirst; exact hcovered) hallowed [⟨1, 3⟩, ⟨2, 3⟩] ⟨5, 4⟩ [] rfl
  refine ⟨hwindow, hcovered, hallowed, most, hmost, hleft.trans ?_⟩
  rw [hall (by decide) (by decide)]
  rfl

end ClaimStatus

end Airdrop
