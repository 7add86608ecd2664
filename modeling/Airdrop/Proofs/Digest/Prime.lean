import Mathlib.Data.List.Prime
import Mathlib.NumberTheory.LucasPrimality
import Mathlib.Tactic.NormNum.Prime

/-!
# Proofs/Digest/Prime — large primes, by certificate

A number is prime if some base has order `number - 1` modulo it, which is seen from a few powers once
the factors of `number - 1` are known.  A `Certificate` names the base and the factors, and **whether
it holds can be computed**; its factors are certified in turn, down to primes that are small.
-/

namespace Airdrop

/-! ## Powers -/

/-- `base ^ n` modulo `m`, for an exponent of so many binary digits. -/
def powMod (m : Nat) : (digits base n : Nat) → Nat
  | 0, _, _ => 1 % m
  | digits + 1, base, n =>
    (if n % 2 = 1 then base else 1) * powMod m digits (base * base % m) (n / 2) % m

theorem powMod_eq (m : Nat) : ∀ digits base n : Nat, n < 2 ^ digits →
    powMod m digits base n = base ^ n % m
  | 0, base, n, h => by
      obtain rfl : n = 0 := by simpa using h
      rw [powMod, pow_zero]
  | digits + 1, base, n, h => by
      have hhalf : n / 2 < 2 ^ digits := by rw [pow_succ] at h; omega
      have hsquares : (base * base % m) ^ (n / 2) % m = base ^ (2 * (n / 2)) % m := by
        rw [← Nat.pow_mod, pow_mul, sq]
      have hbase : (if n % 2 = 1 then base else 1) = base ^ (n % 2) := by
        rcases Nat.mod_two_eq_zero_or_one n with h | h <;> simp [h]
      rw [powMod, powMod_eq m digits _ _ hhalf, hsquares, hbase, Nat.mul_mod_mod, ← pow_add,
        Nat.mod_add_div]

/-! ## Certificates -/

/-- **A certificate that a number is prime**: a base of full order, and the primes that make up the
number before it, each as often as it divides it. -/
structure Certificate where
  number : Nat
  base : Nat
  factors : List Nat

namespace Certificate

/-- Whether a certificate holds, for numbers that fit in 256 bits and factors that are known. -/
def holds (known : List Nat) (c : Certificate) : Bool :=
  c.number < 2 ^ 256 && c.factors.all (known.contains ·) && c.factors.prod + 1 == c.number &&
    1 < c.number && powMod c.number 256 c.base (c.number - 1) == 1 &&
    c.factors.all fun q => powMod c.number 256 c.base ((c.number - 1) / q) != 1

/-- Whether certificates hold, each of whose factors may be certified by those before. -/
def allHold : (known : List Nat) → List Certificate → Bool
  | _, [] => true
  | known, c :: rest => c.holds known && allHold (c.number :: known) rest

/-- **A number with a certificate is prime.** -/
theorem prime_of_holds {known : List Nat} (hknown : ∀ q ∈ known, q.Prime) {c : Certificate}
    (h : c.holds known = true) : c.number.Prime := by
  simp only [holds, Bool.and_eq_true, decide_eq_true_eq, List.all_eq_true, beq_iff_eq, bne_iff_ne,
    List.contains_iff_mem] at h
  obtain ⟨⟨⟨⟨⟨hsize, hfactors⟩, hprod⟩, hone⟩, horder⟩, hproper⟩ := h
  have hpower : ∀ n, n ≤ c.number - 1 →
      ((c.base : ZMod c.number) ^ n = 1 ↔ powMod c.number 256 c.base n = 1) := fun n hn => by
    rw [powMod_eq _ _ _ _ (by omega), ← Nat.cast_pow, ← Nat.cast_one,
      ZMod.natCast_eq_natCast_iff', Nat.mod_eq_of_lt hone]
  refine lucas_primality c.number c.base ((hpower _ le_rfl).2 horder) fun q hq hdvd => ?_
  have hmem : q ∈ c.factors := by
    refine mem_list_primes_of_dvd_prod hq.prime (fun r hr => (hknown r (hfactors r hr)).prime) ?_
    rwa [← Nat.eq_sub_of_add_eq hprod] at hdvd
  exact mt (hpower _ (Nat.div_le_self _ _)).1 (hproper q hmem)

/-- **What certificates certify is prime.** -/
theorem prime_of_allHold : ∀ {known : List Nat} {certificates : List Certificate},
    (∀ q ∈ known, q.Prime) → allHold known certificates = true →
    ∀ c ∈ certificates, c.number.Prime
  | _, [], _, _, _, hc => by cases hc
  | known, first :: rest, hknown, h, c, hc => by
      rw [allHold, Bool.and_eq_true] at h
      have hfirst := prime_of_holds hknown h.1
      rcases List.mem_cons.1 hc with rfl | hc
      · exact hfirst
      · exact prime_of_allHold (List.forall_mem_cons.2 ⟨hfirst, hknown⟩) h.2 c hc

end Certificate

end Airdrop
