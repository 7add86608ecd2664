import Airdrop.Digest.Edwards
import Airdrop.Proofs.Digest.Prime
import Mathlib.FieldTheory.Finite.Basic
import Mathlib.NumberTheory.LegendreSymbol.Basic

/-!
# Proofs/Digest/Edwards — which bytes name a point

Bytes name a point if some `x` goes with their `y` on the curve `-x² + y² = 1 + d x² y²`
(`OnCurve`).  Solved for `x²`, that is a quotient, and its divisor is never zero because `d` is no
square.  So the question is whether a product is a square, and a power tells: **`isPoint` decides
whether there is a point** (`isPoint_iff`).

For all of that the modulus has to be prime (`prime_p`).
-/

namespace Airdrop.Edwards

/-! ## The modulus -/

/-- Primes small enough to be found by division. -/
def smallPrimes : List Nat := [2, 3, 5, 7, 13, 19, 31, 47, 107, 127, 223, 353, 2437, 4153, 57467,
  65147, 75707, 132049, 430751, 569003, 1923133, 8574133]

theorem prime_of_mem_smallPrimes : ∀ q ∈ smallPrimes, q.Prime := by
  simp only [smallPrimes, List.forall_mem_cons, List.not_mem_nil, false_implies, implies_true,
    and_true]
  norm_num

/-- The certificates of the large primes behind the modulus. -/
def factorCertificates : List Certificate := [
  ⟨2773320623, 5, [2, 2437, 569003]⟩,
  ⟨72106336199, 7, [2, 13, 2773320623]⟩,
  ⟨1919519569386763, 2, [2, 3, 7, 19, 47, 47, 127, 8574133]⟩,
  ⟨31757755568855353, 10, [2, 2, 2, 3, 31, 107, 223, 4153, 430751]⟩,
  ⟨75445702479781427272750846543864801, 7,
    [2, 2, 2, 2, 2, 3, 3, 5, 5, 75707, 72106336199, 1919519569386763]⟩,
  ⟨74058212732561358302231226437062788676166966415465897661863160754340907, 2,
    [2, 3, 353, 57467, 132049, 1923133, 31757755568855353, 75445702479781427272750846543864801]⟩]

/-- The certificate of the modulus. -/
def certificate : Certificate := ⟨p, 2, [2, 2, 3, 65147,
  74058212732561358302231226437062788676166966415465897661863160754340907]⟩

/-- **The modulus is prime.** -/
theorem prime_p : p.Prime := by
  have hall : Certificate.allHold smallPrimes (factorCertificates ++ [certificate]) = true := by
    decide +kernel
  exact Certificate.prime_of_allHold prime_of_mem_smallPrimes hall certificate
    (List.mem_append_right _ (List.mem_singleton_self _))

instance : Fact p.Prime := ⟨prime_p⟩

/-! ## Arithmetic -/

theorem p_pos : 0 < p := prime_p.pos

theorem cast_add (a b : Nat) : ((add a b : Nat) : ZMod p) = a + b := by
  rw [add, ZMod.natCast_mod, Nat.cast_add]

theorem cast_sub (a b : Nat) : ((sub a b : Nat) : ZMod p) = a - b := by
  rw [sub, ZMod.natCast_mod, Nat.cast_add, Nat.cast_sub (Nat.mod_lt _ p_pos).le, ZMod.natCast_self,
    ZMod.natCast_mod, zero_sub, sub_eq_add_neg]

theorem cast_mul (a b : Nat) : ((mul a b : Nat) : ZMod p) = a * b := by
  rw [mul, ZMod.natCast_mod, Nat.cast_mul]

/-- **Repeated squaring is a power**, -/
theorem cast_powBy (acc base n : Nat) : ((powBy acc base n : Nat) : ZMod p) = acc * base ^ n := by
  fun_induction powBy acc base n with
  | case1 acc base => simp
  | case2 acc base n hn ih =>
    have hstep : ((if n % 2 = 1 then mul acc base else acc : Nat) : ZMod p) =
        acc * base ^ (n % 2) := by
      rcases Nat.mod_two_eq_zero_or_one n with h | h <;> simp [h, cast_mul]
    rw [dite_eq_ite] at ih
    rw [ih, hstep, cast_mul, mul_assoc, ← sq, ← pow_mul, ← pow_add, Nat.mod_add_div]

/-- …reduced. -/
theorem powBy_lt {acc base n : Nat} (h : acc < p) : powBy acc base n < p := by
  fun_induction powBy acc base n with
  | case1 => exact h
  | case2 acc base n hn ih =>
    refine ih ?_
    split
    · exact Nat.mod_lt _ p_pos
    · exact h

theorem pow_eq_one_iff {a n : Nat} : pow a n = 1 ↔ (a : ZMod p) ^ n = 1 := by
  have hcast : ((pow a n : Nat) : ZMod p) = (a : ZMod p) ^ n := by
    rw [pow, cast_powBy, ZMod.natCast_mod, Nat.cast_one, one_mul]
  have hlt : pow a n < p := powBy_lt prime_p.one_lt
  have hiff := ZMod.natCast_eq_natCast_iff' (pow a n) 1 p
  rw [Nat.cast_one, hcast, Nat.mod_eq_of_lt prime_p.one_lt, Nat.mod_eq_of_lt hlt] at hiff
  exact hiff.symm

/-- **A power tells whether there is a square root.** -/
theorem isSquare_iff {a : Nat} : isSquare a = true ↔ IsSquare (a : ZMod p) := by
  have hhalf : (p - 1) / 2 = p / 2 := by decide
  rw [isSquare, Bool.or_eq_true, beq_iff_eq, beq_iff_eq, hhalf, pow_eq_one_iff]
  by_cases hzero : (a : ZMod p) = 0
  · have hmod : a % p = 0 := Nat.mod_eq_zero_of_dvd ((ZMod.natCast_eq_zero_iff _ _).1 hzero)
    simp [hzero, hmod]
  · have hmod : a % p ≠ 0 := fun h =>
      hzero ((ZMod.natCast_eq_zero_iff _ _).2 (Nat.dvd_of_mod_eq_zero h))
    rw [ZMod.euler_criterion p hzero]
    simp [hmod]

/-! ## Points -/

/-- **Bytes name a point of the curve**: some `x` goes with their `y`. -/
def OnCurve (bytes : Octets 32) : Prop :=
  ∃ x y : ZMod p, y = (LittleEndian.valueOf bytes.toList % 2 ^ 255 : Nat) ∧
    -x ^ 2 + y ^ 2 = 1 + -121665 / 121666 * x ^ 2 * y ^ 2

/-- The constant of the curve is the quotient that it should be. -/
theorem cast_d : (d : ZMod p) = -121665 / 121666 := by
  have hne : (121666 : ZMod p) ≠ 0 := by
    have hdvd : ¬ p ∣ 121666 := by decide +kernel
    exact_mod_cast mt (ZMod.natCast_eq_zero_iff 121666 p).1 hdvd
  have hdvd : p ∣ d * 121666 + 121665 := by decide +kernel
  have hzero := (ZMod.natCast_eq_zero_iff _ p).2 hdvd
  push_cast at hzero
  rw [eq_div_iff hne]
  exact eq_neg_of_add_eq_zero_left hzero

/-- **It is no square.** -/
theorem not_isSquare_d : ¬ IsSquare (d : ZMod p) := by
  rw [← isSquare_iff]
  decide +kernel

/-- So the divisor is never zero: `-1` is a square. -/
theorem divisor_ne_zero (y : ZMod p) : (d : ZMod p) * y ^ 2 + 1 ≠ 0 := by
  intro hzero
  obtain ⟨i, hi⟩ : IsSquare (-1 : ZMod p) := ZMod.exists_sq_eq_neg_one_iff.2 (by decide +kernel)
  have hy : y ≠ 0 := by
    rintro rfl
    simp at hzero
  refine not_isSquare_d ⟨i / y, ?_⟩
  rw [div_mul_div_comm, ← hi, eq_div_iff (mul_ne_zero hy hy), ← sq]
  exact eq_neg_of_add_eq_zero_left hzero

/-- **There is an `x` exactly if a product is a square.** -/
theorem isSquare_product_iff (y : ZMod p) :
    IsSquare ((y ^ 2 - 1) * ((d : ZMod p) * y ^ 2 + 1)) ↔
      ∃ x : ZMod p, -x ^ 2 + y ^ 2 = 1 + d * x ^ 2 * y ^ 2 := by
  have hne := divisor_ne_zero y
  constructor
  · rintro ⟨s, hs⟩
    have hsquare : (s / (d * y ^ 2 + 1)) ^ 2 * (d * y ^ 2 + 1) = y ^ 2 - 1 := by
      rw [div_pow, sq s, ← hs, sq (_ + 1), mul_div_mul_right _ _ hne, div_mul_cancel₀ _ hne]
    exact ⟨s / (d * y ^ 2 + 1), by linear_combination -hsquare⟩
  · rintro ⟨x, hx⟩
    refine ⟨x * (d * y ^ 2 + 1), ?_⟩
    have hu : y ^ 2 - 1 = x ^ 2 * (d * y ^ 2 + 1) := by linear_combination hx
    rw [hu]
    ring

/-- **Whether bytes name a point is decided.** -/
theorem isPoint_iff {bytes : Octets 32} : isPoint bytes = true ↔ OnCurve bytes := by
  have hy : ((LittleEndian.valueOf bytes.toList % (1 <<< 255) % p : Nat) : ZMod p) =
      (LittleEndian.valueOf bytes.toList % 2 ^ 255 : Nat) := ZMod.natCast_mod _ _
  unfold isPoint
  dsimp only
  simp only [isSquare_iff, cast_mul, cast_sub, cast_add, hy, Nat.cast_one, ← sq]
  rw [isSquare_product_iff, OnCurve, cast_d]
  simp

instance : DecidablePred OnCurve := fun _ => decidable_of_iff _ isPoint_iff

end Airdrop.Edwards
