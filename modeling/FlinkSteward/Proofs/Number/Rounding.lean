import FlinkSteward.Number.Double
import Mathlib.Tactic.Ring

/-!
# Rounding of doubles

Rounding depends on the quotient alone, not on how it is written as a fraction, and it leaves a
double alone. Both carry over to decimals: zeros at the end of a mantissa can move into the
exponent.

## Key results

- `round_mul_right`: a common factor does not change what a fraction rounds to
- `round_magnitude`: a double is the double nearest to itself
- `ofDecimal_mul_pow`: `m * 10 ^ k` with exponent `e - k` is the same decimal as `m` with exponent `e`
- `ofDecimal_exact`: the exact decimal expansion of a double reads back
-/

namespace FlinkSteward.Double

/-! ## Fractions -/

/-- A common factor of numerator and denominator does not change what they `round` to. -/
theorem round_mul_right (negative : Bool) (num den : Nat) {c : Nat} (hc : 0 < c) :
    round negative (num * c) (den * c) = round negative num den := by
  have hq : num * c / (den * c) = num / den := Nat.mul_div_mul_right _ _ hc
  simp only [round, hq]
  generalize Nat.pow 2 ((num / den).log2 - 52) = p
  -- the factor stays in front of every comparison that rounding makes
  have hd : den * c * p = den * p * c := by ring
  rw [hd, Nat.mul_div_mul_right _ _ hc, Nat.mul_mod_mul_right]
  have hlt : 2 * (num % (den * p) * c) < den * p * c ↔ 2 * (num % (den * p)) < den * p := by
    rw [← Nat.mul_assoc]; exact Nat.mul_lt_mul_right hc
  have heq : 2 * (num % (den * p) * c) = den * p * c ↔ 2 * (num % (den * p)) = den * p := by
    rw [← Nat.mul_assoc]; exact Nat.mul_left_inj (by omega)
  simp only [hlt, heq]

/-- The exponent that `round` chooses for the magnitude of a double is the one it is kept with. -/
private theorem exponent_of_canonical {s e : Nat} (h : Canonical s e) :
    (s * Nat.pow 2 e).log2 - 52 = e := by
  obtain ⟨hlt, -, hle⟩ := h
  simp only [Nat.pow_eq] at hlt hle ⊢
  rcases hle with hle | rfl
  · -- a significand of 53 bits
    have hlog : (s * 2 ^ e).log2 = 52 + e := by
      refine (Nat.log2_eq_iff (Nat.mul_ne_zero (by omega) (Nat.two_pow_pos e).ne')).2 ⟨?_, ?_⟩
      · rw [Nat.pow_add]; exact Nat.mul_le_mul_right _ hle
      · rw [show 52 + e + 1 = 53 + e by omega, Nat.pow_add]
        exact Nat.mul_lt_mul_of_pos_right hlt (Nat.two_pow_pos e)
    omega
  · -- a shorter one, which has the least exponent
    rcases Nat.eq_zero_or_pos s with rfl | hs
    · simp
    · have := (Nat.log2_lt (by omega)).2 hlt
      simp only [Nat.pow_zero, Nat.mul_one]; omega

/-- `round` gives a double for itself. -/
theorem round_magnitude (negative : Bool) {s e : Nat} (h : Canonical s e) :
    round negative (s * Nat.pow 2 e) 1 = finite negative s e h := by
  have hp : 0 < Nat.pow 2 e := Nat.two_pow_pos e
  have hs : s ≠ Nat.pow 2 53 := Nat.ne_of_lt h.1
  simp only [round, Nat.div_one, exponent_of_canonical h, Nat.one_mul, Nat.mul_div_cancel _ hp,
    Nat.mul_mod_left, Nat.mul_zero, hp, true_or, ↓reduceIte, hs, make, h, ↓reduceDIte]

/-! ## Decimals -/

private theorem ten_pow_pos (k : Nat) : 0 < 10 ^ k := Nat.pow_pos (by decide)

private theorem length_toDigits_mul_ten {m : Nat} (hm : m ≠ 0) :
    (Nat.toDigits 10 (m * 10)).length = (Nat.toDigits 10 m).length + 1 := by
  have h := Nat.toDigits_append_toDigits (b := 10) (n := m) (d := 0) (by decide) (by omega) (by decide)
  rw [Nat.mul_comm m 10, ← Nat.add_zero (10 * m), ← h]
  simp

private theorem length_toDigits_mul_pow {m : Nat} (hm : m ≠ 0) (k : Nat) :
    (Nat.toDigits 10 (m * 10 ^ k)).length = (Nat.toDigits 10 m).length + k := by
  induction k with
  | zero => simp
  | succ k ih =>
    have hmk : m * 10 ^ k ≠ 0 := Nat.mul_ne_zero hm (ten_pow_pos k).ne'
    rw [Nat.pow_succ, ← Nat.mul_assoc, length_toDigits_mul_ten hmk, ih]; omega

/-- `ofDecimal` reads zeros at the end of a mantissa as part of the exponent. -/
theorem ofDecimal_mul_pow (negative : Bool) {m : Nat} (hm : m ≠ 0) (e : Int) (k : Nat) :
    ofDecimal negative (m * 10 ^ k) (e - k) = ofDecimal negative m e := by
  have hmk : m * 10 ^ k ≠ 0 := Nat.mul_ne_zero hm (ten_pow_pos k).ne'
  have hsize : ((Nat.toDigits 10 (m * 10 ^ k)).length : Int) + (e - k) =
      (Nat.toDigits 10 m).length + e := by
    rw [length_toDigits_mul_pow hm]; omega
  simp only [ofDecimal, hsize, hm, hmk, false_or, Nat.pow_eq]
  generalize unitsPerOne = u
  -- the sizes agree, so that only the fractions are left to compare
  congr 2
  rcases Int.lt_or_le e 0 with he | he
  · -- both exponents divide
    have hk : (e - k).natAbs = e.natAbs + k := by omega
    rw [if_neg (by omega), if_neg (by omega), hk, Nat.pow_add,
      show m * 10 ^ k * u = m * u * 10 ^ k by ring]
    exact round_mul_right _ _ _ (ten_pow_pos _)
  · obtain ⟨n, rfl⟩ := Int.eq_ofNat_of_zero_le he
    rcases Nat.lt_or_ge n k with hn | hn
    · -- the smaller exponent divides, and the larger one multiplies
      obtain ⟨j, rfl⟩ := Nat.exists_eq_add_of_le (Nat.le_of_lt hn)
      have hk : ((n : Int) - (n + j : Nat)).natAbs = j := by omega
      rw [if_neg (by omega), if_pos (by omega), hk, Int.toNat_natCast, Nat.pow_add,
        show m * (10 ^ n * 10 ^ j) * u = m * 10 ^ n * u * 10 ^ j by ring,
        ← round_mul_right negative (m * 10 ^ n * u) 1 (c := 10 ^ j) (ten_pow_pos _), Nat.one_mul]
    · -- both multiply
      obtain ⟨j, rfl⟩ := Nat.exists_eq_add_of_le hn
      have hk : (((k + j : Nat) : Int) - k).toNat = j := by omega
      rw [if_pos (by omega), if_pos (by omega), hk, Int.toNat_natCast, Nat.pow_add, Nat.mul_assoc m]

/-! ## Exact expansions -/

private theorem mul_pow_lt {s a e b : Nat} (hs : s < Nat.pow 2 a) (he : e ≤ b) :
    s * Nat.pow 2 e < Nat.pow 2 (a + b) := by
  simp only [Nat.pow_eq, Nat.pow_add] at hs ⊢
  exact Nat.lt_of_lt_of_le (Nat.mul_lt_mul_of_pos_right hs (Nat.two_pow_pos e))
    (Nat.mul_le_mul_left _ (Nat.pow_le_pow_right (by decide) he))

/-- How many `Nat.toDigits` a product has, when one factor is known and the other bounded. -/
private theorem length_toDigits_bounds (low high : Nat) {n f bound : Nat} (hn : 0 < n) (hlt : n < bound)
    (hlow : 10 ^ low ≤ f) (hl : 0 < low) (hhigh : bound * f ≤ 10 ^ high) (hh : 0 < high) :
    low < (Nat.toDigits 10 (n * f)).length ∧ (Nat.toDigits 10 (n * f)).length ≤ high := by
  have hf : 0 < f := Nat.lt_of_lt_of_le (ten_pow_pos low) hlow
  constructor
  · rw [← Nat.not_le, Nat.length_toDigits_le_iff (by decide) hl, Nat.not_lt]
    exact Nat.le_trans hlow (Nat.le_mul_of_pos_left f hn)
  · rw [Nat.length_toDigits_le_iff (by decide) hh]
    exact Nat.lt_of_lt_of_le (Nat.mul_lt_mul_of_pos_right hlt hf) hhigh

/-- A decimal that is `n` units, and neither too small nor too large to be rounded. -/
private theorem ofDecimal_eq_round (negative : Bool) {n f places : Nat} (hm : n * f ≠ 0)
    (hf : f * unitsPerOne = Nat.pow 10 places) (hp : 0 < places)
    (hlow : places ≤ (Nat.toDigits 10 (n * f)).length + 400)
    (hhigh : (Nat.toDigits 10 (n * f)).length ≤ places + 400) :
    ofDecimal negative (n * f) (-(places : Int)) = round negative n 1 := by
  have hround := round_mul_right negative n 1 (ten_pow_pos places)
  rw [← Nat.pow_eq, ← hf, ← Nat.mul_assoc, Nat.one_mul, hf] at hround
  simp only [ofDecimal, hm, false_or, Int.natAbs_neg, Int.natAbs_natCast]
  -- neither zero nor infinity by its size alone, and with an exponent that divides
  rw [if_neg (by omega), if_neg (by omega), if_neg (by omega), hround]

/-- `ofDecimal` reads back the exact expansion of a double, which has 1074 decimal places. -/
theorem ofDecimal_exact (negative : Bool) {s e : Nat} (h : Canonical s e) (hs : s ≠ 0) :
    ofDecimal negative (s * Nat.pow 2 e * Nat.pow 5 1074) (-(1074 : Nat)) =
      finite negative s e h := by
  have hpos : 0 < s * Nat.pow 2 e := Nat.mul_pos (by omega) (Nat.two_pow_pos e)
  -- 5 ^ 1074 lies between 10 ^ 673 and what is left of 10 ^ 1474 beside the largest double
  obtain ⟨hlow, hhigh⟩ := length_toDigits_bounds 673 1474 hpos
    (mul_pow_lt h.1 h.2.1) (f := Nat.pow 5 1074) (by decide +kernel) (by decide)
    (by decide +kernel) (by decide)
  rw [← round_magnitude negative h]
  exact ofDecimal_eq_round negative (Nat.mul_ne_zero (by omega) (by decide +kernel))
    (by decide +kernel) (by decide) (by omega) (by omega)

end FlinkSteward.Double
