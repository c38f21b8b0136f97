import FlinkSteward.Quantity.Duration

/-!
# Signs of doubles

Rounding keeps the sign of the exact result. Products of doubles without a sign so have none, and a
duration that is not negative has no sign in milliseconds either, however it is rounded.

## Key results

- `Double.isNegative_round`, `Double.isNegative_mul`: signs of rounded results
- `Double.compareInt?_zero_ne_lt`: what has no sign is not below zero
- `Duration.isNegative_millis`: durations
-/

namespace FlinkSteward

namespace Double

theorem isNegative_make (negative : Bool) (s e : Nat) : (make negative s e).isNegative = negative := by
  unfold make
  split <;> rfl

theorem isNegative_round (negative : Bool) (num den : Nat) :
    (round negative num den).isNegative = negative := by
  simp only [round]
  split <;> split <;> exact isNegative_make ..

theorem isNegative_mul {x y : Double} (hx : x.isNegative = false) (hy : y.isNegative = false) :
    (x.mul y).isNegative = false := by
  unfold mul
  split
  · rfl
  · rfl
  · rename_i a _
    have hsign : (infinity (a ^^ y.isNegative)).isNegative = false := by
      rw [hy]
      exact (Bool.xor_false a).trans hx
    split
    · rfl
    · exact hsign
  · rename_i b _ _
    have hsign : (infinity (x.isNegative ^^ b)).isNegative = false := by
      rw [hx]
      exact (Bool.false_xor b).trans hy
    split
    · rfl
    · exact hsign
  · -- finite factors: rounding keeps the sign
    rw [isNegative_round, hx, hy]
    rfl

/-- What is not `isNegative` is not below zero. -/
theorem compareInt?_zero_ne_lt {x : Double} (h : x.isNegative = false) :
    x.compareInt? 0 ≠ some .lt := by
  cases x with
  | nan => simp [compareInt?]
  | infinity a =>
    obtain rfl : a = false := h
    simp [compareInt?]
  | finite a m e hc =>
    have hunits : 0 ≤ (finite a m e hc).units := by
      rw [units, h]
      exact Int.natCast_nonneg _
    simp only [compareInt?, Int.zero_mul, ne_eq, Option.some.injEq, Int.compare_eq_lt]
    exact Int.not_lt.2 hunits

end Double

/-- The `millis` of a duration that is not negative have no sign. -/
theorem Duration.isNegative_millis {d : Duration} (h : 0 ≤ d.micros) : d.millis.isNegative = false := by
  refine Double.isNegative_mul ?_ (by decide +kernel)
  rw [seconds, Double.ofRatio, Double.isNegative_round]
  exact decide_eq_false (Int.not_lt.2 h)

end FlinkSteward
