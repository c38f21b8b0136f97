import FlinkSteward.Number.Basic

/-!
# Sums with one

A sum of doubles is rounded, but never to zero: it is zero only if the exact sum is. So adding one
gives zero for the number -1 alone, whether that is an integer or a double.

## Key results

- `Double.isNonzero_round`: what is not zero is not rounded to zero
- `Number.isNonzero_add_one`: when the next number is zero
-/

namespace FlinkSteward

namespace Double

/-- `round` takes no whole number of units but zero to zero. -/
theorem isNonzero_round (negative : Bool) {n : Nat} (hn : n ≠ 0) :
    (round negative n 1).isNonzero = true := by
  have hmake : ∀ s e, s ≠ 0 → (make negative s e).isNonzero = true := by
    intro s e hs
    unfold make
    split
    · simpa [isNonzero] using hs
    · rfl
  -- the exponent is at most the logarithm, so that something is left of the significand
  have hq : 0 < n / Nat.pow 2 (n.log2 - 52) := by
    refine Nat.div_pos ?_ (Nat.two_pow_pos _)
    exact Nat.le_trans (Nat.pow_le_pow_right (by decide) (Nat.sub_le _ _)) (Nat.log2_self_le hn)
  simp only [round, Nat.div_one, Nat.one_mul]
  -- rounded down or up, with a carry or without one
  split
  · split
    · exact hmake (Nat.pow 2 52) _ (by decide)
    · exact hmake _ _ (Nat.ne_of_gt hq)
  · split
    · exact hmake (Nat.pow 2 52) _ (by decide)
    · exact hmake _ _ (Nat.succ_ne_zero _)

theorem isNonzero_ofUnits (z : Int) (negativeZero : Bool) :
    (ofUnits z negativeZero).isNonzero = decide (z ≠ 0) := by
  unfold ofUnits
  split
  · simp [*, zero, isNonzero]
  · rename_i hz
    rw [isNonzero_round _ (Int.natAbs_ne_zero.2 hz)]
    simp [hz]

/-- A double that is not `isNonzero` has no `units`. -/
theorem units_eq_zero {x : Double} (h : x.isNonzero = false) : x.units = 0 := by
  cases x with
  | nan => exact nomatch h
  | infinity n => exact nomatch h
  | finite n s e hc =>
    have hs : s = 0 := by simpa [isNonzero] using h
    simp [units, magnitude, hs]

/-- `ofInt?` makes a double of one. -/
private theorem ofInt?_one : ∃ n s e h, ofInt? 1 = some (finite n s e h) ∧
    (finite n s e h).units = unitsPerOne :=
  ⟨false, Nat.pow 2 52, 1022, by decide +kernel, by decide +kernel, by decide +kernel⟩

end Double

namespace Number

/-- `add?` of one gives zero for -1 alone. -/
theorem isNonzero_add_one {n next : Number} (h : n.add? (.int 1) = some next) :
    next.isNonzero = !n.same (.int (-1)) := by
  cases n with
  | int i =>
    obtain rfl := Option.some.inj h
    have hcompare : compare i (-1) = .eq ↔ i = -1 := Std.compare_eq_iff_eq
    have hi : i + 1 = 0 ↔ i = -1 := by omega
    simp only [isNonzero, same, compare?_int, Option.some.injEq, hcompare, ne_eq, hi, decide_not]
  | real x =>
    obtain ⟨n, s, e, hc, hone, hunits⟩ := Double.ofInt?_one
    have hnext : real (x.add (.finite n s e hc)) = next := by
      simpa [add?, combine?, toDouble?, hone] using h
    subst hnext
    cases x with
    | nan => rfl
    | infinity m => cases m <;> rfl
    | finite m t f hx =>
      -- the exact sum counts, and one is a number of units that only has to be positive
      generalize hu : Double.unitsPerOne = u at hunits
      simp only [isNonzero, Double.add, Double.isNonzero_ofUnits, hunits, same, compare?,
        Double.compareInt?, hu, Option.some.injEq, Std.compare_eq_iff_eq]
      generalize (Double.finite m t f hx).units = z
      have hz : z + u = 0 ↔ z = -1 * u := by omega
      simp only [ne_eq, hz, decide_not]

/-- What is not `isNonzero` is not the `same` as -1. -/
theorem same_neg_one_of_zero {n : Number} (h : n.isNonzero = false) :
    n.same (.int (-1)) = false := by
  cases n with
  | int i =>
    obtain rfl : i = 0 := by simpa [isNonzero] using h
    decide
  | real x =>
    have hunits := Double.units_eq_zero h
    cases x with
    | nan => rfl
    | infinity m => cases m <;> rfl
    | finite m t f hx =>
      -- no units are not the units of one, taken negatively
      have hpos : Double.unitsPerOne ≠ 0 := by decide +kernel
      have hne : (0 : Int) ≠ -1 * Double.unitsPerOne := by omega
      simpa only [same, compare?, Double.compareInt?, hunits, Option.some.injEq,
        Std.compare_eq_iff_eq, decide_eq_false_iff_not] using hne

end Number

end FlinkSteward
