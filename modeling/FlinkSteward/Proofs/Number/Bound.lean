import FlinkSteward.Proofs.Number.Sign
import Mathlib.Tactic.Ring

/-!
# How far rounding goes

A rounded quotient differs from the exact one by no more than its last digit. Two roundings in a row,
as a duration goes through on its way to milliseconds, lose or gain less than a millisecond unless the
duration is huge; then other whole numbers compare with the result as they do with the exact number.

## Key results

- `Double.le_magnitude_round`, `Double.magnitude_round_le`: bounds for a rounded quotient
- `Double.isFinite_round`: quotients that are not rounded to infinity
- `Duration.lt_units_millis`, `Duration.units_millis_lt`: whole milliseconds lose or gain less than one
- `Number.le_int_of_le`: comparing with greater integers
- `Duration.millis_lt_of_ne`, `Duration.millis_le_of_ne`: other integers compare with whole milliseconds
  as with their number
-/

namespace FlinkSteward

namespace Double

/-- The exponent that rounding chooses. -/
private def exponentOf (n : Nat) : Nat :=
  n.log2 - 52

private theorem two_pow_mul_le {n : Nat} (h : exponentOf n ≠ 0) :
    2 ^ 52 * 2 ^ exponentOf n ≤ n := by
  have hlog : n.log2 = 52 + exponentOf n := by
    unfold exponentOf at h ⊢
    omega
  have hn : n ≠ 0 := by
    rintro rfl
    exact h rfl
  rw [← Nat.pow_add, ← hlog]
  exact Nat.log2_self_le hn

/-- The `magnitude` that `make` gives to a significand and an exponent, as long as it is finite. -/
private theorem magnitude_make {negative : Bool} {s e : Nat} (h : (make negative s e).isFinite = true) :
    (make negative s e).magnitude = s * 2 ^ e := by
  unfold make at h ⊢
  split
  · rfl
  · rename_i hnot
    rw [dif_neg hnot] at h
    cases h

private theorem nearest_bounds (q : Nat) (p : Prop) [Decidable p] :
    q ≤ (if p then q else q + 1) ∧ (if p then q else q + 1) ≤ q + 1 := by
  split <;> omega

/-- `round` keeps the significand, or takes the next one. -/
private theorem magnitude_round {negative : Bool} {num den : Nat}
    (h : (round negative num den).isFinite = true) :
    ∃ s, num / (den * 2 ^ exponentOf (num / den)) ≤ s ∧
      s ≤ num / (den * 2 ^ exponentOf (num / den)) + 1 ∧
      (round negative num den).magnitude = s * 2 ^ exponentOf (num / den) := by
  simp only [round, ← exponentOf.eq_def, Nat.pow_eq] at h ⊢
  generalize exponentOf (num / den) = e at h ⊢
  generalize num / (den * 2 ^ e) = q at h ⊢
  have hnext := nearest_bounds q (2 * (num % (den * 2 ^ e)) < den * 2 ^ e ∨
    2 * (num % (den * 2 ^ e)) = den * 2 ^ e ∧ q % 2 = 0)
  generalize (if 2 * (num % (den * 2 ^ e)) < den * 2 ^ e ∨
    2 * (num % (den * 2 ^ e)) = den * 2 ^ e ∧ q % 2 = 0 then q else q + 1) = s at h hnext ⊢
  refine ⟨s, hnext.1, hnext.2, ?_⟩
  split at h
  · -- a carry moves one place into the exponent
    rename_i hcarry
    rw [if_pos hcarry, magnitude_make h, hcarry]
    ring
  · rename_i hcarry
    rw [if_neg hcarry, magnitude_make h]

/-- The last place that `exponentOf` chooses is that of the last of 53 digits, or that of a unit. -/
private theorem last_place_le (num den : Nat) :
    2 ^ 52 * (den * 2 ^ exponentOf (num / den)) ≤ num + 2 ^ 52 * den := by
  by_cases hzero : exponentOf (num / den) = 0
  · rw [hzero]
    omega
  · have hpow := two_pow_mul_le hzero
    calc 2 ^ 52 * (den * 2 ^ exponentOf (num / den))
      _ = 2 ^ 52 * 2 ^ exponentOf (num / den) * den := by ring
      _ ≤ num / den * den := Nat.mul_le_mul_right den hpow
      _ ≤ num := Nat.div_mul_le_self num den
      _ ≤ num + 2 ^ 52 * den := Nat.le_add_right _ _

/-- `round` takes less than the last of 53 digits, or less than a unit. -/
theorem le_magnitude_round {negative : Bool} {num den : Nat} (hden : 0 < den)
    (h : (round negative num den).isFinite = true) :
    num * (2 ^ 52 - 1) ≤ 2 ^ 52 * ((round negative num den).magnitude * den) + 2 ^ 52 * den := by
  obtain ⟨s, hround, -, hmagnitude⟩ := magnitude_round h
  have hlast := last_place_le num den
  rw [hmagnitude]
  generalize exponentOf (num / den) = e at hround hlast
  have hcut : num < s * 2 ^ e * den + den * 2 ^ e := by
    have hkept : num / (den * 2 ^ e) * (den * 2 ^ e) ≤ s * 2 ^ e * den :=
      calc num / (den * 2 ^ e) * (den * 2 ^ e)
        _ ≤ s * (den * 2 ^ e) := Nat.mul_le_mul_right _ hround
        _ = s * 2 ^ e * den := by ring
    have hmod := Nat.div_add_mod' num (den * 2 ^ e)
    have hlt := Nat.mod_lt num (Nat.mul_pos hden (Nat.two_pow_pos e))
    omega
  omega

/-- `round` adds no more than the last of 53 digits, or than a unit. -/
theorem magnitude_round_le {negative : Bool} {num den : Nat}
    (h : (round negative num den).isFinite = true) :
    2 ^ 52 * ((round negative num den).magnitude * den) ≤ num * (2 ^ 52 + 1) + 2 ^ 52 * den := by
  obtain ⟨s, -, hround, hmagnitude⟩ := magnitude_round h
  have hlast := last_place_le num den
  rw [hmagnitude]
  generalize exponentOf (num / den) = e at hround hlast
  have hnext : s * 2 ^ e * den ≤ num + den * 2 ^ e :=
    calc s * 2 ^ e * den
      _ = s * (den * 2 ^ e) := by ring
      _ ≤ (num / (den * 2 ^ e) + 1) * (den * 2 ^ e) := Nat.mul_le_mul_right _ hround
      _ = num / (den * 2 ^ e) * (den * 2 ^ e) + den * 2 ^ e := by ring
      _ ≤ num + den * 2 ^ e := Nat.add_le_add_right (Nat.div_mul_le_self _ _) _
  omega

/-- The significand that `round` starts from has 53 bits, all of them in use unless the exponent is
least. -/
private theorem significand_bounds {n : Nat} :
    n / 2 ^ exponentOf n < 2 ^ 53 ∧ (2 ^ 52 ≤ n / 2 ^ exponentOf n ∨ exponentOf n = 0) := by
  refine ⟨Nat.div_lt_of_lt_mul ?_, ?_⟩
  · rw [← Nat.pow_add]
    refine Nat.lt_of_lt_of_le Nat.lt_log2_self (Nat.pow_le_pow_right (by decide) ?_)
    unfold exponentOf
    omega
  · by_cases hzero : exponentOf n = 0
    · exact .inr hzero
    · exact .inl ((Nat.le_div_iff_mul_le (Nat.two_pow_pos _)).2 (two_pow_mul_le hzero))

private theorem isFinite_make {negative : Bool} {s e : Nat} (h : Canonical s e) :
    (make negative s e).isFinite = true := by
  rw [make, dif_pos h]
  rfl

/-- `round` gives a finite double for what is not too large. -/
theorem isFinite_round (negative : Bool) {num den : Nat} (h : num / den < 2 ^ 2097) :
    (round negative num den).isFinite = true := by
  have hexponent : exponentOf (num / den) ≤ 2044 := by
    unfold exponentOf
    rcases Nat.eq_zero_or_pos (num / den) with hzero | hpos
    · rw [hzero]
      decide
    · have hlog := (Nat.log2_lt hpos.ne').2 h
      omega
  obtain ⟨hmost, hleast⟩ := significand_bounds (n := num / den)
  rw [Nat.div_div_eq_div_mul] at hmost hleast
  simp only [round, ← exponentOf.eq_def, Nat.pow_eq]
  -- only the bounds of the exponent and of the significand matter from here
  generalize exponentOf (num / den) = e at hexponent hmost hleast
  generalize num / (den * 2 ^ e) = q at hmost hleast
  have hnext := nearest_bounds q (2 * (num % (den * 2 ^ e)) < den * 2 ^ e ∨
    2 * (num % (den * 2 ^ e)) = den * 2 ^ e ∧ q % 2 = 0)
  generalize (if 2 * (num % (den * 2 ^ e)) < den * 2 ^ e ∨
    2 * (num % (den * 2 ^ e)) = den * 2 ^ e ∧ q % 2 = 0 then q else q + 1) = s at hnext ⊢
  split
  · exact isFinite_make ⟨by decide, by omega, .inl (Nat.le_refl _)⟩
  · -- the last place of the significand may have carried over
    rename_i hcarry
    refine isFinite_make ⟨?_, by omega, hleast.imp_left fun hle => ?_⟩
    · rw [Nat.pow_eq]
      omega
    · exact Nat.le_trans hle hnext.1

theorem unitsPerOne_pos : 0 < unitsPerOne := by decide +kernel

theorem finite_mul_finite (a b : Bool) {s e t f : Nat} (hs : Canonical s e) (ht : Canonical t f) :
    (finite a s e hs).mul (finite b t f ht) =
      round (a ^^ b) ((finite a s e hs).magnitude * (finite b t f ht).magnitude) unitsPerOne :=
  rfl

end Double

namespace Duration

/-- A thousand is a double. -/
private theorem thousand : ∃ s e h, Double.ofRatio 1000 1 = .finite false s e h ∧
    (Double.finite false s e h).magnitude = 1000 * Double.unitsPerOne :=
  ⟨1000 * 2 ^ 43, 1031, by decide +kernel, by decide +kernel, by decide +kernel⟩

/-- `Duration.seconds` comes from one rounding. -/
private theorem seconds_eq (n : Nat) : (⟨1000 * n⟩ : Duration).seconds =
    .round false (1000 * n * Double.unitsPerOne) 1000000 := by
  have hsign : decide ((1000 * n : Int) < 0) = false := decide_eq_false (by omega)
  rw [seconds, Double.ofRatio, hsign, show (1000 * n : Int).natAbs = 1000 * n by omega]

/-- `Duration.millis` comes from two roundings. -/
private theorem millis_eq {n : Nat} (hfinite : (⟨1000 * n⟩ : Duration).seconds.isFinite = true) :
    (⟨1000 * n⟩ : Duration).millis =
      .round false ((⟨1000 * n⟩ : Duration).seconds.magnitude * (1000 * Double.unitsPerOne))
        Double.unitsPerOne := by
  obtain ⟨s, e, h, hthousand, hmagnitude⟩ := thousand
  rw [millis, hthousand]
  cases hseconds : (⟨1000 * n⟩ : Duration).seconds with
  | nan | infinity a =>
    rw [hseconds] at hfinite
    cases hfinite
  | finite a t f ht =>
    have hsign : (⟨1000 * n⟩ : Duration).seconds.isNegative = false := by
      rw [seconds_eq, Double.isNegative_round]
    rw [hseconds] at hsign
    obtain rfl : a = false := hsign
    rw [Double.finite_mul_finite, hmagnitude]
    rfl

section Bounds

variable {n : Nat} (hbound : n ≤ 2 ^ 50)

include hbound

private theorem isFinite_seconds : (⟨1000 * n⟩ : Duration).seconds.isFinite = true := by
  rw [seconds_eq]
  refine Double.isFinite_round false (Nat.lt_of_le_of_lt (Nat.div_le_self _ _) ?_)
  calc 1000 * n * Double.unitsPerOne
    _ ≤ 2 ^ 60 * Double.unitsPerOne := Nat.mul_le_mul_right _ (by omega)
    _ < 2 ^ 2097 := by decide +kernel

/-- How far both roundings go. -/
private theorem seconds_bounds :
    1000 * (n * Double.unitsPerOne) * (2 ^ 52 - 1) ≤
        2 ^ 52 * ((⟨1000 * n⟩ : Duration).seconds.magnitude * 1000000) + 2 ^ 52 * 1000000 ∧
      2 ^ 52 * ((⟨1000 * n⟩ : Duration).seconds.magnitude * 1000000) ≤
        1000 * (n * Double.unitsPerOne) * (2 ^ 52 + 1) + 2 ^ 52 * 1000000 := by
  have hfinite := isFinite_seconds hbound
  rw [seconds_eq] at hfinite
  rw [seconds_eq, ← Nat.mul_assoc]
  exact ⟨Double.le_magnitude_round (by decide) hfinite, Double.magnitude_round_le hfinite⟩

/-- `Duration.millis` is finite for a duration that is not huge. -/
theorem isFinite_millis : (⟨1000 * n⟩ : Duration).millis.isFinite = true := by
  obtain ⟨-, hsecond⟩ := seconds_bounds hbound
  rw [millis_eq (isFinite_seconds hbound)]
  generalize (⟨1000 * n⟩ : Duration).seconds.magnitude = m at hsecond ⊢
  refine Double.isFinite_round false ?_
  have hunits := Double.unitsPerOne_pos
  have hmost : n * Double.unitsPerOne ≤ 2 ^ 50 * Double.unitsPerOne := Nat.mul_le_mul_right _ hbound
  have hlength : 1000 * m ≤ 2 ^ 61 * Double.unitsPerOne := by
    generalize n * Double.unitsPerOne = x at hsecond hmost
    generalize Double.unitsPerOne = u at hmost hunits ⊢
    omega
  calc m * (1000 * Double.unitsPerOne) / Double.unitsPerOne
    _ = 1000 * m := by
      rw [show m * (1000 * Double.unitsPerOne) = 1000 * m * Double.unitsPerOne by ring,
        Nat.mul_div_cancel _ hunits]
    _ ≤ 2 ^ 61 * Double.unitsPerOne := hlength
    _ < 2 ^ 2097 := by decide +kernel

private theorem millis_bounds :
    1000 * (⟨1000 * n⟩ : Duration).seconds.magnitude * (2 ^ 52 - 1) ≤
        2 ^ 52 * (⟨1000 * n⟩ : Duration).millis.magnitude + 2 ^ 52 ∧
      2 ^ 52 * (⟨1000 * n⟩ : Duration).millis.magnitude ≤
        1000 * (⟨1000 * n⟩ : Duration).seconds.magnitude * (2 ^ 52 + 1) + 2 ^ 52 := by
  have hunits := Double.unitsPerOne_pos
  have hfinite := isFinite_millis hbound
  rw [millis_eq (isFinite_seconds hbound)] at hfinite ⊢
  have hlow := Double.le_magnitude_round hunits hfinite
  have hhigh := Double.magnitude_round_le hfinite
  generalize (Double.round _ _ _).magnitude = z at hlow hhigh ⊢
  generalize (⟨1000 * n⟩ : Duration).seconds.magnitude = m at hlow hhigh ⊢
  generalize Double.unitsPerOne = u at hunits hlow hhigh
  -- a unit can be taken out of both
  constructor
  · refine Nat.le_of_mul_le_mul_right ?_ hunits
    calc 1000 * m * (2 ^ 52 - 1) * u
      _ = m * (1000 * u) * (2 ^ 52 - 1) := by ring
      _ ≤ 2 ^ 52 * (z * u) + 2 ^ 52 * u := hlow
      _ = (2 ^ 52 * z + 2 ^ 52) * u := by ring
  · refine Nat.le_of_mul_le_mul_right ?_ hunits
    calc 2 ^ 52 * z * u
      _ = 2 ^ 52 * (z * u) := by ring
      _ ≤ m * (1000 * u) * (2 ^ 52 + 1) + 2 ^ 52 * u := hhigh
      _ = (1000 * m * (2 ^ 52 + 1) + 2 ^ 52) * u := by ring

/-- On its way to `millis` a duration loses less than one of them. -/
theorem lt_units_millis (hpos : 0 < n) :
    (n - 1) * Double.unitsPerOne < (⟨1000 * n⟩ : Duration).millis.magnitude := by
  obtain ⟨hfirst, -⟩ := seconds_bounds hbound
  obtain ⟨hsecond, -⟩ := millis_bounds hbound
  have hunits : 2003 ≤ Double.unitsPerOne := by decide +kernel
  generalize (⟨1000 * n⟩ : Duration).millis.magnitude = z at hsecond ⊢
  generalize (⟨1000 * n⟩ : Duration).seconds.magnitude = m at hfirst hsecond
  generalize Double.unitsPerOne = u at hfirst hunits ⊢
  -- both bounds are linear in `n * u`
  have hmost : n * u ≤ 2 ^ 50 * u := Nat.mul_le_mul_right u hbound
  have hleast : 1 * u ≤ n * u := Nat.mul_le_mul_right u hpos
  rw [Nat.sub_mul]
  generalize n * u = x at hfirst hmost hleast ⊢
  omega

/-- On its way to `millis` a duration gains less than one of them. -/
theorem units_millis_lt :
    (⟨1000 * n⟩ : Duration).millis.magnitude < (n + 1) * Double.unitsPerOne := by
  obtain ⟨-, hfirst⟩ := seconds_bounds hbound
  obtain ⟨-, hsecond⟩ := millis_bounds hbound
  have hunits : 4000 ≤ Double.unitsPerOne := by decide +kernel
  generalize (⟨1000 * n⟩ : Duration).millis.magnitude = z at hsecond ⊢
  generalize (⟨1000 * n⟩ : Duration).seconds.magnitude = m at hfirst hsecond
  generalize Double.unitsPerOne = u at hfirst hunits ⊢
  have hmost : n * u ≤ 2 ^ 50 * u := Nat.mul_le_mul_right u hbound
  rw [Nat.add_mul]
  generalize n * u = x at hfirst hmost ⊢
  omega

end Bounds

end Duration

namespace Number

/-- A double is less than an integer when its `units` are. -/
theorem real_lt_int_iff {a : Bool} {s e : Nat} (h : Double.Canonical s e) (z : Int) :
    (real (.finite a s e h)).lt (int z) = true ↔
      (Double.finite a s e h).units < z * Double.unitsPerOne := by
  simp only [lt, compare?, Double.compareInt?, decide_eq_true_eq, Option.some.injEq,
    Int.compare_eq_lt]

/-- A double is at most an integer when its `units` are. -/
theorem real_le_int_iff {a : Bool} {s e : Nat} (h : Double.Canonical s e) (z : Int) :
    (real (.finite a s e h)).le (int z) = true ↔
      (Double.finite a s e h).units ≤ z * Double.unitsPerOne := by
  simp only [le, lt, same, compare?, Double.compareInt?, Bool.or_eq_true, decide_eq_true_eq,
    Option.some.injEq, Int.compare_eq_lt, Std.compare_eq_iff_eq]
  exact Int.le_iff_lt_or_eq.symm

theorem int_le_int_iff (a b : Int) : (int a).le (int b) = true ↔ a ≤ b := by
  simp only [le, lt, same, compare?_int, Bool.or_eq_true, decide_eq_true_eq, Option.some.injEq,
    Int.compare_eq_lt, Std.compare_eq_iff_eq]
  exact Int.le_iff_lt_or_eq.symm

/-- What is at most an integer is at most all greater ones. -/
theorem le_int_of_le {n : Number} {y z : Int} (h : n.le (int y) = true) (hyz : y ≤ z) :
    n.le (int z) = true := by
  cases n with
  | int i => exact (int_le_int_iff i z).2 (((int_le_int_iff i y).1 h).trans hyz)
  | real x =>
    cases x with
    | nan => exact h
    | infinity a => exact h
    | finite a s e hc =>
      refine (real_le_int_iff hc z).2 (((real_le_int_iff hc y).1 h).trans ?_)
      exact Int.mul_le_mul_of_nonneg_right hyz (by omega)

end Number

namespace Duration

section Whole

variable {millis : Int} (hpos : 0 < millis) (hbound : millis ≤ 2 ^ 50)

include hpos hbound

/-- The `millis` of a duration of whole milliseconds lie between the integers around their number. -/
private theorem exists_millis :
    ∃ a s e hc, (⟨1000 * millis⟩ : Duration).millis = .finite a s e hc ∧ ∀ past : Int,
      (past < millis → past * Double.unitsPerOne < (Double.finite a s e hc).units) ∧
        (millis < past → (Double.finite a s e hc).units < past * Double.unitsPerOne) := by
  obtain ⟨n, rfl⟩ := Int.eq_ofNat_of_zero_le hpos.le
  have hsign := isNegative_millis (d := ⟨1000 * n⟩) (by dsimp only; omega)
  have hlow := lt_units_millis (n := n) (by omega) (by omega)
  have hhigh := units_millis_lt (n := n) (by omega)
  have hfinite := isFinite_millis (n := n) (by omega)
  -- the double is less than one millisecond away, which no whole number is
  generalize (⟨1000 * n⟩ : Duration).millis = x at hsign hlow hhigh hfinite
  cases x with
  | nan | infinity a => cases hfinite
  | finite a s e hc =>
    obtain rfl : a = false := hsign
    refine ⟨false, s, e, hc, rfl, fun past => ?_⟩
    have hlow' : ((n : Int) - 1) * Double.unitsPerOne < (Double.finite false s e hc).units := by
      have hcast := Int.ofNat_lt.2 hlow
      rwa [Nat.cast_mul, Nat.cast_sub (by omega), Nat.cast_one] at hcast
    have hhigh' : (Double.finite false s e hc).units < ((n : Int) + 1) * Double.unitsPerOne := by
      have hcast := Int.ofNat_lt.2 hhigh
      rwa [Nat.cast_mul, Nat.cast_add, Nat.cast_one] at hcast
    constructor
    · intro hlt
      exact Int.lt_of_le_of_lt (Int.mul_le_mul_of_nonneg_right (by omega) (by omega)) hlow'
    · intro hlt
      exact Int.lt_of_lt_of_le hhigh' (Int.mul_le_mul_of_nonneg_right (by omega) (by omega))

/-- Other integers compare with the `millis` of a duration as with their number, for 35,000 years at
least. -/
theorem millis_lt_of_ne {past : Int} (hne : past ≠ millis) :
    (Number.real (⟨1000 * millis⟩ : Duration).millis).lt (.int past) = decide (millis < past) := by
  obtain ⟨a, s, e, hc, hmillis, hsides⟩ := exists_millis hpos hbound
  obtain ⟨hbelow, habove⟩ := hsides past
  rw [Bool.eq_iff_iff, hmillis, Number.real_lt_int_iff, decide_eq_true_eq]
  omega

theorem millis_le_of_ne {past : Int} (hne : past ≠ millis) :
    (Number.real (⟨1000 * millis⟩ : Duration).millis).le (.int past) = decide (millis ≤ past) := by
  obtain ⟨a, s, e, hc, hmillis, hsides⟩ := exists_millis hpos hbound
  obtain ⟨hbelow, habove⟩ := hsides past
  rw [Bool.eq_iff_iff, hmillis, Number.real_le_int_iff, decide_eq_true_eq]
  omega

/-- What the `millis` of a duration are at most, their number is at most. -/
theorem le_of_millis_le {z : Int}
    (h : (Number.real (⟨1000 * millis⟩ : Duration).millis).le (.int z) = true) : millis ≤ z := by
  by_cases heq : z = millis
  · exact heq.ge
  · exact of_decide_eq_true ((millis_le_of_ne hpos hbound heq).symm.trans h)

end Whole

end Duration

end FlinkSteward
