import FlinkSteward.Proofs.Number.Bound
import FlinkSteward.Proofs.Number.Rounding

/-!
# Numbers that rounding leaves alone

A whole number of up to 53 bits is a double, and so is one of eighths. So a duration of eighths of a
second has its length in milliseconds without an error, unless it is huge, and whole numbers compare with
the result as they do with the length. Other fractions of a second are no doubles, and their last
millisecond can be lost.

## Key results

- `Double.exists_canonical`, `Double.round_whole`, `Double.round_eighths`: whole numbers and eighths
  are doubles
- `Number.lt_of_same`, `Number.le_of_same`: what is the same as an integer compares as that one
- `Duration.same_eighths`: whole eighths of a second
- `Duration.Lasts`: how many whole milliseconds are within a duration
- `Duration.lasts_seconds`: whole seconds
-/

namespace FlinkSteward

namespace Double

/-- A whole number of up to 53 bits with zeros behind it has a `Canonical` form. -/
theorem exists_canonical {n places : Nat} (h : n < 2 ^ 53) (hleast : 52 ≤ places)
    (hmost : places ≤ 2045) : ∃ s e, Canonical s e ∧ s * Nat.pow 2 e = n * Nat.pow 2 places := by
  rcases Nat.eq_zero_or_pos n with rfl | hpos
  · exact ⟨0, 0, by decide, by rw [Nat.zero_mul, Nat.zero_mul]⟩
  have hlog : n.log2 < 53 := (Nat.log2_lt hpos.ne').2 h
  -- as many zeros move into the significand as it takes to have all 53 bits in use
  obtain ⟨zeros, hzeros⟩ := Nat.exists_eq_add_of_le (Nat.le_of_lt_succ hlog)
  obtain ⟨rest, rfl⟩ := Nat.exists_eq_add_of_le (show zeros ≤ places by omega)
  simp only [Nat.pow_eq]
  refine ⟨n * 2 ^ zeros, rest, ⟨?_, by omega, .inl ?_⟩, ?_⟩
  · rw [Nat.pow_eq, show 53 = n.log2 + 1 + zeros by omega, Nat.pow_add]
    exact Nat.mul_lt_mul_of_pos_right Nat.lt_log2_self (Nat.two_pow_pos zeros)
  · rw [Nat.pow_eq, hzeros, Nat.pow_add]
    exact Nat.mul_le_mul_right _ (Nat.log2_self_le hpos.ne')
  · rw [Nat.mul_assoc, ← Nat.pow_add]

/-- An eighth is a whole number of units, and one that can stand behind 53 bits. -/
private theorem exists_eighth :
    ∃ places, unitsPerOne = 8 * Nat.pow 2 places ∧ 52 ≤ places ∧ places + 3 ≤ 2045 :=
  ⟨1071, by decide +kernel, by decide, by decide⟩

/-- `round` leaves up to 53 bits of eighths as they are. -/
theorem round_eighths (negative : Bool) {n : Nat} (h : n < 2 ^ 53) :
    ∃ s e hc, round negative (n * unitsPerOne) 8 = finite negative s e hc ∧
      8 * (finite negative s e hc).magnitude = n * unitsPerOne := by
  obtain ⟨places, heighth, hleast, hmost⟩ := exists_eighth
  obtain ⟨s, e, hc, hvalue⟩ := exists_canonical h hleast (by omega)
  have hmul := round_mul_right negative (n * Nat.pow 2 places) 1 (c := 8) (by decide)
  rw [← hvalue, round_magnitude negative hc, Nat.one_mul, hvalue] at hmul
  rw [heighth, show n * (8 * Nat.pow 2 places) = n * Nat.pow 2 places * 8 by ring]
  exact ⟨s, e, hc, hmul, by rw [magnitude, hvalue, Nat.mul_comm]⟩

/-- `round` leaves a whole number of up to 53 bits as it is. -/
theorem round_whole (negative : Bool) {n : Nat} (h : n < 2 ^ 53) :
    ∃ s e hc, round negative (n * unitsPerOne) 1 = finite negative s e hc ∧
      (finite negative s e hc).magnitude = n * unitsPerOne := by
  obtain ⟨places, heighth, hleast, hmost⟩ := exists_eighth
  have hunits : unitsPerOne = Nat.pow 2 (places + 3) := by
    rw [heighth, Nat.pow_eq, Nat.pow_eq, Nat.pow_add, Nat.mul_comm]
  obtain ⟨s, e, hc, hvalue⟩ := exists_canonical h (by omega) hmost
  rw [hunits]
  exact ⟨s, e, hc, by rw [← hvalue, round_magnitude], hvalue⟩

end Double

namespace Number

/-- A double is the `same` as an integer when its `units` are. -/
theorem real_same_int_iff {a : Bool} {s e : Nat} (h : Double.Canonical s e) (z : Int) :
    (real (.finite a s e h)).same (int z) = true ↔
      (Double.finite a s e h).units = z * Double.unitsPerOne := by
  simp only [same, compare?, Double.compareInt?, decide_eq_true_eq, Option.some.injEq,
    Std.compare_eq_iff_eq]

/-- What is the `same` as an integer compares with all of them as that one does. -/
theorem compare?_of_same {n : Number} {y : Int} (h : n.same (int y) = true) (z : Int) :
    n.compare? (int z) = some (compare y z) := by
  cases n with
  | int i =>
    obtain rfl : i = y := by simpa [same] using h
    exact compare?_int i z
  | real x =>
    cases x with
    | nan => cases h
    | infinity a => cases a <;> cases h
    | finite a s e hc =>
      have hpos := Double.unitsPerOne_pos
      rw [real_same_int_iff] at h
      simp only [compare?, Double.compareInt?, h, Option.some.injEq]
      generalize Double.unitsPerOne = u at hpos
      -- a common factor changes nothing
      have hlt : y * u < z * u ↔ y < z := Int.mul_lt_mul_right (by omega)
      have heq : y * u = z * u ↔ y = z := Int.mul_eq_mul_right_iff (by omega)
      simp only [compare, compareOfLessAndEq, hlt, heq]

theorem lt_of_same {n : Number} {y : Int} (h : n.same (int y) = true) (z : Int) :
    n.lt (int z) = decide (y < z) := by
  simp only [lt, compare?_of_same h, Option.some.injEq, Int.compare_eq_lt]

theorem le_of_same {n : Number} {y : Int} (h : n.same (int y) = true) (z : Int) :
    n.le (int z) = decide (y ≤ z) := by
  rw [le, lt_of_same h, same, compare?_of_same h, ← Bool.decide_or]
  simp only [Option.some.injEq, Std.compare_eq_iff_eq]
  exact decide_eq_decide.2 Int.le_iff_lt_or_eq.symm

end Number

namespace Duration

/-- Exactly `millis` whole milliseconds are within a duration, as its `Duration.millis` compare with
them. -/
def Lasts (d : Duration) (millis : Int) : Prop :=
  ∀ past : Int, (Number.real d.millis).lt (.int past) = true ↔ millis < past

/-- The `millis` of a duration of eighths of a second are a whole number. -/
private theorem millis_eighths {n : Nat} (h : 125 * n < 2 ^ 53) :
    ∃ s e hc, (⟨125000 * n⟩ : Duration).millis = .finite false s e hc ∧
      (Double.finite false s e hc).magnitude = 125 * n * Double.unitsPerOne := by
  obtain ⟨s, e, hc, hseconds, hcount⟩ := Double.round_eighths false (n := n) (by omega)
  obtain ⟨t, f, ht, hthousand, hfactor⟩ := Double.round_whole false (n := 1000) (by decide)
  obtain ⟨u, g, hu, hmillis, hlength⟩ := Double.round_whole false h
  refine ⟨u, g, hu, ?_, hlength⟩
  have hsign : decide ((125000 * n : Int) < 0) = false := decide_eq_false (by omega)
  -- neither the quotient nor the product has to be rounded
  have hfirst : (⟨125000 * n⟩ : Duration).seconds = .finite false s e hc := by
    rw [seconds, Double.ofRatio, hsign, show (125000 * n : Int).natAbs = n * 125000 by omega,
      Nat.mul_right_comm, ← hseconds]
    exact Double.round_mul_right false (n * Double.unitsPerOne) 8 (by decide)
  have hsecond : Double.ofRatio 1000 1 = .finite false t f ht := by
    rw [← hthousand, Double.ofRatio, show (1000 : Int).natAbs = 1000 from rfl,
      show decide ((1000 : Int) < 0) = false from rfl]
  rw [millis, hfirst, hsecond, Double.finite_mul_finite, hfactor, ← hmillis, Bool.xor_false,
    show (Double.finite false s e hc).magnitude * (1000 * Double.unitsPerOne) =
      125 * (8 * (Double.finite false s e hc).magnitude) * Double.unitsPerOne by ring,
    hcount, ← Nat.mul_assoc,
    ← Double.round_mul_right false (125 * n * Double.unitsPerOne) 1 Double.unitsPerOne_pos,
    Nat.one_mul]

/-- Eighths of a second have as many `millis` as they should, for 285,000 years at least. -/
theorem same_eighths {n : Nat} (h : 125 * n < 2 ^ 53) :
    (Number.real (⟨125000 * n⟩ : Duration).millis).same (.int (125 * n)) = true := by
  obtain ⟨s, e, hc, hmillis, hmagnitude⟩ := millis_eighths h
  rw [hmillis, Number.real_same_int_iff, Double.units, hmagnitude]
  rfl

/-- Whole seconds `Lasts` as long as they are, for 285,000 years at least. -/
theorem lasts_seconds {n : Nat} (h : 1000 * n < 2 ^ 53) :
    (⟨1000000 * n⟩ : Duration).Lasts (1000 * n) := by
  intro past
  have hsame := same_eighths (n := 8 * n) (by omega)
  rw [show (125000 * ↑(8 * n) : Int) = 1000000 * n by omega,
    show (125 * ↑(8 * n) : Int) = 1000 * n by omega] at hsame
  rw [Number.lt_of_same hsame, decide_eq_true_eq]

/-- The last millisecond of a second and a millisecond is lost in rounding. -/
example : (Number.real (⟨1001000⟩ : Duration).millis).lt (.int 1001) = true := by decide +kernel

end Duration

end FlinkSteward
