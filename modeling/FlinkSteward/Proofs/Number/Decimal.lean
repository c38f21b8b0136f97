import FlinkSteward.Number.Decimal
import FlinkSteward.Proofs.Number.Rounding
import FlinkSteward.Proofs.Text.Digits

/-!
# Decimal texts of doubles read back

The written form of a finite double is a whole part, a fraction and an exponent. Taken together as
a decimal these round to the double again.

## Key results

- `ofDecimal_shortest`: the digits that are written, and the place of the first one, give the double
- `Notation`: what a written magnitude consists of
- `magnitudeText_notation`: the written magnitude of a finite double, with the double as its value
-/

namespace FlinkSteward.Double

open FlinkSteward.Text

/-! ## The shortest decimal -/

private theorem reads_of_nearestOnGrid? {x : Double} {e : Int} {q : Nat}
    (h : nearestOnGrid? x e = some q) : ofDecimal x.isNegative q e = x := by
  unfold nearestOnGrid? at h
  extract_lets num den q₀ r below above preferBelow at h
  split at h
  · rename_i hb
    obtain rfl := Option.some.inj h
    simpa [below, readsBack] using hb.1
  · split at h
    · rename_i ha
      obtain rfl := Option.some.inj h
      simpa [above, readsBack] using ha
    · exact nomatch h

theorem ofDecimal_zero (negative : Bool) (e : Int) : ofDecimal negative 0 e = zero negative := by
  simp [ofDecimal]

/-- `ofDecimal` reads back the `shortestDecimal`, whether one of the grids has it or not. -/
private theorem ofDecimal_shortestDecimal {n : Bool} {s e : Nat} (h : Canonical s e) (hs : s ≠ 0) :
    ofDecimal n (shortestDecimal (finite n s e h)).1 (shortestDecimal (finite n s e h)).2 =
      finite n s e h := by
  simp only [shortestDecimal]
  split
  · rename_i d hd
    obtain ⟨g, -, hg⟩ := List.exists_of_findSome?_eq_some hd
    obtain ⟨q, hq, rfl⟩ := Option.map_eq_some_iff.1 hg
    exact reads_of_nearestOnGrid? hq
  · exact ofDecimal_exact n h hs

/-- `dropZeros` moves the zeros at the end of a mantissa into the exponent, and keeps the decimal. -/
private theorem ofDecimal_dropZeros (negative : Bool) (fuel : Nat) (d : Nat × Int) (hd : d.1 ≠ 0) :
    (dropZeros fuel d).1 ≠ 0 ∧
      ofDecimal negative (dropZeros fuel d).1 (dropZeros fuel d).2 = ofDecimal negative d.1 d.2 := by
  induction fuel generalizing d with
  | zero => exact ⟨hd, rfl⟩
  | succ fuel ih =>
    obtain ⟨m, e⟩ := d
    simp only [dropZeros]
    split
    · rename_i h
      have hm : m / 10 ≠ 0 := by omega
      obtain ⟨hne, heq⟩ := ih (m / 10, e + 1) hm
      refine ⟨hne, heq.trans ?_⟩
      have hshift := ofDecimal_mul_pow negative hm (e + 1) 1
      rw [Nat.pow_one, Nat.div_mul_cancel (Nat.dvd_of_mod_eq_zero h.2)] at hshift
      rw [← hshift]; congr 1; omega
    · exact ⟨hd, rfl⟩

/-- The digits that `shortest` gives for a double that is not zero, and the place of the first of
them. -/
theorem ofDecimal_shortest {n : Bool} {s e : Nat} (h : Canonical s e) (hs : s ≠ 0) :
    ∃ m ≠ 0, ∃ k : Int, ofDecimal n m k = finite n s e h ∧
      shortest (finite n s e h) = (digitsOf 10 m, k + (digitsOf 10 m).length - 1) := by
  have hd := ofDecimal_shortestDecimal (n := n) h hs
  have hne : (shortestDecimal (finite n s e h)).1 ≠ 0 := by
    intro h0
    rw [h0, ofDecimal_zero] at hd
    simp only [zero, finite.injEq] at hd
    exact hs hd.2.1.symm
  obtain ⟨hm, hk⟩ := ofDecimal_dropZeros n 400 _ hne
  exact ⟨_, hm, _, hk.trans hd, rfl⟩

/-! ## Notation -/

/-- A fraction, which is left out when it has no digits. -/
def fractionText (part : List Char) : List Char :=
  if part.isEmpty then [] else '.' :: part

/-- An exponent, of at least two digits. -/
def exponentText (e : Int) : List Char :=
  'e' :: (if e < 0 then '-' else '+') :: padded 10 2 e.natAbs

/-- A number as a whole part, a fraction and an exponent. -/
structure Notation where
  /-- The digits before the point. -/
  whole : List Char
  /-- The digits behind it. -/
  part : List Char
  /-- The exponent, which may be missing. -/
  exponent : Option Int
  /-- Both parts are digits. -/
  digits : Digits (whole ++ part)
  /-- There is a digit before the point. -/
  whole_ne_nil : whole ≠ []
  /-- A zero stands in front only alone. -/
  no_zero_first : whole = ['0'] ∨ whole.head? ≠ some '0'
  /-- A point or an exponent tells it from an integer. -/
  not_integer : part ≠ [] ∨ exponent ≠ none

namespace Notation

/-- The written form. -/
def text (w : Notation) : List Char :=
  w.whole ++ fractionText w.part ++ (w.exponent.map exponentText).getD []

/-- The double it stands for. -/
def value (w : Notation) (negative : Bool) : Double :=
  ofDecimal negative (digitsValue (w.whole ++ w.part)) (w.exponent.getD 0 - w.part.length)

end Notation

private theorem singleton_of_digitsOf {m : Nat} {c : Char} {cs : List Char}
    (h : digitsOf 10 m = c :: cs) (hm : m ≠ 0) : c ≠ '0' := by
  rintro rfl
  exact head_digitsOf_ne_zero hm (by rw [h]; rfl)

section Positional

variable (negative : Bool) {m : Nat} {ds : List Char} {place : Int}

private theorem head?_append_ne_zero {ds zeros : List Char} (hne : ds ≠ [])
    (hhead : ds.head? ≠ some '0') : (ds ++ zeros).head? ≠ some '0' := by
  cases ds with
  | nil => exact absurd rfl hne
  | cons c cs => simpa using hhead

/-- `positional` with zeros between the point and the first digit. -/
private theorem positional_small (hds : Digits ds) (hne : ds ≠ []) (hval : digitsValue ds = m)
    (hplace : place < 0) : ∃ w : Notation, w.text = positional ds place ∧
      w.value negative = ofDecimal negative m (place + 1 - ds.length) := by
  have hz := Digits.zeros (place.natAbs - 1)
  have hzero : Digits ['0'] := Digits.zeros 1
  have hzval : digitsValue ['0'] = 0 := digitsValue_zeros 1
  refine ⟨⟨['0'], List.replicate (place.natAbs - 1) '0' ++ ds, none,
    hzero.append (hz.append hds), by simp, .inl rfl, .inl (by simp [hne])⟩, ?_, ?_⟩
  · simp [Notation.text, fractionText, positional, hplace, hne]
  · simp only [Notation.value, Option.getD_none, List.length_append, List.length_replicate]
    rw [digitsValue_append hzero (hz.append hds), digitsValue_append hz hds, digitsValue_zeros,
      hval, hzval]
    congr 1
    · omega
    · omega

/-- `positional` with the point among the digits. -/
private theorem positional_among (hds : Digits ds) (hval : digitsValue ds = m)
    (hhead : ds.head? ≠ some '0') (hplace : 0 ≤ place) (hlt : place.toNat + 1 < ds.length) :
    ∃ w : Notation, w.text = positional ds place ∧
      w.value negative = ofDecimal negative m (place + 1 - ds.length) := by
  have hnot : ¬ place < 0 := Int.not_lt.2 hplace
  generalize hw : place.toNat + 1 = w at hlt
  have htake : ds.take w ≠ [] := by
    rw [Ne, List.take_eq_nil_iff, ← List.length_eq_zero_iff]; omega
  have hdrop : ds.drop w ≠ [] := by rw [Ne, List.drop_eq_nil_iff]; omega
  have hfirst : (ds.take w).head? ≠ some '0' := by
    rw [List.head?_take, if_neg (by omega)]; exact hhead
  refine ⟨⟨ds.take w, ds.drop w, none, by rwa [List.take_append_drop], htake, .inr hfirst,
    .inl hdrop⟩, ?_, ?_⟩
  · have hfill : w - ds.length = 0 := by omega
    simp [Notation.text, fractionText, positional, hw, hnot, hdrop, hfill]
  · simp only [Notation.value, Option.getD_none, List.take_append_drop, hval, List.length_drop]
    congr 1; omega

/-- `positional` with zeros between the last digit and the point. -/
private theorem positional_large (hm : m ≠ 0) (hds : Digits ds) (hne : ds ≠ [])
    (hval : digitsValue ds = m) (hhead : ds.head? ≠ some '0') (hplace : 0 ≤ place)
    (hge : ds.length ≤ place.toNat + 1) : ∃ w : Notation, w.text = positional ds place ∧
      w.value negative = ofDecimal negative m (place + 1 - ds.length) := by
  have hnot : ¬ place < 0 := Int.not_lt.2 hplace
  have hzero : Digits ['0'] := Digits.zeros 1
  have hzval : digitsValue ['0'] = 0 := digitsValue_zeros 1
  obtain ⟨j, hj⟩ := Nat.exists_eq_add_of_le hge
  have hz := Digits.zeros j
  have hfill : place.toNat + 1 - ds.length = j := by omega
  have hall : ds.take (place.toNat + 1) = ds := List.take_of_length_le hge
  refine ⟨⟨ds ++ List.replicate j '0', ['0'], none, (hds.append hz).append hzero, by simp [hne],
    .inr (head?_append_ne_zero hne hhead), .inl (by simp)⟩, ?_, ?_⟩
  · simp [Notation.text, fractionText, positional, hnot, hfill, hall, List.drop_eq_nil_of_le hge]
  · simp only [Notation.value, Option.getD_none, List.length_singleton]
    rw [digitsValue_append (hds.append hz) hzero, digitsValue_append hds hz, digitsValue_zeros,
      hval, List.length_replicate, hzval]
    -- the zero behind the point is one more than those before it
    have hshift := ofDecimal_mul_pow negative hm j (j + 1)
    simp only [List.length_singleton, Nat.add_zero, Nat.mul_assoc, ← Nat.pow_add]
    rw [show place + 1 - ds.length = j by omega, ← hshift]
    congr 1; omega

end Positional

/-- `positional` digits with the point among them, or zeros between them and the point. -/
private theorem positional_notation (negative : Bool) {m : Nat} (hm : m ≠ 0) (k : Int) :
    ∃ w : Notation, w.text = positional (digitsOf 10 m) (k + (digitsOf 10 m).length - 1) ∧
      w.value negative = ofDecimal negative m k := by
  have hds := Digits.digitsOf m
  have hval := digitsValue_digitsOf m
  have hne := digitsOf_ne_nil m
  have hhead := head_digitsOf_ne_zero hm
  generalize digitsOf 10 m = ds at hds hval hne hhead ⊢
  have hk : k = (k + ds.length - 1) + 1 - ds.length := by omega
  generalize k + ds.length - 1 = place at hk ⊢
  subst hk
  rcases Int.lt_or_le place 0 with hneg | hnn
  · exact positional_small negative hds hne hval hneg
  · rcases Nat.lt_or_ge (place.toNat + 1) ds.length with hlt | hge
    · exact positional_among negative hds hval hhead hnn hlt
    · exact positional_large negative hm hds hne hval hhead hnn hge

/-- `scientific` digits with one before the point, and an exponent. -/
private theorem scientific_notation (negative : Bool) {m : Nat} (hm : m ≠ 0) (k : Int) :
    ∃ w : Notation, w.text = scientific (digitsOf 10 m) (k + (digitsOf 10 m).length - 1) ∧
      w.value negative = ofDecimal negative m k := by
  have hds := Digits.digitsOf m
  have hval := digitsValue_digitsOf m
  cases hd : digitsOf 10 m with
  | nil => exact absurd hd (digitsOf_ne_nil m)
  | cons c cs =>
    have hc := singleton_of_digitsOf hd hm
    rw [hd] at hds hval
    refine ⟨⟨[c], cs, some (k + (c :: cs).length - 1), hds, by simp, .inr (by simpa using hc),
      .inr (by simp)⟩, ?_, ?_⟩
    · simp [Notation.text, fractionText, exponentText, scientific]
    · simp only [Notation.value, Option.getD_some, List.singleton_append, hval, List.length_cons]
      congr 1; omega

/-- The `magnitudeText` of a finite double stands for the double. -/
theorem magnitudeText_notation (n : Bool) {s e : Nat} (h : Canonical s e) :
    ∃ w : Notation, w.text = magnitudeText (finite n s e h) ∧ w.value n = finite n s e h := by
  by_cases hs : s = 0
  · -- zero has the least exponent, so that only its sign is left
    subst hs
    have he : e = 0 := h.2.2.resolve_left (by decide)
    subst he
    refine ⟨⟨['0'], ['0'], none, (Digits.zeros 2), by simp, .inl rfl, .inl (by simp)⟩, ?_, ?_⟩
    · simp [Notation.text, fractionText, magnitudeText, magnitude]
    · simp only [Notation.value]
      rw [show digitsValue (['0'] ++ ['0']) = 0 from digitsValue_zeros 2, ofDecimal_zero]
      rfl
  · obtain ⟨m, hm, k, hk, hsh⟩ := ofDecimal_shortest (n := n) h hs
    have hmag : (finite n s e h).magnitude ≠ 0 :=
      Nat.mul_ne_zero hs (Nat.two_pow_pos e).ne'
    simp only [magnitudeText, hmag, ↓reduceIte, hsh]
    split
    · obtain ⟨w, ht, hv⟩ := positional_notation n hm k
      exact ⟨w, ht, hv.trans hk⟩
    · obtain ⟨w, ht, hv⟩ := scientific_notation n hm k
      exact ⟨w, ht, hv.trans hk⟩

end FlinkSteward.Double
