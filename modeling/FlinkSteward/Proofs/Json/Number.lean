import FlinkSteward.Json.Read
import FlinkSteward.Json.Write
import FlinkSteward.Proofs.Number.Decimal

/-!
# Numbers of JSON read back

A number ends where its list or its map goes on. What is written for an integer has neither a point
nor an exponent, and what is written for a double has one of them, so that the reader tells the two
apart.

## Key results

- `scalar_int`: an integer read back
- `scalar_real`: a double read back, with NaN and the infinities as words
-/

namespace FlinkSteward.Json

open FlinkSteward.Text

/-- What follows a value: nothing, or the next character of the list or the map around it. -/
def Ended (rest : List Char) : Prop :=
  ∀ c ∈ rest.head?, c = ',' ∨ c = ']' ∨ c = '}'

theorem Ended.noDigitFirst {rest : List Char} (h : Ended rest) : NoDigitFirst rest := by
  intro c hc
  rcases h c hc with rfl | rfl | rfl <;> decide

private theorem pointDigits_ended {rest : List Char} (h : Ended rest) :
    pointDigits rest = ([], rest) := by
  rw [pointDigits.eq_def]
  split
  · rename_i ds
    have := h '.' rfl
    simp at this
  · rfl

private theorem exponent?_ended {rest : List Char} (h : Ended rest) : exponent? rest = none := by
  cases rest with
  | nil => rfl
  | cons c rest =>
    rcases h c rfl with rfl | rfl | rfl <;> rfl

/-! ## Without a sign -/

/-- `wholeDigits` reads the digits before the point up to their end. -/
private theorem wholeDigits_append {ds rest : List Char} (hd : Digits ds)
    (hz : ds = ['0'] ∨ ds.head? ≠ some '0') (hne : ds ≠ []) (hr : NoDigitFirst rest) :
    wholeDigits (ds ++ rest) = (ds, rest) := by
  rcases hz with rfl | hz
  · rfl
  · -- the run of digits is taken, since it does not start with the zero that is read alone
    obtain ⟨c, cs, rfl⟩ := List.exists_cons_of_ne_nil hne
    rw [wholeDigits.eq_def]
    split
    · rename_i heq
      simp only [List.cons_append, List.cons.injEq] at heq
      simp [heq.1] at hz
    · rw [takeWhile_digits hd hr, dropWhile_digits hd hr]

private theorem digits_isEmpty {ds : List Char} (h : ds ≠ []) : ds.isEmpty = false := by
  cases ds with
  | nil => contradiction
  | cons => rfl

/-- `unsignedNumber?` reads the digits of an integer without its sign. -/
theorem unsignedNumber?_digitsOf (negative : Bool) (n : Nat) {rest : List Char} (hr : Ended rest) :
    unsignedNumber? negative (digitsOf 10 n ++ rest) =
      some (.int (if negative then -(n : Int) else n), rest) := by
  have hz : digitsOf 10 n = ['0'] ∨ (digitsOf 10 n).head? ≠ some '0' := by
    rcases Nat.eq_zero_or_pos n with rfl | hn
    · exact .inl rfl
    · exact .inr (head_digitsOf_ne_zero (Nat.ne_of_gt hn))
  simp only [unsignedNumber?,
    wholeDigits_append (Digits.digitsOf n) hz (digitsOf_ne_nil n) hr.noDigitFirst,
    digits_isEmpty (digitsOf_ne_nil n), pointDigits_ended hr, exponent?_ended hr,
    digitsValue_digitsOf, List.isEmpty_nil, Bool.false_eq_true, ↓reduceIte]

/-- `pointDigits` reads a fraction that is there up to its end. -/
private theorem pointDigits_fraction {part rest : List Char} (hp : Digits part)
    (hr : NoDigitFirst rest) (hdot : pointDigits rest = ([], rest)) :
    pointDigits (Double.fractionText part ++ rest) = (part, rest) := by
  by_cases hne : part = []
  · simpa [Double.fractionText, hne] using hdot
  · simp [Double.fractionText, hne, pointDigits, takeWhile_digits hp hr, dropWhile_digits hp hr]

private theorem exponentDigits_padded (negative : Bool) (n : Nat) {rest : List Char}
    (hr : Ended rest) :
    exponentDigits negative (padded 10 2 n ++ rest) =
      some (if negative then -(n : Int) else n, rest) := by
  have htake := takeWhile_digits (Digits.padded 2 n) hr.noDigitFirst
  have hdrop := dropWhile_digits (Digits.padded 2 n) hr.noDigitFirst
  simp only [exponentDigits, htake, hdrop, digits_isEmpty (padded_ne_nil 2 n), digitsValue_padded,
    Bool.false_eq_true, ↓reduceIte]

/-- `exponent?` reads an exponent that is there up to its end. -/
private theorem exponent?_exponentText (e : Int) {rest : List Char} (hr : Ended rest) :
    exponent? (Double.exponentText e ++ rest) = some (e, rest) := by
  rcases Int.lt_or_le e 0 with h | h
  · have habs : -(e.natAbs : Int) = e := by omega
    rw [Double.exponentText, if_pos h]
    exact (exponentDigits_padded true e.natAbs hr).trans (by rw [if_pos rfl, habs])
  · have habs : (e.natAbs : Int) = e := by omega
    rw [Double.exponentText, if_neg (Int.not_lt.2 h)]
    exact (exponentDigits_padded false e.natAbs hr).trans (by rw [if_neg Bool.noConfusion, habs])

/-- What comes behind the fraction of a number has no digit in front, and no `pointDigits`. -/
private theorem exponent_boundary (exponent : Option Int) {rest : List Char} (hr : Ended rest) :
    NoDigitFirst ((exponent.map Double.exponentText).getD [] ++ rest) ∧
      pointDigits ((exponent.map Double.exponentText).getD [] ++ rest) =
        ([], (exponent.map Double.exponentText).getD [] ++ rest) := by
  cases exponent with
  | none => exact ⟨hr.noDigitFirst, pointDigits_ended hr⟩
  | some e =>
    refine ⟨fun c hc => ?_, rfl⟩
    obtain rfl : 'e' = c := by simpa [Double.exponentText] using hc
    rfl

/-- `unsignedNumber?` reads a double without its sign. -/
theorem unsignedNumber?_notation (negative : Bool) (w : Double.Notation) {rest : List Char}
    (hr : Ended rest) :
    unsignedNumber? negative (w.text ++ rest) = some (.real (w.value negative), rest) := by
  have hwhole : Digits w.whole := fun c hc => w.digits c (List.mem_append_left _ hc)
  have hpart : Digits w.part := fun c hc => w.digits c (List.mem_append_right _ hc)
  obtain ⟨hnd, hnp⟩ := exponent_boundary w.exponent hr
  have hfraction := pointDigits_fraction hpart hnd hnp
  -- the whole part ends at the point, or at the exponent, or at what follows the number
  have hfirst : NoDigitFirst (Double.fractionText w.part ++
      ((w.exponent.map Double.exponentText).getD [] ++ rest)) := by
    rw [Double.fractionText]
    split
    · exact hnd
    · intro c hc
      obtain rfl : '.' = c := by simpa using hc
      rfl
  simp only [unsignedNumber?, Double.Notation.text, List.append_assoc,
    wholeDigits_append hwhole w.no_zero_first w.whole_ne_nil hfirst,
    digits_isEmpty w.whole_ne_nil, hfraction, Bool.false_eq_true, ↓reduceIte]
  cases he : w.exponent with
  | none =>
    -- a number without an exponent has a point, and so is not read as an integer
    have hne : w.part ≠ [] := w.not_integer.resolve_right (by simp [he])
    simp [exponent?_ended hr, hne, Double.Notation.value, he]
  | some e =>
    simp [exponent?_exponentText e hr, Double.Notation.value, he]

/-! ## Signs and words -/

private theorem afterWord?_eq_none (word : String) {c : Char} {cs : List Char}
    (h : word.toList.head? ≠ some c) (hne : word.toList ≠ []) : afterWord? word (c :: cs) = none := by
  rw [afterWord?, if_neg]
  cases hw : word.toList with
  | nil => contradiction
  | cons d ds =>
    rw [hw] at h
    simp [List.isPrefixOf_cons_cons, show d ≠ c by simpa using h]

/-- `scalar` reads characters that start with a digit, or with a minus and a digit, as a number. -/
private theorem scalar_signed (negative : Bool) {d : Char} (hd : isAsciiDigit d = true)
    {cs rest : List Char} {v : Value} (h : unsignedNumber? negative (d :: cs) = some (v, rest)) :
    scalar ((if negative then ['-'] else []) ++ d :: cs) = .ok (v, rest) := by
  have hne : ∀ c, isAsciiDigit c = false → some c ≠ some d := by
    rintro c hc heq
    rw [Option.some.inj heq, hd] at hc
    exact nomatch hc
  cases negative with
  | true =>
    -- the only word with a sign goes on with a letter
    have hinf : afterWord? "-Infinity" ('-' :: d :: cs) = none := by
      rw [afterWord?, if_neg]
      have : 'I' ≠ d := fun he => hne 'I' rfl (congrArg some he)
      simp [this]
    simp only [↓reduceIte, List.singleton_append, scalar, hinf, h,
      afterWord?_eq_none "null" (c := '-') (by decide) (by decide),
      afterWord?_eq_none "true" (c := '-') (by decide) (by decide),
      afterWord?_eq_none "false" (c := '-') (by decide) (by decide),
      afterWord?_eq_none "NaN" (c := '-') (by decide) (by decide),
      afterWord?_eq_none "Infinity" (c := '-') (by decide) (by decide)]
  | false =>
    -- no word starts with a digit
    have hminus : d ≠ '-' := fun he => hne '-' rfl (congrArg some he.symm)
    simp only [Bool.false_eq_true, ↓reduceIte, List.nil_append, scalar,
      afterWord?_eq_none "null" (hne 'n' rfl) (by decide),
      afterWord?_eq_none "true" (hne 't' rfl) (by decide),
      afterWord?_eq_none "false" (hne 'f' rfl) (by decide),
      afterWord?_eq_none "NaN" (hne 'N' rfl) (by decide),
      afterWord?_eq_none "Infinity" (hne 'I' rfl) (by decide),
      afterWord?_eq_none "-Infinity" (hne '-' rfl) (by decide)]
    simp [hminus, h]

/-- `toString` of an integer has its digits behind its sign. -/
theorem toList_toString_int (i : Int) :
    (toString i).toList = (if i < 0 then ['-'] else []) ++ digitsOf 10 i.natAbs := by
  rw [Int.toString_eq_repr, Int.repr_eq_if]
  split
  · rename_i h
    rw [if_neg (Int.not_lt.2 h), Nat.toList_repr, show i.toNat = i.natAbs by omega]
    rfl
  · rename_i h
    rw [if_pos (Int.not_le.1 h), String.toList_append, Nat.toList_repr,
      show (-i).toNat = i.natAbs by omega]
    rfl

/-- `scalar` reads back what `toString` writes of an integer. -/
theorem scalar_int (i : Int) {rest : List Char} (hr : Ended rest) :
    scalar ((toString i).toList ++ rest) = .ok (.int i, rest) := by
  have hread := unsignedNumber?_digitsOf (decide (i < 0)) i.natAbs hr
  have hdigits := Digits.digitsOf i.natAbs
  obtain ⟨d, ds, hd⟩ := List.exists_cons_of_ne_nil (digitsOf_ne_nil i.natAbs)
  rw [hd] at hread hdigits
  rw [toList_toString_int, hd, List.append_assoc]
  have h := scalar_signed (decide (i < 0)) (hdigits d List.mem_cons_self) hread
  simp only [decide_eq_true_eq] at h
  rw [List.cons_append]
  refine h.trans ?_
  congr 3
  split <;> omega

/-- `scalar` reads back what `doubleText` writes of a double. -/
theorem scalar_real (x : Double) {rest : List Char} (hr : Ended rest) :
    scalar (doubleText x ++ rest) = .ok (.real x, rest) := by
  cases x with
  | nan => rfl
  | infinity n => cases n <;> rfl
  | finite n s e h =>
    obtain ⟨w, htext, hvalue⟩ := Double.magnitudeText_notation n h
    have hread := unsignedNumber?_notation n w hr
    obtain ⟨d, ds, hd⟩ := List.exists_cons_of_ne_nil w.whole_ne_nil
    have hfirst : isAsciiDigit d = true := w.digits d (by simp [hd])
    have hcons : w.text ++ rest = d :: (ds ++ Double.fractionText w.part ++
        (w.exponent.map Double.exponentText).getD [] ++ rest) := by
      simp [Double.Notation.text, hd]
    -- the first digit decides that a number starts here
    rw [hcons, hvalue] at hread
    have hs := scalar_signed n hfirst hread
    rw [← hcons, htext] at hs
    cases n <;> simpa [doubleText, Double.text, Double.isNegative] using hs

end FlinkSteward.Json
