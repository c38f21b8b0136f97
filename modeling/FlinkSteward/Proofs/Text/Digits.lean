import FlinkSteward.Text.Digit
import Mathlib.Algebra.Group.Nat.Defs

/-!
# Runs of digits

The digits `0` to `9` as they are written and read. What is written for a natural number consists of
such digits, starts with a zero only if it is zero, and has the number as its value.

## Key results

- `digitsValue_digitsOf`: written digits read back
- `digitsValue_append`, `digitsValue_zeros`: the value of digits put together
- `takeWhile_run`, `dropWhile_run`: where a run of characters of one kind ends
-/

namespace FlinkSteward.Text

/-- Characters that are all digits from `0` to `9`. -/
def Digits (cs : List Char) : Prop :=
  ∀ c ∈ cs, isAsciiDigit c = true

/-- Characters of which the first is no digit, if there is one. -/
def NoDigitFirst (cs : List Char) : Prop :=
  ∀ c ∈ cs.head?, isAsciiDigit c = false

theorem isAsciiDigit_eq_isDigit (c : Char) : isAsciiDigit c = c.isDigit := by
  simp only [isAsciiDigit, Char.isDigit, Char.le_def]

@[simp] theorem Digits.nil : Digits [] := by simp [Digits]

theorem Digits.append {as bs : List Char} (ha : Digits as) (hb : Digits bs) :
    Digits (as ++ bs) := by
  intro c hc
  rcases List.mem_append.1 hc with h | h
  · exact ha c h
  · exact hb c h

theorem Digits.zeros (n : Nat) : Digits (List.replicate n '0') := by
  intro c hc
  rw [List.eq_of_mem_replicate hc]; decide

/-! ## Values -/

theorem digitValue?_of_isAsciiDigit {c : Char} (h : isAsciiDigit c = true) :
    digitValue? c = some (c.toNat - '0'.toNat) := by
  simp only [isAsciiDigit, Bool.and_eq_true, decide_eq_true_eq, Char.le_def,
    UInt32.le_iff_toNat_le] at h
  have hc : 48 ≤ c.toNat ∧ c.toNat ≤ 48 + 9 := h
  simp [digitValue?, zeroDigits, hc]

theorem digitsValue_eq_ofDigitChars {cs : List Char} (h : Digits cs) :
    digitsValue cs = Nat.ofDigitChars 10 cs 0 := by
  -- both go through the digits from the left, with the value of those that were read
  suffices ∀ n, cs.foldl (fun n c => 10 * n + (digitValue? c).getD 0) n =
      Nat.ofDigitChars 10 cs n from this 0
  induction cs with
  | nil => intro n; rfl
  | cons c cs ih =>
    intro n
    have hc := digitValue?_of_isAsciiDigit (h c List.mem_cons_self)
    rw [List.foldl_cons, hc, Option.getD_some, Nat.ofDigitChars_cons]
    exact ih (fun d hd => h d (List.mem_cons_of_mem _ hd)) _

/-- Digits behind others move those up in `digitsValue`. -/
theorem digitsValue_append {as bs : List Char} (ha : Digits as) (hb : Digits bs) :
    digitsValue (as ++ bs) = digitsValue as * 10 ^ bs.length + digitsValue bs := by
  rw [digitsValue_eq_ofDigitChars (ha.append hb), digitsValue_eq_ofDigitChars ha,
    digitsValue_eq_ofDigitChars hb, Nat.ofDigitChars_append, Nat.ofDigitChars_eq_ofDigitChars_zero,
    Nat.mul_comm]

@[simp] theorem digitsValue_zeros (n : Nat) : digitsValue (List.replicate n '0') = 0 := by
  rw [digitsValue_eq_ofDigitChars (Digits.zeros n), Nat.ofDigitChars_replicate_zero, Nat.mul_zero]

/-! ## Written numbers -/

theorem Digits.digitsOf (n : Nat) : Digits (digitsOf 10 n) := by
  intro c hc
  rw [isAsciiDigit_eq_isDigit]
  exact Nat.isDigit_of_mem_toDigits (by decide) (by decide) hc

theorem digitsOf_ne_nil (n : Nat) : digitsOf 10 n ≠ [] :=
  Nat.toDigits_ne_nil

/-- `digitsValue` reads back the `digitsOf` a number. -/
theorem digitsValue_digitsOf (n : Nat) : digitsValue (digitsOf 10 n) = n := by
  rw [digitsValue_eq_ofDigitChars (Digits.digitsOf n)]
  exact Nat.ofDigitChars_ten_toDigits

/-- `digitsOf` has a zero in front for zero only. -/
theorem head_digitsOf_ne_zero {n : Nat} (hn : n ≠ 0) : (digitsOf 10 n).head? ≠ some '0' := by
  induction n using Nat.strongRecOn with
  | ind n ih =>
    simp only [digitsOf] at ih ⊢
    rcases Nat.lt_or_ge n 10 with h | h
    · rw [Nat.toDigits_of_lt_base h]
      have : ∀ d < 10, d ≠ 0 → [Nat.digitChar d].head? ≠ some '0' := by decide
      exact this n h hn
    · -- the first digit of a longer number is the first one without its last digit
      rw [Nat.toDigits_of_base_le (by decide) h, List.head?_append]
      cases hd : Nat.toDigits 10 (n / 10) with
      | nil => exact absurd hd Nat.toDigits_ne_nil
      | cons c cs => simpa [hd] using ih (n / 10) (by omega) (by omega)

theorem Digits.padded (width n : Nat) : Digits (padded 10 width n) :=
  (Digits.zeros _).append (Digits.digitsOf n)

theorem digitsValue_padded (width n : Nat) : digitsValue (padded 10 width n) = n := by
  simp only [Text.padded]
  rw [digitsValue_append (Digits.zeros _) (Digits.digitsOf n), digitsValue_zeros,
    digitsValue_digitsOf, Nat.zero_mul, Nat.zero_add]

theorem padded_ne_nil (width n : Nat) : padded 10 width n ≠ [] := by
  simp [padded, digitsOf_ne_nil]

/-! ## Where a run ends -/

/-- A run of characters of one kind ends where another one follows. -/
theorem takeWhile_run {p : Char → Bool} {run rest : List Char} (hrun : ∀ c ∈ run, p c = true)
    (hrest : ∀ c ∈ rest.head?, p c = false) : (run ++ rest).takeWhile p = run := by
  rw [List.takeWhile_append_of_pos hrun]
  cases rest with
  | nil => simp
  | cons c rest => simp [hrest c rfl]

theorem dropWhile_run {p : Char → Bool} {run rest : List Char} (hrun : ∀ c ∈ run, p c = true)
    (hrest : ∀ c ∈ rest.head?, p c = false) : (run ++ rest).dropWhile p = rest := by
  rw [List.dropWhile_append_of_pos hrun]
  cases rest with
  | nil => rfl
  | cons c rest => simp [hrest c rfl]

theorem takeWhile_digits {ds rest : List Char} (hd : Digits ds) (hr : NoDigitFirst rest) :
    (ds ++ rest).takeWhile isAsciiDigit = ds :=
  takeWhile_run hd hr

theorem dropWhile_digits {ds rest : List Char} (hd : Digits ds) (hr : NoDigitFirst rest) :
    (ds ++ rest).dropWhile isAsciiDigit = rest :=
  dropWhile_run hd hr

end FlinkSteward.Text
