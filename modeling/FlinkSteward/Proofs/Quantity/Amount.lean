import FlinkSteward.Proofs.Text.Case
import FlinkSteward.Proofs.Text.Digits
import FlinkSteward.Proofs.Text.Strip
import FlinkSteward.Quantity.Duration
import FlinkSteward.Quantity.Memory

/-!
# Texts that are amounts

Memory sizes and durations are read from the same texts, each by a table of units of its own: digits of
any script, blanks, and the letters of a unit in either case, or no unit. A text of this form is read
unless the number has too many digits, and no other text is.

## Key results

- `Amount.Writes`: the texts, with the digits of the number and what the unit stands for
- `Memory.read_of_writes`, `Duration.ofText_of_writes`: what is read from such a text
- `amount_read_iff`: the texts that are read, with their values
-/

namespace FlinkSteward

open FlinkSteward.Text

/-! ## Kinds of characters -/

namespace Amount

/-- What `isDecimal` is one of ten characters in a row. -/
theorem exists_zero_of_isDecimal {c : Char} (h : isDecimal c = true) :
    ∃ z ∈ zeroDigits, z ≤ c.toNat ∧ c.toNat ≤ z + 9 := by
  rw [isDecimal, digitValue?, List.findSome?_isSome_iff] at h
  obtain ⟨z, hz, hvalue⟩ := h
  by_cases hbounds : z ≤ c.toNat ∧ c.toNat ≤ z + 9
  · exact ⟨z, hz, hbounds⟩
  · simp [hbounds] at hvalue

/-- What `isBlank` lies in one of the `blankRanges`. -/
theorem exists_range_of_isBlank {c : Char} (h : isBlank c = true) :
    ∃ r ∈ blankRanges, r.1 ≤ c.toNat ∧ c.toNat ≤ r.2 := by
  simpa [isBlank, inRanges] using h

/-- What `isDecimal` is not `isBlank`: no ten digits in a row have a blank among them. -/
theorem isBlank_of_isDecimal {c : Char} (h : isDecimal c = true) : isBlank c = false := by
  by_contra hblank
  obtain ⟨z, hz, hfirst, hlast⟩ := exists_zero_of_isDecimal h
  obtain ⟨r, hr, hlow, hhigh⟩ := exists_range_of_isBlank (eq_true_of_ne_false hblank)
  have hapart : ∀ z ∈ zeroDigits, ∀ r ∈ blankRanges, z + 9 < r.1 ∨ r.2 < z := by decide
  have := hapart z hz r hr
  omega

theorem isUnitLetter_iff {c : Char} : isUnitLetter c = true ↔
    (97 ≤ c.toNat ∧ c.toNat ≤ 122) ∨ (65 ≤ c.toNat ∧ c.toNat ≤ 90) := by
  simp only [isUnitLetter, Bool.or_eq_true, Bool.and_eq_true, decide_eq_true_eq]
  rfl

theorem isUnitLetter_eq_isAlpha (c : Char) : isUnitLetter c = c.isAlpha := by
  unfold isUnitLetter Char.isAlpha Char.isUpper Char.isLower
  rw [Bool.or_comm]
  simp only [Char.le_def, ge_iff_le, Bool.decide_and]

theorem lowerAsciiChar_eq_toLower (c : Char) : lowerAsciiChar c = c.toLower := by
  by_cases hupper : 'A' ≤ c ∧ c ≤ 'Z'
  · have hval : c.val ≥ 'A'.val ∧ c.val ≤ 'Z'.val := hupper
    have hlast : c.toNat ≤ 90 := hupper.2
    unfold lowerAsciiChar Char.toLower
    rw [if_pos hupper, dif_pos hval]
    apply Char.toNat_inj.1
    rw [toNat_ofNat_ascii (by omega)]
    show c.toNat + 32 = (c.val + 32).toNat
    rw [UInt32.toNat_add]
    show c.toNat + 32 = (c.toNat + 32) % 4294967296
    omega
  · have hval : ¬(c.val ≥ 'A'.val ∧ c.val ≤ 'Z'.val) := hupper
    unfold lowerAsciiChar Char.toLower
    rw [if_neg hupper, dif_neg hval]

theorem isDecimal_of_isUnitLetter {c : Char} (h : isUnitLetter c = true) : isDecimal c = false := by
  by_contra hdecimal
  obtain ⟨z, hz, hfirst, hlast⟩ := exists_zero_of_isDecimal (eq_true_of_ne_false hdecimal)
  have hletters := isUnitLetter_iff.1 h
  have hapart : ∀ z ∈ zeroDigits, z + 9 < 65 ∨ 122 < z := by decide
  have := hapart z hz
  omega

theorem isBlank_of_isUnitLetter {c : Char} (h : isUnitLetter c = true) : isBlank c = false := by
  by_contra hblank
  obtain ⟨r, hr, hlow, hhigh⟩ := exists_range_of_isBlank (eq_true_of_ne_false hblank)
  have hletters := isUnitLetter_iff.1 h
  have hapart : ∀ r ∈ blankRanges, r.2 < 65 ∨ 122 < r.1 := by decide
  have := hapart r hr
  omega

/-! ## Amounts as they are written -/

/-- The unit of an amount and what it stands for: nothing, or letters that are in the table in lower
case. -/
inductive Stands (units : List (String × Nat)) : List Char → Nat → Prop where
  /-- No unit counts once. -/
  | nothing : Stands units [] 1
  /-- The letter case of a unit does not count. -/
  | unit {letters : List Char} {name : String} {factor : Nat} (hmem : (name, factor) ∈ units)
      (hname : letters.map Char.toLower = name.toList) (hletters : ∀ c ∈ letters, c.isAlpha) :
      Stands units letters factor

/-- A text writes an amount: the digits of a number, and a unit that stands for `factor`, with blanks
around and between them. -/
def Writes (units : List (String × Nat)) (text : String) (digits : List Char) (factor : Nat) : Prop :=
  ∃ before between unit after, text.toList = before ++ (digits ++ between ++ unit) ++ after ∧
    Blanks before ∧ Blanks between ∧ Blanks after ∧
    digits ≠ [] ∧ (∀ c ∈ digits, isDecimal c = true) ∧ Stands units unit factor

theorem Stands.letters {units : List (String × Nat)} {unit : List Char} {factor : Nat}
    (h : Stands units unit factor) : ∀ c ∈ unit, isUnitLetter c = true := by
  cases h with
  | nothing => simp
  | unit _ _ hletters =>
    intro c hc
    rw [isUnitLetter_eq_isAlpha]
    exact hletters c hc

/-- `read?` takes digits, blanks and letters in this order apart again. -/
theorem read?_append {digits between unit : List Char} (hne : digits ≠ [])
    (hdigits : ∀ c ∈ digits, isDecimal c = true) (hbetween : Blanks between)
    (hunit : ∀ c ∈ unit, isUnitLetter c = true) :
    read? (digits ++ between ++ unit) =
      some ⟨digits, String.ofList (unit.map Char.toLower)⟩ := by
  have hrest : ∀ c ∈ (between ++ unit).head?, isDecimal c = false := by
    intro c hc
    rcases List.mem_append.1 (List.mem_of_head? hc) with hblank | hletter
    · by_contra hdecimal
      have hnot := isBlank_of_isDecimal (eq_true_of_ne_false hdecimal)
      simp [hbetween c hblank] at hnot
    · exact isDecimal_of_isUnitLetter (hunit c hletter)
  have hletters : ∀ c ∈ unit.head?, isBlank c = false := fun c hc =>
    isBlank_of_isUnitLetter (hunit c (List.mem_of_head? hc))
  have hall : unit.all isUnitLetter = true := List.all_eq_true.2 hunit
  have hlower : unit.map lowerAsciiChar = unit.map Char.toLower :=
    List.map_congr_left fun c _ => lowerAsciiChar_eq_toLower c
  rw [read?, List.append_assoc, takeWhile_run hdigits hrest, dropWhile_run hdigits hrest,
    dropWhile_run hbetween hletters]
  simp [hne, hall, hlower]

/-- What `read?` reads was written as digits, blanks and letters. -/
theorem read?_eq_some {cs : List Char} {a : Amount} (h : read? cs = some a) :
    ∃ between unit, cs = a.digits ++ between ++ unit ∧ Blanks between ∧ a.digits ≠ [] ∧
      (∀ c ∈ a.digits, isDecimal c = true) ∧ (∀ c ∈ unit, isUnitLetter c = true) ∧
        a.unit = String.ofList (unit.map Char.toLower) := by
  rw [read?] at h
  split at h
  · exact nomatch h
  rename_i hform
  obtain rfl := Option.some.inj h
  simp only [Bool.or_eq_true, List.isEmpty_iff, Bool.not_eq_eq_eq_not, Bool.not_true, not_or,
    Bool.not_eq_false, List.all_eq_true] at hform
  refine ⟨(cs.dropWhile isDecimal).takeWhile isBlank, (cs.dropWhile isDecimal).dropWhile isBlank,
    ?_, fun c hc => List.all_eq_true.1 List.all_takeWhile c hc, hform.1,
    fun c hc => List.all_eq_true.1 List.all_takeWhile c hc, hform.2, ?_⟩
  · rw [List.append_assoc, List.takeWhile_append_dropWhile, List.takeWhile_append_dropWhile]
  · exact congrArg String.ofList (List.map_congr_left fun c _ => lowerAsciiChar_eq_toLower c)

/-- No name of a unit stands in the table twice, and none is empty. -/
def IsTable (units : List (String × Nat)) : Prop :=
  (units.map Prod.fst).Nodup ∧ "" ∉ units.map Prod.fst

theorem lookup_eq_some_iff_mem {units : List (String × Nat)} (h : IsTable units) {name : String}
    {factor : Nat} : units.lookup name = some factor ↔ (name, factor) ∈ units := by
  constructor
  · intro hlookup
    obtain ⟨before, after, rfl, -⟩ := List.lookup_eq_some_iff.1 hlookup
    simp
  · intro hmem
    obtain ⟨before, after, rfl⟩ := List.append_of_mem hmem
    refine List.lookup_eq_some_iff.2 ⟨before, after, rfl, fun e he => ?_⟩
    -- an earlier entry of this name would be a second one
    have hnodup := h.1
    rw [List.map_append, List.nodup_append] at hnodup
    have hne := hnodup.2.2 e.1 (List.mem_map_of_mem he) name (by simp)
    simpa using Ne.symm hne

/-- `scale?` gives a value when the unit is nothing or in the table (`Stands`). -/
theorem scale?_eq_some_iff {units : List (String × Nat)} (h : IsTable units) {digits unit : List Char}
    (hunit : ∀ c ∈ unit, isUnitLetter c = true) {n : Nat} :
    scale? units ⟨digits, String.ofList (unit.map Char.toLower)⟩ = some n ↔
      ∃ factor, Stands units unit factor ∧ n = digitsValue digits * factor := by
  cases unit with
  | nil =>
    have hempty : String.ofList (([] : List Char).map Char.toLower) = "" := rfl
    rw [scale?, hempty, if_pos rfl, Option.some.injEq]
    constructor
    · rintro rfl
      exact ⟨1, .nothing, (Nat.mul_one _).symm⟩
    · rintro ⟨factor, hstands, rfl⟩
      cases hstands with
      | nothing => exact (Nat.mul_one _).symm
      | @unit _ name _ hmem hname _ =>
        -- no unit has an empty name
        have hblank : name = "" := String.toList_inj.1 hname.symm
        subst hblank
        exact absurd (List.mem_map_of_mem hmem) h.2
  | cons c rest =>
    have hne : String.ofList ((c :: rest).map Char.toLower) ≠ "" := by
      intro hempty
      exact nomatch String.ofList_injective (hempty.trans String.ofList_nil.symm)
    rw [scale?, if_neg hne, Option.map_eq_some_iff]
    constructor
    · rintro ⟨factor, hlookup, rfl⟩
      refine ⟨factor, .unit ((lookup_eq_some_iff_mem h).1 hlookup) String.toList_ofList.symm ?_, rfl⟩
      intro d hd
      rw [← isUnitLetter_eq_isAlpha]
      exact hunit d hd
    · rintro ⟨factor, hstands, rfl⟩
      cases hstands with
      | @unit _ name _ hmem hname _ =>
        refine ⟨factor, (lookup_eq_some_iff_mem h).2 ?_, rfl⟩
        rwa [hname, String.ofList_toList]

/-- An amount is `Trimmed`, unless its blanks take the place of a unit. -/
theorem trimmed_of_runs {digits between unit : List Char} (hne : digits ≠ [])
    (hdigits : ∀ c ∈ digits, isDecimal c = true) (hunit : ∀ c ∈ unit, isUnitLetter c = true)
    (hplace : unit = [] → between = []) : Trimmed (digits ++ between ++ unit) := by
  constructor
  · intro c hc
    cases digits with
    | nil => exact absurd rfl hne
    | cons d rest =>
      obtain rfl : d = c := Option.some.inj hc
      exact isBlank_of_isDecimal (hdigits d List.mem_cons_self)
  · intro c hc
    by_cases hnone : unit = []
    · rw [hnone, hplace hnone, List.append_nil, List.append_nil] at hc
      exact isBlank_of_isDecimal (hdigits c (List.mem_of_getLast? hc))
    · rw [List.getLast?_append_of_ne_nil _ hnone] at hc
      exact isBlank_of_isUnitLetter (hunit c (List.mem_of_getLast? hc))

/-- What `stripChars` leaves of a text that `Writes` an amount is read as that. -/
theorem read?_of_writes {units : List (String × Nat)} {text : String} {digits : List Char}
    {factor : Nat} (h : Writes units text digits factor) :
    ∃ unit, Stands units unit factor ∧ read? (stripChars text.toList) =
      some ⟨digits, String.ofList (unit.map Char.toLower)⟩ := by
  obtain ⟨before, between, unit, after, htext, hbefore, hbetween, hafter, hne, hdigits, hstands⟩ := h
  refine ⟨unit, hstands, ?_⟩
  have hunit := hstands.letters
  by_cases hnone : unit = []
  · -- without a unit the blanks behind the digits go as well
    subst hnone
    have hbehind : Blanks (between ++ after) := by
      intro c hc
      rcases List.mem_append.1 hc with hc | hc
      · exact hbetween c hc
      · exact hafter c hc
    have hsplit : text.toList = before ++ (digits ++ [] ++ []) ++ (between ++ after) := by
      rw [htext]
      simp
    rw [hsplit, stripChars_surrounded hbefore hbehind (trimmed_of_runs hne hdigits hunit fun _ => rfl)]
    exact read?_append hne hdigits (by simp [Blanks]) hunit
  · rw [htext, stripChars_surrounded hbefore hafter
      (trimmed_of_runs hne hdigits hunit fun hnil => absurd hnil hnone)]
    exact read?_append hne hdigits hbetween hunit

/-- What `read?` reads from a trimmed text was written (`Writes`), if its unit stands for
something. -/
theorem writes_of_read? {units : List (String × Nat)} (htable : IsTable units) {text : String}
    {a : Amount} (h : read? (stripChars text.toList) = some a) {n : Nat}
    (hscale : a.scale? units = some n) :
    ∃ factor, Writes units text a.digits factor ∧ n = digitsValue a.digits * factor := by
  obtain ⟨between, unit, hchars, hbetween, hne, hdigits, hunit, hname⟩ := read?_eq_some h
  obtain ⟨digits, name⟩ := a
  dsimp only at *
  subst hname
  obtain ⟨factor, hstands, hvalue⟩ := (scale?_eq_some_iff htable hunit).1 hscale
  obtain ⟨before, after, hbefore, hafter, htext⟩ := exists_surrounding text.toList
  rw [hchars] at htext
  exact ⟨factor, ⟨before, between, unit, after, htext, hbefore, hbetween, hafter, hne, hdigits,
    hstands⟩, hvalue⟩

end Amount

/-! ## Memory sizes and durations -/

open Amount

theorem Memory.isTable_units : IsTable Memory.units := by
  constructor <;> decide

theorem Duration.isTable_units : IsTable Duration.units := by
  constructor <;> decide

/-- `Memory.read` reads the memory size that a text `Writes`, unless it has too many digits. -/
theorem Memory.read_of_writes {text : String} {digits : List Char} {factor : Nat}
    (h : Writes Memory.units text digits factor) :
    Memory.read text = if maxDigits < digits.length then .error (.tooLong digits.length)
      else .ok (digitsValue digits * factor) := by
  obtain ⟨unit, hstands, hread⟩ := read?_of_writes h
  have hscale : scale? Memory.units ⟨digits, String.ofList (unit.map Char.toLower)⟩ =
      some (digitsValue digits * factor) :=
    (scale?_eq_some_iff Memory.isTable_units hstands.letters).2 ⟨factor, hstands, rfl⟩
  rw [Memory.read]
  cases hchars : stripChars text.toList with
  | nil =>
    rw [hchars] at hread
    exact nomatch hread
  | cons c rest =>
    rw [hchars] at hread
    simp only [hread, hscale, isTooLong, decide_eq_true_eq]

/-- `Memory.read` refuses every other text. -/
theorem Memory.writes_or_error (text : String) :
    (∃ digits factor, Writes Memory.units text digits factor) ∨
      ∃ fault, Memory.read text = .error fault := by
  rw [Memory.read]
  cases hchars : stripChars text.toList with
  | nil => exact .inr ⟨_, rfl⟩
  | cons c rest =>
    dsimp only
    cases hread : Amount.read? (c :: rest) with
    | none => exact .inr ⟨_, rfl⟩
    | some a =>
      cases hscale : a.scale? Memory.units with
      | some n =>
        rw [← hchars] at hread
        obtain ⟨factor, hwrites, -⟩ := writes_of_read? Memory.isTable_units hread hscale
        exact .inl ⟨a.digits, factor, hwrites⟩
      | none =>
        right
        -- without a unit that is known, the length decides which fault it is
        by_cases hlong : a.isTooLong = true
        · exact ⟨.tooLong a.digits.length, by simp [hlong]⟩
        · exact ⟨.unknownUnit a.unit, by simp [hlong, hscale]⟩

/-- `Duration.ofText` reads the duration that a text `Writes` in milliseconds, unless it has too many
digits. -/
theorem Duration.ofText_of_writes {text : String} {digits : List Char} {factor : Nat}
    (h : Writes Duration.units text digits factor) :
    Duration.ofText text = if maxDigits < digits.length then .error (.tooLong digits.length)
      else Duration.ofMillis? ((digitsValue digits * factor : Nat) : Int) := by
  obtain ⟨unit, hstands, hread⟩ := read?_of_writes h
  have hscale : scale? Duration.units ⟨digits, String.ofList (unit.map Char.toLower)⟩ =
      some (digitsValue digits * factor) :=
    (scale?_eq_some_iff Duration.isTable_units hstands.letters).2 ⟨factor, hstands, rfl⟩
  rw [Duration.ofText, hread]
  simp only [hscale, isTooLong, decide_eq_true_eq]

/-- `Duration.ofText` refuses every other text, and not for its length. -/
theorem Duration.writes_or_error (text : String) :
    (∃ digits factor, Writes Duration.units text digits factor) ∨
      ∃ fault, Duration.ofText text = .error fault ∧ fault ≠ .outOfRange := by
  rw [Duration.ofText]
  cases hread : Amount.read? (stripChars text.toList) with
  | none => exact .inr ⟨_, rfl, nofun⟩
  | some a =>
    cases hscale : a.scale? Duration.units with
    | some n =>
      obtain ⟨factor, hwrites, -⟩ := writes_of_read? Duration.isTable_units hread hscale
      exact .inl ⟨a.digits, factor, hwrites⟩
    | none =>
      right
      by_cases hlong : a.isTooLong = true
      · exact ⟨.tooLong a.digits.length, by simp [hlong], nofun⟩
      · exact ⟨.unknownUnit a.unit, by simp [hlong, hscale], nofun⟩

/-- `Duration.ofMillis?` takes a number of milliseconds that is not negative up to 1,000,000,000
days. -/
theorem Duration.ofMillis?_natCast (n : Nat) :
    Duration.ofMillis? n = if 1000 * n < 1000000000 * Duration.microsPerDay then
      .ok ⟨((1000 * n : Nat) : Int)⟩ else .error .outOfRange := by
  rw [Duration.ofMillis?, Duration.ofMicros?]
  by_cases hrange : 1000 * n < 1000000000 * Duration.microsPerDay
  · rw [if_pos (by omega), if_pos hrange]
    simp
  · rw [if_neg (by omega), if_neg hrange]

/-- `Memory.read` and `Duration.ofValue` read exactly the texts that are written (`Writes`) as digits
of any script and an optional unit of the table in either case, with blanks around and between them,
and with no more digits than `maxDigits`. A duration that is too long is the one other thing that such
a text can be; all other texts are refused. -/
theorem amount_read_iff (text : String) :
    (∀ bytes, Memory.read text = .ok bytes ↔ ∃ digits factor,
      Writes Memory.units text digits factor ∧ digits.length ≤ maxDigits ∧
        bytes = digitsValue digits * factor) ∧
    (∀ d, Duration.ofValue (.text text) = .ok d ↔ ∃ digits factor,
      Writes Duration.units text digits factor ∧ digits.length ≤ maxDigits ∧
        d.micros = ((1000 * (digitsValue digits * factor) : Nat) : Int) ∧
          1000 * (digitsValue digits * factor) < 1000000000 * Duration.microsPerDay) ∧
    (Duration.ofValue (.text text) = .error .outOfRange ↔ ∃ digits factor,
      Writes Duration.units text digits factor ∧ digits.length ≤ maxDigits ∧
        1000000000 * Duration.microsPerDay ≤ 1000 * (digitsValue digits * factor)) := by
  have hvalue : Duration.ofValue (.text text) = Duration.ofText text := rfl
  rw [hvalue]
  refine ⟨fun bytes => ⟨fun h => ?_, ?_⟩, fun d => ⟨fun h => ?_, ?_⟩, fun h => ?_, ?_⟩
  · -- a text that is read was written as an amount
    rcases Memory.writes_or_error text with ⟨digits, factor, hwrites⟩ | ⟨fault, hfault⟩
    · rw [Memory.read_of_writes hwrites] at h
      split at h
      · exact nomatch h
      · exact ⟨digits, factor, hwrites, by omega, (Except.ok.inj h).symm⟩
    · exact nomatch hfault.symm.trans h
  · rintro ⟨digits, factor, hwrites, hlength, rfl⟩
    rw [Memory.read_of_writes hwrites, if_neg (by omega)]
  · rcases Duration.writes_or_error text with ⟨digits, factor, hwrites⟩ | ⟨fault, hfault, -⟩
    · rw [Duration.ofText_of_writes hwrites, Duration.ofMillis?_natCast] at h
      split at h
      · exact nomatch h
      split at h
      · rename_i hrange
        obtain rfl := Except.ok.inj h
        exact ⟨digits, factor, hwrites, by omega, rfl, hrange⟩
      · exact nomatch h
    · exact nomatch hfault.symm.trans h
  · rintro ⟨digits, factor, hwrites, hlength, hmicros, hrange⟩
    rw [Duration.ofText_of_writes hwrites, if_neg (by omega), Duration.ofMillis?_natCast,
      if_pos hrange, ← hmicros]
  · -- no other failure is one of range
    rcases Duration.writes_or_error text with ⟨digits, factor, hwrites⟩ | ⟨fault, hfault, hother⟩
    · rw [Duration.ofText_of_writes hwrites, Duration.ofMillis?_natCast] at h
      split at h
      · exact nomatch h
      split at h
      · exact nomatch h
      · exact ⟨digits, factor, hwrites, by omega, by omega⟩
    · exact absurd (Except.error.inj (hfault.symm.trans h)) hother
  · rintro ⟨digits, factor, hwrites, hlength, hrange⟩
    rw [Duration.ofText_of_writes hwrites, if_neg (by omega), Duration.ofMillis?_natCast,
      if_neg (by omega)]

/-- A text `Writes` zero with any number of digits. -/
theorem Amount.writes_zeros (units : List (String × Nat)) {n : Nat} (h : n ≠ 0) :
    Writes units (String.ofList (List.replicate n '0')) (List.replicate n '0') 1 := by
  refine ⟨[], [], [], [], by simp, by simp [Blanks], by simp [Blanks], by simp [Blanks], by simp [h],
    fun c hc => ?_, .nothing⟩
  rw [List.eq_of_mem_replicate hc]
  decide

/-- Zero, with one digit more than a number may be read from. -/
def longZero : String :=
  String.ofList (List.replicate 4301 '0')

/-- It is written (`Writes`) as a memory size and as a duration should be, and `tooLong` for both. -/
theorem longZero_not_read :
    Writes Memory.units longZero (List.replicate 4301 '0') 1 ∧
      Memory.read longZero = .error (.tooLong 4301) ∧
    Writes Duration.units longZero (List.replicate 4301 '0') 1 ∧
      Duration.ofValue (.text longZero) = .error (.tooLong 4301) := by
  have hmemory : Writes Memory.units longZero _ 1 := writes_zeros _ (by decide)
  have hduration : Writes Duration.units longZero _ 1 := writes_zeros _ (by decide)
  have hvalue : Duration.ofValue (.text longZero) = Duration.ofText longZero := rfl
  have hlong : maxDigits < 4301 := by decide
  refine ⟨hmemory, ?_, hduration, ?_⟩
  · rw [Memory.read_of_writes hmemory, List.length_replicate, if_pos hlong]
  · rw [hvalue, Duration.ofText_of_writes hduration, List.length_replicate, if_pos hlong]

end FlinkSteward
