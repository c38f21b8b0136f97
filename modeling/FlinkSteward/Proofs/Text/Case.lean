import FlinkSteward.Text.CaseMap
import FlinkSteward.Text.Table

/-!
# Lower case in ASCII

Which texts have a lower case within ASCII: those of ASCII characters and of the Kelvin sign, which
is a `k` in lower case. Their lower case is that of the letters `A` to `Z`.

## Key results

- `moveBy_lowerRuns_ge`: other letters keep out of ASCII
- `lowerChar_ascii_iff`: the characters whose lower case is in ASCII
- `lowerChars_eq_map`: the lower case of such texts
-/

namespace FlinkSteward.Text

/-- The sign of the unit of temperature, which is a letter. -/
def kelvinSign : Char :=
  Char.ofNat 0x212a

/-- A character with a `k` for the Kelvin sign. -/
def plainChar (c : Char) : Char :=
  if c = kelvinSign then 'k' else c

/-! ## Runs of letters -/

theorem image?_eq_some {r : Run} {n m : Nat} (h : r.image? n = some m) :
    r.first ≤ n ∧ n ≤ r.last ∧ m = ((n : Int) + r.shift).toNat := by
  rw [Run.image?] at h
  split at h
  · rename_i hin
    exact ⟨hin.1, hin.2.1, (Option.some.inj h).symm⟩
  · exact nomatch h

/-- `moveBy` leaves a code point alone, or moves it with a run that it belongs to. -/
theorem moveBy_cases (runs : List Run) (n : Nat) : moveBy runs n = n ∨
    ∃ r ∈ runs, r.first ≤ n ∧ n ≤ r.last ∧ moveBy runs n = ((n : Int) + r.shift).toNat := by
  rw [moveBy]
  cases hfound : runs.findSome? (Run.image? · n) with
  | none => exact .inl rfl
  | some m =>
    obtain ⟨r, hr, himage⟩ := List.exists_of_findSome?_eq_some hfound
    obtain ⟨hfirst, hlast, rfl⟩ := image?_eq_some himage
    exact .inr ⟨r, hr, hfirst, hlast, rfl⟩

/-- Where the `lowerRuns` go: within ASCII, beyond it, or from the Kelvin sign. -/
private theorem lowerRuns_bounds : ∀ r ∈ lowerRuns, r.last < 0x80 ∨
    r.first = 0x212a ∧ r.last = 0x212a ∨ 0x80 ≤ r.first + r.shift := by
  decide +kernel

/-- The `lowerRuns` leave letters beyond ASCII there, but for the Kelvin sign. -/
theorem moveBy_lowerRuns_ge {n : Nat} (h : 0x80 ≤ n) (hne : n ≠ 0x212a) :
    0x80 ≤ moveBy lowerRuns n := by
  rcases moveBy_cases lowerRuns n with hsame | ⟨r, hr, hfirst, hlast, hmoved⟩
  · rwa [hsame]
  · rw [hmoved]
    rcases lowerRuns_bounds r hr with hbelow | ⟨hkelvin, hkelvin'⟩ | hbeyond <;> omega

/-- The `lowerRuns` lead to characters. -/
private theorem lowerRuns_valid : ∀ r ∈ lowerRuns, 0 ≤ r.first + r.shift ∧
    (r.last + r.shift < 0xd800 ∨ 0xdfff < r.first + r.shift ∧ r.last + r.shift < 0x110000) := by
  decide +kernel

theorem isValidChar_moveBy_lowerRuns {n : Nat} (h : n.isValidChar) :
    (moveBy lowerRuns n).isValidChar := by
  rcases moveBy_cases lowerRuns n with hsame | ⟨r, hr, hfirst, hlast, hmoved⟩
  · rwa [hsame]
  · have hvalid := lowerRuns_valid r hr
    rw [hmoved, Nat.isValidChar]
    omega

/-! ## Lower case -/

theorem toNat_ofNat_of_isValidChar {n : Nat} (h : n.isValidChar) : (Char.ofNat n).toNat = n := by
  rw [Char.ofNat, dif_pos h]
  rfl

theorem toNat_ofNat_ascii {n : Nat} (h : n < 0x80) : (Char.ofNat n).toNat = n :=
  toNat_ofNat_of_isValidChar (.inl (by omega))

/-- `lowerChar` gives ASCII for characters in ASCII, and for the Kelvin sign. -/
theorem lowerChar_ascii_iff {before after : List Char} {c : Char} :
    (∀ d ∈ lowerChar before c after, d.toNat < 0x80) ↔ c.toNat < 0x80 ∨ c = kelvinSign := by
  rw [lowerChar]
  split
  · rename_i hascii
    refine iff_of_true (List.forall_mem_singleton.2 ?_) (.inl hascii)
    split
    · rename_i hupper
      have hbound : c.toNat ≤ 90 := hupper.2
      rw [toNat_ofNat_ascii (by omega)]
      omega
    · rwa [toNat_ofNat_ascii hascii]
  rename_i hbeyond
  split
  · -- a sigma has two lower cases by its place, both beyond ASCII
    rename_i hsigma
    rw [hsigma, List.forall_mem_singleton]
    split <;> decide
  split
  · -- a capital I with a dot has two characters in lower case, and the second is the dot
    rename_i hdotted
    refine iff_of_false (fun h => ?_) ?_
    · exact absurd (h _ (List.mem_cons_of_mem _ List.mem_cons_self)) (by decide)
    · rintro (h | rfl)
      · exact hbeyond h
      · exact absurd hdotted (by decide)
  · -- all others are moved with their run
    rw [List.forall_mem_singleton,
      toNat_ofNat_of_isValidChar (isValidChar_moveBy_lowerRuns (n := c.toNat) c.valid)]
    by_cases hkelvin : c = kelvinSign
    · rw [hkelvin]
      decide +kernel
    · have hne : c.toNat ≠ 0x212a := fun h =>
        hkelvin (by rw [← Char.ofNat_toNat c, h, kelvinSign])
      have hmoved := moveBy_lowerRuns_ge (Nat.le_of_not_lt hbeyond) hne
      refine iff_of_false (by omega) (not_or.2 ⟨hbeyond, hkelvin⟩)

theorem lowerChar_eq {before after : List Char} {c : Char} (h : c.toNat < 0x80 ∨ c = kelvinSign) :
    lowerChar before c after = [lowerAsciiChar (plainChar c)] := by
  rcases h with hascii | rfl
  · have hplain : plainChar c = c := if_neg (by rintro rfl; exact absurd hascii (by decide))
    rw [lowerChar, if_pos hascii, hplain, lowerAsciiChar]
    split
    · rfl
    · rw [Char.ofNat_toNat]
  · rw [lowerChar, if_neg (by decide), if_neg (by decide), if_neg (by decide)]
    decide +kernel

/-- `lowerChars` gives ASCII for nothing but such characters. -/
theorem lowerChars_ascii_iff {before cs : List Char} :
    (∀ d ∈ lowerChars before cs, d.toNat < 0x80) ↔
      ∀ c ∈ cs, c.toNat < 0x80 ∨ c = kelvinSign := by
  induction cs generalizing before with
  | nil => simp [lowerChars]
  | cons c rest ih =>
    rw [lowerChars, List.forall_mem_append, ih, lowerChar_ascii_iff, List.forall_mem_cons]

/-- Their lower case is that of the letters `A` to `Z`. -/
theorem lowerChars_eq_map {before cs : List Char}
    (h : ∀ c ∈ cs, c.toNat < 0x80 ∨ c = kelvinSign) :
    lowerChars before cs = (cs.map plainChar).map lowerAsciiChar := by
  induction cs generalizing before with
  | nil => rfl
  | cons c rest ih =>
    obtain ⟨hc, hrest⟩ := List.forall_mem_cons.1 h
    rw [lowerChars, lowerChar_eq hc, ih hrest]
    rfl

end FlinkSteward.Text
