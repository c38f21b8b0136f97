import FlinkSteward.Json.Read
import FlinkSteward.Json.Write

/-!
# Strings of JSON read back

Every character of a string is written as itself or as an escape, and one step of the reader gives
it back. A character beyond the basic plane takes two escapes, which the reader joins.

## Key results

- `padded_hex`: four hexadecimal digits of a code unit, with the unit as their value
- `stringRest_stringChar`: one character read back
- `string_stringText`: a string read back
-/

namespace FlinkSteward.Text

/-- `padded` fills with zeros in front, and gives the last digit last. -/
theorem padded_succ {base : Nat} (hb : 1 < base) {width : Nat} (hw : width ≠ 0) (n : Nat) :
    padded base (width + 1) n = padded base width (n / base) ++ [Nat.digitChar (n % base)] := by
  obtain ⟨w, rfl⟩ := Nat.exists_eq_succ_of_ne_zero hw
  rcases Nat.lt_or_ge n base with h | h
  · simp [padded, digitsOf, Nat.toDigits_of_lt_base h, Nat.div_eq_of_lt h, Nat.mod_eq_of_lt h,
      List.replicate_succ']
  · simp [padded, digitsOf, Nat.toDigits_of_base_le hb h]

theorem padded_one {base n : Nat} (h : n < base) : padded base 1 n = [Nat.digitChar n] := by
  simp [padded, digitsOf, Nat.toDigits_of_lt_base h]

end FlinkSteward.Text

namespace FlinkSteward.Json

open FlinkSteward.Text

/-! ## Escapes by number -/

private theorem hexValue?_digitChar {n : Nat} (h : n < 16) :
    hexValue? (Nat.digitChar n) = some n := by
  have : ∀ n < 16, hexValue? (Nat.digitChar n) = some n := by decide
  exact this n h

/-- A code unit is `padded` to four hexadecimal digits, of which it is the value (`hex4?`). -/
theorem padded_hex {n : Nat} (h : n < 0x10000) :
    ∃ a b c d, padded 16 4 n = [a, b, c, d] ∧ hex4? a b c d = some n := by
  refine ⟨Nat.digitChar (n / 16 / 16 / 16), Nat.digitChar (n / 16 / 16 % 16),
    Nat.digitChar (n / 16 % 16), Nat.digitChar (n % 16), ?_, ?_⟩
  · -- three digits are split off from the right, and the first one is left
    rw [padded_succ (by decide) (by decide), padded_succ (by decide) (by decide),
      padded_succ (by decide) (by decide), padded_one (by omega)]
    rfl
  · simp only [hex4?, hexValue?_digitChar (show n / 16 / 16 / 16 < 16 by omega),
      hexValue?_digitChar (Nat.mod_lt _ (show 0 < 16 by decide)), Option.bind_eq_bind,
      Option.bind_some, Option.pure_def, Option.some.injEq]
    omega

/-- A `unitEscape`, as the reader takes it apart. -/
private theorem unitEscape_append {n : Nat} (h : n < 0x10000) (rest : List Char) :
    ∃ a b c d, unitEscape n ++ rest = '\\' :: 'u' :: a :: b :: c :: d :: rest ∧
      hex4? a b c d = some n := by
  obtain ⟨a, b, c, d, hp, hv⟩ := padded_hex h
  exact ⟨a, b, c, d, by simp [unitEscape, hp], hv⟩

private theorem charOf_toNat (c : Char) : charOf c.toNat = c := by
  have hv : c.toNat.isValidChar := c.valid
  rw [charOf, if_pos hv, Char.ofNat_toNat]

/-- No character is half a pair. -/
private theorem isHighSurrogate_toNat (c : Char) : isHighSurrogate c.toNat = false := by
  have hv : c.toNat.isValidChar := c.valid
  simp only [Nat.isValidChar] at hv
  simp only [isHighSurrogate, Bool.and_eq_false_imp, decide_eq_true_eq, decide_eq_false_iff_not]
  omega

/-- `stringRest` reads the `unitEscape` of a character of the basic plane. -/
private theorem stringRest_unitEscape {c : Char} (hc : c.toNat < 0x10000) (start fuel : Nat)
    (acc : List Char) {rest : List Char} (hr : rest ≠ []) :
    stringRest start (fuel + 1) acc (unitEscape c.toNat ++ rest) =
      stringRest start fuel (c :: acc) rest := by
  obtain ⟨x, xs, rfl⟩ := List.exists_cons_of_ne_nil hr
  obtain ⟨a, b, e, d, heq, hv⟩ := unitEscape_append hc (x :: xs)
  rw [heq, stringRest.eq_def]
  simp only [hv, isHighSurrogate_toNat, Bool.false_eq_true, ↓reduceIte, charOf_toNat]

private theorem lowSurrogate?_unitEscape {n : Nat} (hn : isLowSurrogate n = true)
    {rest : List Char} (hr : rest ≠ []) :
    lowSurrogate? (unitEscape n ++ rest) = some (n, rest) := by
  have hlt : n < 0x10000 := by
    simp only [isLowSurrogate, Bool.and_eq_true, decide_eq_true_eq] at hn
    omega
  obtain ⟨a, b, c, d, heq, hv⟩ := unitEscape_append hlt rest
  simp [heq, lowSurrogate?, hr, hv, hn]

/-- The two code units of a character beyond the basic plane, and what `joinSurrogates` makes of
them. -/
private theorem surrogates_spec {n : Nat} (h : n < 0x100000) :
    isHighSurrogate (0xd800 + n / 0x400) = true ∧ isLowSurrogate (0xdc00 + n % 0x400) = true ∧
      joinSurrogates (0xd800 + n / 0x400) (0xdc00 + n % 0x400) = n + 0x10000 := by
  simp only [isHighSurrogate, isLowSurrogate, Bool.and_eq_true, decide_eq_true_eq]
  refine ⟨by omega, by omega, ?_⟩
  unfold joinSurrogates
  simp only [Nat.add_sub_cancel_left]
  omega

/-- `stringRest` reads two escapes that belong together as one character. -/
private theorem stringRest_pair {c : Char} {high low : Nat} (hh : isHighSurrogate high = true)
    (hl : isLowSurrogate low = true) (hc : joinSurrogates high low = c.toNat) (start fuel : Nat)
    (acc : List Char) {rest : List Char} (hr : rest ≠ []) :
    stringRest start (fuel + 1) acc (unitEscape high ++ (unitEscape low ++ rest)) =
      stringRest start fuel (c :: acc) rest := by
  have hlt : high < 0x10000 := by
    simp only [isHighSurrogate, Bool.and_eq_true, decide_eq_true_eq] at hh
    omega
  have hlower := lowSurrogate?_unitEscape hl hr
  -- the reader takes the first escape apart, and looks at the second one as a whole
  have hne : unitEscape low ++ rest ≠ [] := by simp [unitEscape]
  generalize unitEscape low ++ rest = after at hlower hne ⊢
  obtain ⟨x, xs, rfl⟩ := List.exists_cons_of_ne_nil hne
  obtain ⟨a, b, e, d, heq, hval⟩ := unitEscape_append hlt (x :: xs)
  rw [heq, stringRest.eq_def]
  simp only [hval, hh, ↓reduceIte, hlower, hc, charOf_toNat]

/-! ## Strings -/

/-- `stringRest` reads a character that is written as itself. -/
private theorem stringRest_plain {c : Char} (hq : c ≠ '"') (hb : c ≠ '\\') (hc : ' ' ≤ c)
    (start fuel : Nat) (acc rest : List Char) :
    stringRest start (fuel + 1) acc (c :: rest) = stringRest start fuel (c :: acc) rest := by
  have hnat : ¬ c.toNat < 0x20 := by
    have : (' ' : Char).toNat ≤ c.toNat := hc
    exact Nat.not_lt.2 this
  rw [stringRest.eq_def]
  split
  · contradiction
  · split <;> simp_all [Nat.not_lt.2]

/-- `stringRest` reads back the `stringChar` of a character with more text behind it. -/
theorem stringRest_stringChar (c : Char) (start fuel : Nat) (acc : List Char) {rest : List Char}
    (hr : rest ≠ []) :
    stringRest start (fuel + 1) acc (stringChar c ++ rest) =
      stringRest start fuel (c :: acc) rest := by
  -- the seven characters with an escape by letter
  by_cases hq : c = '"'
  · subst hq; rfl
  by_cases hb : c = '\\'
  · subst hb; rfl
  by_cases hn : c = '\n'
  · subst hn; rfl
  by_cases hr' : c = '\r'
  · subst hr'; rfl
  by_cases ht : c = '\t'
  · subst ht; rfl
  by_cases hf : c = '\x0c'
  · subst hf; rfl
  by_cases hbs : c = '\x08'
  · subst hbs; rfl
  rw [stringChar, if_neg hq, if_neg hb, if_neg hn, if_neg hr', if_neg ht, if_neg hf, if_neg hbs]
  -- the character itself, one escape by number, and two of them
  split
  · rename_i hplain
    exact stringRest_plain hq hb hplain.1 start fuel acc rest
  split
  · rename_i hbasic
    exact stringRest_unitEscape hbasic start fuel acc hr
  · rename_i hbasic
    have hv : c.toNat.isValidChar := c.valid
    simp only [Nat.isValidChar] at hv
    obtain ⟨hh, hl, hj⟩ := surrogates_spec (n := c.toNat - 0x10000) (by omega)
    have hjoin := hj.trans (Nat.sub_add_cancel (Nat.not_lt.1 hbasic))
    rw [List.append_assoc]
    exact stringRest_pair hh hl hjoin start fuel acc hr

/-- `stringRest` reads back the characters of a string, up to the quote that closes it. -/
private theorem stringRest_chars (start : Nat) (cs rest : List Char) (fuel : Nat) (acc : List Char)
    (hf : cs.length < fuel) :
    stringRest start fuel acc (cs.flatMap stringChar ++ '"' :: rest) =
      .ok (String.ofList (acc.reverse ++ cs), rest) := by
  induction cs generalizing fuel acc with
  | nil =>
    obtain ⟨fuel, rfl⟩ := Nat.exists_eq_succ_of_ne_zero (Nat.ne_zero_of_lt hf)
    simp [stringRest]
  | cons c cs ih =>
    -- however many escapes a character takes, the reader takes one step for it
    obtain ⟨fuel, rfl⟩ := Nat.exists_eq_succ_of_ne_zero (Nat.ne_zero_of_lt hf)
    simp only [List.length_cons, Nat.succ_eq_add_one, Nat.add_lt_add_iff_right] at hf
    rw [List.flatMap_cons, List.append_assoc, stringRest_stringChar c _ _ _ (by simp),
      ih fuel (c :: acc) hf]
    simp

private theorem unitEscape_ne_nil (n : Nat) : unitEscape n ≠ [] :=
  List.cons_ne_nil _ _

private theorem ite_ne_nil {p : Prop} [Decidable p] {as bs : List Char} (ha : as ≠ [])
    (hb : bs ≠ []) : (if p then as else bs) ≠ [] := by
  split
  · exact ha
  · exact hb

private theorem stringChar_ne_nil (c : Char) : stringChar c ≠ [] := by
  unfold stringChar
  repeat refine ite_ne_nil (List.cons_ne_nil _ _) ?_
  exact List.append_ne_nil_of_left_ne_nil (unitEscape_ne_nil _) _

private theorem length_le_flatMap_stringChar (cs : List Char) :
    cs.length ≤ (cs.flatMap stringChar).length := by
  induction cs with
  | nil => simp
  | cons c cs ih =>
    have := List.length_pos_iff.2 (stringChar_ne_nil c)
    simp only [List.flatMap_cons, List.length_append, List.length_cons]; omega

/-- `string` reads back a `stringText`. -/
theorem string_stringText (s : String) (rest : List Char) :
    ∃ body, stringText s ++ rest = '"' :: body ∧ string body = .ok (s, rest) := by
  refine ⟨s.toList.flatMap stringChar ++ '"' :: rest, by simp [stringText], ?_⟩
  have hlen := length_le_flatMap_stringChar s.toList
  rw [string, stringRest_chars _ _ _ _ _ (by simp only [List.length_append]; omega)]
  simp

end FlinkSteward.Json
