import FlinkSteward.Proofs.Json.Number
import FlinkSteward.Proofs.Json.Sorted
import FlinkSteward.Proofs.Json.String

/-!
# JSON texts read back

What is written for a value reads as the value with its maps sorted. The induction is on the value;
it carries that the fuel covers the characters that are written, and that the value ends where the
text goes on with a comma or a bracket.

## Key results

- `value_compact`: the value at the start of a text
- `read_write`: a whole text
-/

namespace FlinkSteward.Json

open FlinkSteward.Text

/-! ## First characters -/

/-- Characters that no value starts with: space, closing brackets and the byte order mark. -/
private def notFirst : List Char :=
  [' ', '\t', '\n', '\r', ']', '}', Char.ofNat 0xfeff]

/-- Characters that start a string, a list or a map. -/
private def openers : List Char :=
  ['"', '[', '{']

private theorem not_mem_of_isAsciiDigit {c : Char} (h : isAsciiDigit c = true) :
    c ∉ openers ++ notFirst := by
  intro hc
  have hall : (openers ++ notFirst).all (fun d => !isAsciiDigit d) = true := by decide
  have hother : (!isAsciiDigit c) = true := List.all_eq_true.1 hall c hc
  rw [h] at hother
  exact nomatch hother

/-- A number without its sign starts with a digit, and with a sign it starts with that. -/
private theorem signed_first (negative : Bool) (ds : List Char) (hne : ds ≠ [])
    (hd : ∀ c ∈ ds.head?, isAsciiDigit c = true) :
    ∃ c cs, (if negative then ['-'] else []) ++ ds = c :: cs ∧ c ∉ openers ++ notFirst := by
  cases negative with
  | true => exact ⟨'-', ds, rfl, by decide⟩
  | false =>
    obtain ⟨c, cs, rfl⟩ := List.exists_cons_of_ne_nil hne
    exact ⟨c, cs, rfl, not_mem_of_isAsciiDigit (hd c rfl)⟩

private theorem doubleText_first (x : Double) :
    ∃ c cs, doubleText x = c :: cs ∧ c ∉ openers ++ notFirst := by
  cases x with
  | nan => exact ⟨_, _, rfl, by decide⟩
  | infinity n => cases n <;> exact ⟨_, _, rfl, by decide⟩
  | finite n s e h =>
    obtain ⟨w, htext, -⟩ := Double.magnitudeText_notation n h
    obtain ⟨d, ds, hd⟩ := List.exists_cons_of_ne_nil w.whole_ne_nil
    have hcons : w.text = d :: (ds ++ Double.fractionText w.part ++
        (w.exponent.map Double.exponentText).getD []) := by
      simp [Double.Notation.text, hd]
    obtain ⟨c, cs, heq, hc⟩ := signed_first n w.text (by simp [hcons]) fun c hc => by
      obtain rfl : d = c := by simpa [hcons] using hc
      exact w.digits d (by simp [hd])
    refine ⟨c, cs, ?_, hc⟩
    rw [← heq, htext]
    cases n <;> simp [doubleText, Double.text, Double.isNegative]

private theorem intText_first (i : Int) :
    ∃ c cs, (toString i).toList = c :: cs ∧ c ∉ openers ++ notFirst := by
  obtain ⟨c, cs, heq, hc⟩ := signed_first (decide (i < 0)) _ (digitsOf_ne_nil i.natAbs) fun c hc =>
    Digits.digitsOf i.natAbs c (List.mem_of_mem_head? hc)
  refine ⟨c, cs, ?_, hc⟩
  rw [← heq, toList_toString_int]
  simp

/-- `compact` starts with no character that is `notFirst`. -/
private theorem compact_first (v : Value) : ∃ c cs, compact v = c :: cs ∧ c ∉ notFirst := by
  have hscalar : ∀ {c}, c ∉ openers ++ notFirst → c ∉ notFirst := fun h hc =>
    h (List.mem_append_right _ hc)
  cases v with
  | null => exact ⟨_, _, rfl, by decide⟩
  | bool b => cases b <;> exact ⟨_, _, rfl, by decide⟩
  | int i =>
    obtain ⟨c, cs, h, hc⟩ := intText_first i
    exact ⟨c, cs, by rw [compact, h], hscalar hc⟩
  | real x =>
    obtain ⟨c, cs, h, hc⟩ := doubleText_first x
    exact ⟨c, cs, by rw [compact, h], hscalar hc⟩
  | text s => exact ⟨'"', _, by rw [compact, stringText, List.cons_append], by decide⟩
  | list items => exact ⟨'[', _, by rw [compact, List.cons_append], by decide⟩
  | map fields => exact ⟨'{', _, by rw [compact, List.cons_append], by decide⟩

/-! ## Scalars -/

private theorem value_scalar {c : Char} (hc : c ∉ openers ++ notFirst) (fuel : Nat)
    (cs : List Char) : value (fuel + 1) (c :: cs) = scalar (c :: cs) := by
  have hne : ∀ d ∈ openers ++ notFirst, c ≠ d := fun d hd he => hc (he ▸ hd)
  rw [value.eq_def]
  have h1 := hne '"' (by decide)
  have h2 := hne '[' (by decide)
  have h3 := hne '{' (by decide)
  split
  · contradiction
  · split <;> simp_all

/-- `value` reads as a `scalar` what opens neither a string nor a list nor a map. -/
private theorem value_of_scalar {cs rest : List Char} {v : Value} {fuel : Nat}
    (hfirst : ∃ c ds, cs = c :: ds ∧ c ∉ openers ++ notFirst)
    (hread : scalar (cs ++ rest) = .ok (v, rest)) (hf : cs.length ≤ fuel) :
    value fuel (cs ++ rest) = .ok (v, rest) := by
  obtain ⟨c, ds, rfl, hc⟩ := hfirst
  obtain ⟨fuel, rfl⟩ := Nat.exists_eq_succ_of_ne_zero (Nat.ne_zero_of_lt hf)
  rw [List.cons_append, value_scalar hc]
  exact hread

private theorem skipSpace_cons {c : Char} {cs : List Char} (hc : c ∉ notFirst) :
    skipSpace (c :: cs) = c :: cs := by
  have hne : ∀ d ∈ notFirst, c ≠ d := fun d hd he => hc (he ▸ hd)
  simp [skipSpace, isSpace, hne ' ' (by decide), hne '\t' (by decide), hne '\n' (by decide),
    hne '\r' (by decide)]

/-! ## Values -/

private theorem ended_cons {c : Char} (h : c = ',' ∨ c = ']' ∨ c = '}') (rest : List Char) :
    Ended (c :: rest) := by
  intro d hd
  obtain rfl : c = d := by simpa using hd
  exact h

private theorem skipSpace_compact (v : Value) (rest : List Char) :
    skipSpace (compact v ++ rest) = compact v ++ rest := by
  obtain ⟨c, cs, heq, hc⟩ := compact_first v
  rw [heq, List.cons_append, skipSpace_cons hc]

private theorem compactItems_cons (v : Value) (vs : List Value) :
    compactItems (v :: vs) =
      compact v ++ ((if vs.isEmpty then [] else [',', ' ']) ++ compactItems vs) := by
  rw [compactItems, List.append_assoc]

private theorem compactFields_cons (k : String) (v : Value) (fs : Entries Value) :
    compactFields ((k, v) :: fs) = stringText k ++ (':' :: ' ' :: (compact v ++
      ((if fs.isEmpty then [] else [',', ' ']) ++ compactFields fs))) := by
  rw [compactFields]
  simp only [List.append_assoc, List.cons_append]

/-- `value` reads a list with items by `Json.items`. -/
private theorem value_items {items : List Value} (h : items ≠ []) (fuel : Nat) (rest : List Char) :
    value (fuel + 1) ('[' :: (compactItems items ++ rest)) =
      Json.items fuel [] (compactItems items ++ rest) := by
  obtain ⟨v, vs, rfl⟩ := List.exists_cons_of_ne_nil h
  obtain ⟨c, cs, heq, hc⟩ := compact_first v
  have hne : c ≠ ']' := fun he => hc (by rw [he]; decide)
  rw [compactItems_cons, heq, List.append_assoc, List.cons_append, value.eq_def]
  simp only [skipSpace_cons hc]
  split
  · rename_i hcons
    simp only [List.cons.injEq] at hcons
    exact absurd hcons.1 hne
  · rfl

/-- `value` reads a map with fields by `fields`. -/
private theorem value_fields {fs : Entries Value} (h : fs ≠ []) (fuel : Nat) (rest : List Char) :
    value (fuel + 1) ('{' :: (compactFields fs ++ rest)) =
      fields fuel [] (compactFields fs ++ rest) := by
  obtain ⟨⟨k, v⟩, fs, rfl⟩ := List.exists_cons_of_ne_nil h
  rw [compactFields_cons, stringText]
  rfl

private theorem items_last {fuel : Nat} {before : List Value} {cs rest : List Char} {v : Value}
    (h : value fuel cs = .ok (v, ']' :: rest)) :
    items (fuel + 1) before cs = .ok (.list (before.reverse ++ [v]), rest) := by
  rw [items, h]
  simp [skipSpace, isSpace]

private theorem items_next {fuel : Nat} {before : List Value} {cs rest : List Char} {v : Value}
    (h : value fuel cs = .ok (v, ',' :: rest)) :
    items (fuel + 1) before cs = items fuel (v :: before) (skipSpace rest) := by
  rw [items, h]
  simp [skipSpace, isSpace]

/-- What becomes of a map after the value of a field, by what follows there. -/
private def fieldsAfter (fuel : Nat) (before : Entries Value) : List Char → Reading Value
  | '}' :: rest => .ok (.map before, rest)
  | ',' :: rest => fields fuel before (skipSpace rest)
  | rest => stuckAt .expectingComma rest

/-- `fields` reads a key up to the value behind its colon. -/
private theorem fields_key {fuel : Nat} {before : Entries Value} {k : String} {v : Value}
    {more rest : List Char} (h : value fuel (compact v ++ more) = .ok (v, rest)) :
    fields (fuel + 1) before (stringText k ++ ':' :: ' ' :: (compact v ++ more)) =
      fieldsAfter fuel (before.put k v) (skipSpace rest) := by
  obtain ⟨body, heq, hread⟩ := string_stringText k (':' :: ' ' :: (compact v ++ more))
  have hcolon : skipSpace (':' :: ' ' :: (compact v ++ more)) =
      ':' :: ' ' :: (compact v ++ more) := rfl
  have hspace : skipSpace (' ' :: (compact v ++ more)) = compact v ++ more :=
    skipSpace_compact v more
  rw [heq, fields.eq_def]
  simp only [hread, hcolon, hspace, h]
  rfl

private theorem fields_last {fuel : Nat} {before : Entries Value} {k : String} {v : Value}
    {more rest : List Char} (h : value fuel (compact v ++ more) = .ok (v, '}' :: rest)) :
    fields (fuel + 1) before (stringText k ++ ':' :: ' ' :: (compact v ++ more)) =
      .ok (.map (before.put k v), rest) := by
  rw [fields_key h]
  rfl

private theorem fields_next {fuel : Nat} {before : Entries Value} {k : String} {v : Value}
    {more rest : List Char} (h : value fuel (compact v ++ more) = .ok (v, ',' :: rest)) :
    fields (fuel + 1) before (stringText k ++ ':' :: ' ' :: (compact v ++ more)) =
      fields fuel (before.put k v) (skipSpace rest) := by
  rw [fields_key h]
  rfl

mutual

/-- `value` reads back what `compact` writes at the start of a text. -/
theorem value_compact : ∀ (v : Value) {fuel : Nat} {rest : List Char}, v.Sound → Ended rest →
    (compact v).length ≤ fuel → value fuel (compact v ++ rest) = .ok (v, rest)
  | .null, fuel, rest, _, _, hf => value_of_scalar ⟨_, _, rfl, by decide⟩ rfl hf
  | .bool b, fuel, rest, _, _, hf => by
    cases b
    all_goals exact value_of_scalar ⟨_, _, rfl, by decide⟩ rfl hf
  | .int i, fuel, rest, _, hr, hf => by
    rw [compact] at hf ⊢
    exact value_of_scalar (intText_first i) (scalar_int i hr) hf
  | .real x, fuel, rest, _, hr, hf => by
    rw [compact] at hf ⊢
    exact value_of_scalar (doubleText_first x) (scalar_real x hr) hf
  | .text s, fuel, rest, _, _, hf => by
    obtain ⟨body, heq, hread⟩ := string_stringText s rest
    rw [compact] at hf ⊢
    obtain ⟨fuel, rfl⟩ := Nat.exists_eq_succ_of_ne_zero (Nat.ne_zero_of_lt hf)
    rw [heq, value, hread]
    rfl
  | .list items, fuel, rest, hv, _, hf => by
    rw [compact] at hf ⊢
    obtain ⟨fuel, rfl⟩ := Nat.exists_eq_succ_of_ne_zero (Nat.ne_zero_of_lt hf)
    by_cases hne : items = []
    · subst hne
      rfl
    · simp only [List.cons_append, List.length_cons, List.length_append, List.length_nil] at hf
      rw [List.cons_append, List.cons_append, List.append_assoc, value_items hne]
      exact items_compactItems items hne hv (by omega)
  | .map fs, fuel, rest, hv, _, hf => by
    rw [compact] at hf ⊢
    obtain ⟨fuel, rfl⟩ := Nat.exists_eq_succ_of_ne_zero (Nat.ne_zero_of_lt hf)
    by_cases hne : fs = []
    · subst hne
      rfl
    · simp only [List.cons_append, List.length_cons, List.length_append, List.length_nil] at hf
      rw [List.cons_append, List.cons_append, List.append_assoc, value_fields hne]
      refine (fields_compactFields fs hne hv (by omega)).trans ?_
      -- put one after another, fields without a repeated key keep their order
      rw [show Entries.update [] fs = fs from (Value.soundFields_iff.1 hv).1.ofPairs]
      rfl

/-- `Json.items` reads back the items of a list from one of them on. -/
theorem items_compactItems : ∀ (items : List Value) {fuel : Nat} {before : List Value}
    {rest : List Char}, items ≠ [] → Value.SoundList items →
    (compactItems items).length < fuel →
    Json.items fuel before (compactItems items ++ ']' :: rest) =
      .ok (.list (before.reverse ++ items), rest)
  | [], _, _, _, hne, _, _ => absurd rfl hne
  | v :: vs, fuel, before, rest, _, hv, hf => by
    obtain ⟨fuel, rfl⟩ := Nat.exists_eq_succ_of_ne_zero (Nat.ne_zero_of_lt hf)
    rw [compactItems_cons] at hf ⊢
    simp only [List.length_append] at hf
    rw [List.append_assoc]
    by_cases hne : vs = []
    · subst hne
      exact items_last (value_compact v hv.1 (ended_cons (by simp) _) (by omega))
    · -- a comma and a space, and the list from the next item on
      have hsep : vs.isEmpty = false := by simpa using hne
      simp only [hsep, Bool.false_eq_true, ↓reduceIte, List.length_cons, List.length_nil] at hf ⊢
      have hnext : Json.items fuel (v :: before) (compactItems vs ++ ']' :: rest) =
          .ok (.list ((v :: before).reverse ++ vs), rest) :=
        items_compactItems vs hne hv.2 (by omega)
      obtain ⟨w, ws, rfl⟩ := List.exists_cons_of_ne_nil hne
      rw [List.append_assoc, List.cons_append,
        items_next (value_compact v hv.1 (ended_cons (by simp) _) (by omega))]
      refine Eq.trans (congrArg _ ?_) (hnext.trans (by simp))
      rw [compactItems_cons, List.append_assoc]
      exact skipSpace_compact w _

/-- `fields` reads back the fields of a map from one of them on. -/
theorem fields_compactFields : ∀ (fs : Entries Value) {fuel : Nat} {before : Entries Value}
    {rest : List Char}, fs ≠ [] → Value.SoundFields fs →
    (compactFields fs).length < fuel →
    fields fuel before (compactFields fs ++ '}' :: rest) = .ok (.map (before.update fs), rest)
  | [], _, _, _, hne, _, _ => absurd rfl hne
  | (k, v) :: fs, fuel, before, rest, _, hv, hf => by
    obtain ⟨fuel, rfl⟩ := Nat.exists_eq_succ_of_ne_zero (Nat.ne_zero_of_lt hf)
    rw [compactFields_cons] at hf ⊢
    simp only [List.length_append, List.length_cons] at hf
    rw [List.append_assoc, List.cons_append, List.cons_append, List.append_assoc]
    by_cases hne : fs = []
    · subst hne
      exact fields_last (value_compact v hv.2.1 (ended_cons (by simp) _) (by omega))
    · -- a comma and a space, and the map from the next key on
      have hsep : fs.isEmpty = false := by simpa using hne
      simp only [hsep, Bool.false_eq_true, ↓reduceIte, List.length_cons, List.length_nil] at hf ⊢
      have hnext : fields fuel (before.put k v) (compactFields fs ++ '}' :: rest) =
          .ok (.map ((before.put k v).update fs), rest) :=
        fields_compactFields fs hne hv.2.2 (by omega)
      obtain ⟨⟨l, w⟩, gs, rfl⟩ := List.exists_cons_of_ne_nil hne
      rw [List.append_assoc, List.cons_append,
        fields_next (value_compact v hv.2.1 (ended_cons (by simp) _) (by omega))]
      refine Eq.trans (congrArg _ ?_) hnext
      rw [compactFields_cons, stringText]
      rfl

end

/-! ## Whole texts -/

/-- `Json.read` gives the `sorted` value of what `Json.write` writes. -/
theorem read_write {v : Value} (h : v.Sound) : read (write v) = .ok (sorted v) := by
  obtain ⟨c, cs, heq, hc⟩ := compact_first (sorted v)
  -- the length of the text bounds the depth and the breadth of the value
  have hvalue : value ((compact (sorted v)).length + 1) (compact (sorted v) ++ []) =
      .ok (sorted v, []) :=
    value_compact (sorted v) (sound_sorted h) (by simp [Ended]) (by omega)
  have hbom : (compact (sorted v)).head? ≠ some (Char.ofNat 0xfeff) := by
    rw [heq]
    exact fun he => hc (by rw [Option.some.inj he]; decide)
  have hspace : skipSpace (compact (sorted v)) = compact (sorted v) := by
    rw [heq, skipSpace_cons hc]
  rw [List.append_nil] at hvalue
  simp only [read, write, String.toList_ofList, whole, hbom, ↓reduceIte, hspace, hvalue]
  rfl

end FlinkSteward.Json
