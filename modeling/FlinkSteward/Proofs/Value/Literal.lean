import FlinkSteward.Proofs.Json.Number
import FlinkSteward.Proofs.Text.Quoted
import FlinkSteward.Value.Text

/-!
# Written values that tell what they are

A value is written with its texts quoted. So a bracket that stands outside of quotes is one of the value's
own, and a text is told from every other value by its written form.

## Key results

- `Value.closed_literal`: no round bracket closes inside a written value
- `Value.eq_of_literal_text`: what is written like a text
-/

namespace FlinkSteward

open FlinkSteward.Text

namespace Value

/-- Characters that are in no written number and no written truth value. -/
def foreign : List Char :=
  [')', '\'', '"']

private theorem not_foreign_of_isAsciiDigit {c : Char} (h : isAsciiDigit c = true) : c ∉ foreign := by
  intro hc
  have hall : foreign.all (fun d => !isAsciiDigit d) = true := by decide
  have hother : (!isAsciiDigit c) = true := List.all_eq_true.1 hall c hc
  rw [h] at hother
  exact nomatch hother

private theorem not_foreign_notation (w : Double.Notation) : ∀ c ∈ w.text, c ∉ foreign := by
  have hdigits : ∀ {cs : List Char}, Digits cs → ∀ c ∈ cs, c ∉ foreign := fun h c hc =>
    not_foreign_of_isAsciiDigit (h c hc)
  have hwhole : ∀ c ∈ w.whole, c ∉ foreign := fun c hc =>
    hdigits w.digits c (List.mem_append_left _ hc)
  have hpart : ∀ c ∈ Double.fractionText w.part, c ∉ foreign := by
    intro c hc
    rw [Double.fractionText] at hc
    split at hc
    · exact absurd hc List.not_mem_nil
    · rcases List.mem_cons.1 hc with rfl | hc
      · decide
      · exact hdigits w.digits c (List.mem_append_right _ hc)
  have hexponent : ∀ c ∈ (w.exponent.map Double.exponentText).getD [], c ∉ foreign := by
    cases w.exponent with
    | none => exact fun c hc => absurd hc List.not_mem_nil
    | some e =>
      have hsign : (if e < 0 then '-' else '+') ∉ foreign := by split <;> decide
      intro c hc
      rcases List.mem_cons.1 hc with rfl | hc
      · decide
      · rcases List.mem_cons.1 hc with rfl | hc
        · exact hsign
        · exact hdigits (Digits.padded 2 e.natAbs) c hc
  -- the text is the whole part, the fraction and the exponent
  rw [Double.Notation.text, List.forall_mem_append, List.forall_mem_append]
  exact ⟨⟨hwhole, hpart⟩, hexponent⟩

private theorem not_foreign_int (i : Int) : ∀ c ∈ literal (int i), c ∉ foreign := by
  have hsign : ∀ c ∈ (if i < 0 then ['-'] else [] : List Char), c ∉ foreign := by
    split <;> simp [foreign]
  rw [literal, Json.toList_toString_int, List.forall_mem_append]
  exact ⟨hsign, fun c hc => not_foreign_of_isAsciiDigit (Digits.digitsOf i.natAbs c hc)⟩

private theorem not_foreign_real (x : Double) : ∀ c ∈ literal (real x), c ∉ foreign := by
  rw [literal]
  cases x with
  | nan => simp [Double.text, foreign]
  | infinity n => cases n <;> simp [Double.text, foreign]
  | finite n s e h =>
    obtain ⟨w, htext, -⟩ := Double.magnitudeText_notation n h
    have hsign : ∀ c ∈ (if n then ['-'] else [] : List Char), c ∉ foreign := by
      split <;> simp [foreign]
    have hsplit : (Double.finite n s e h).text.toList = (if n then ['-'] else []) ++ w.text := by
      rw [htext]
      cases n <;> simp [Double.text, Double.isNegative]
    rw [hsplit, List.forall_mem_append]
    exact ⟨hsign, not_foreign_notation w⟩

private theorem not_foreign_bool (b : Bool) : ∀ c ∈ literal (bool b), c ∉ foreign := by
  cases b <;> simp [literal, foreign]

/-! ## Brackets -/

private theorem closed_of_not_foreign {cs : List Char} (h : ∀ c ∈ cs, c ∉ foreign) : Closed ')' cs :=
  .of_plain h

private theorem closed_separator {α : Type} (rest : List α) :
    Closed ')' (if rest.isEmpty then [] else [',', ' ']) := by
  split <;> exact .of_plain (by simp)

private theorem closed_key (key : String) : Closed ')' ((quoted key).toList ++ [':', ' ']) :=
  (closed_quoted (by decide) key).append (.of_plain (by simp))

mutual

/-- A `literal` is `Closed`: no round bracket closes inside of it. -/
theorem closed_literal : ∀ v : Value, Closed ')' (literal v)
  | null => .of_plain (by simp [literal])
  | bool b => closed_of_not_foreign (not_foreign_bool b)
  | int i => closed_of_not_foreign (not_foreign_int i)
  | real x => closed_of_not_foreign (not_foreign_real x)
  | text s => closed_quoted (by decide) s
  | list items => by
    rw [literal]
    have hopen : Closed ')' ['['] := .of_plain (by simp)
    exact (hopen.append (closed_literalItems items)).append (.of_plain (by simp))
  | map fields => by
    rw [literal]
    have hopen : Closed ')' ['{'] := .of_plain (by simp)
    exact (hopen.append (closed_literalFields fields)).append (.of_plain (by simp))

theorem closed_literalItems : ∀ items : List Value, Closed ')' (literalItems items)
  | [] => rfl
  | v :: rest => by
    rw [literalItems]
    exact ((closed_literal v).append (closed_separator rest)).append (closed_literalItems rest)

theorem closed_literalFields : ∀ fields : List (String × Value), Closed ')' (literalFields fields)
  | [] => rfl
  | (k, v) :: rest => by
    have hfield := (closed_key k).append (closed_literal v)
    rw [literalFields]
    simpa using (hfield.append (closed_separator rest)).append (closed_literalFields rest)

end

/-! ## Texts -/

/-- The `literal` of a text starts with a quote. -/
private theorem exists_quote (s : String) : ∃ q cs, IsQuote q ∧ literal (text s) = q :: cs := by
  let q := quoteFor s.toList
  refine ⟨q, s.toList.flatMap (quotedChar q) ++ [q], isQuote_quoteFor _, ?_⟩
  rw [literal, quoted, String.toList_ofList, List.cons_append]

/-- A value with the `literal` of a text is that text. -/
theorem eq_of_literal_text {v : Value} {s : String} (h : literal v = literal (text s)) :
    v = text s := by
  obtain ⟨q, cs, hq, hs⟩ := exists_quote s
  have hmem : q ∈ literal v := by
    rw [h, hs]
    exact List.mem_cons_self
  have hforeign : q ∈ foreign := by rcases hq with rfl | rfl <;> decide
  have hfirst : ∀ {c : Char} {ds : List Char}, literal v = c :: ds → IsQuote c := by
    intro c ds hv
    rw [h, hs] at hv
    exact (List.cons.inj hv).1 ▸ hq
  -- what starts with a quote is the literal of a text
  cases v with
  | null => exact absurd (hfirst rfl) (by decide)
  | bool b => exact absurd hforeign (not_foreign_bool b q hmem)
  | int i => exact absurd hforeign (not_foreign_int i q hmem)
  | real x => exact absurd hforeign (not_foreign_real x q hmem)
  | text t =>
    rw [literal, literal] at h
    rw [quoted_injective h]
  | list items => exact absurd (hfirst (by rw [literal, List.cons_append])) (by decide)
  | map fields => exact absurd (hfirst (by rw [literal, List.cons_append])) (by decide)

end Value

end FlinkSteward
