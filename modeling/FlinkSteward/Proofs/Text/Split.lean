import FlinkSteward.Text.Split
import Mathlib.Data.List.Basic

/-!
# Parts of texts

What a text consists of when it was taken apart at a character, and that a text which is put together
from such parts is taken apart into them.

## Key results

- `splitAt_eq_splitOn`: the parts between all occurrences
- `breakAt?_eq_some_iff`, `breakAtLast?_eq_some_iff`: the parts around the first and the last one
- `breakAt?_eq_none_iff`, `breakAtLast?_eq_none_iff`: texts that are not taken apart
-/

namespace FlinkSteward.Text

theorem splitAt_eq_splitOn (sep : Char) (cs : List Char) : splitAt sep cs = cs.splitOn sep := by
  induction cs with
  | nil => rfl
  | cons c rest ih =>
    rw [splitAt, List.splitOn, List.splitOnP_cons_eq_if_modifyHead]
    by_cases hc : c = sep
    · rw [if_pos hc, if_pos (beq_iff_eq.2 hc), ih, List.splitOn]
    · rw [if_neg hc, if_neg (by simpa using hc), ← List.splitOn, ← ih]
      cases hparts : splitAt sep rest with
      | nil => exact absurd hparts (splitAt_ne_nil sep rest)
      | cons part parts => rfl

theorem breakAt?_eq_none_iff {sep : Char} {cs : List Char} : breakAt? sep cs = none ↔ sep ∉ cs := by
  induction cs with
  | nil => simp [breakAt?]
  | cons c rest ih =>
    rw [breakAt?]
    by_cases hc : c = sep
    · simp [hc]
    · rw [if_neg hc, Option.map_eq_none_iff, ih, List.mem_cons]
      simp [Ne.symm hc]

theorem breakAt?_append {sep : Char} {front : List Char} (h : sep ∉ front) (back : List Char) :
    breakAt? sep (front ++ sep :: back) = some (front, back) := by
  induction front with
  | nil => simp [breakAt?]
  | cons c rest ih =>
    obtain ⟨hc, hrest⟩ := not_or.1 (mt List.mem_cons.2 h)
    rw [List.cons_append, breakAt?, if_neg (Ne.symm hc), ih hrest]
    rfl

theorem breakAt?_eq_some_iff {sep : Char} {cs front back : List Char} :
    breakAt? sep cs = some (front, back) ↔ cs = front ++ sep :: back ∧ sep ∉ front := by
  constructor
  · intro h
    induction cs generalizing front with
    | nil => exact nomatch h
    | cons c rest ih =>
      rw [breakAt?] at h
      by_cases hc : c = sep
      · -- the text is taken apart here, with nothing in front
        rw [if_pos hc] at h
        obtain ⟨rfl, rfl⟩ := Prod.mk.inj (Option.some.inj h)
        exact ⟨by rw [hc, List.nil_append], List.not_mem_nil⟩
      · rw [if_neg hc, Option.map_eq_some_iff] at h
        obtain ⟨⟨front', back'⟩, hrest, hparts⟩ := h
        obtain ⟨rfl, rfl⟩ := Prod.mk.inj hparts
        obtain ⟨rfl, hnot⟩ := ih hrest
        refine ⟨rfl, fun hmem => ?_⟩
        exact (List.mem_cons.1 hmem).elim (fun heq => hc heq.symm) hnot
  · rintro ⟨rfl, h⟩
    exact breakAt?_append h back

theorem breakAtLast?_eq_none_iff {sep : Char} {cs : List Char} :
    breakAtLast? sep cs = none ↔ sep ∉ cs := by
  rw [breakAtLast?, Option.map_eq_none_iff, breakAt?_eq_none_iff, List.mem_reverse]

theorem breakAtLast?_eq_some_iff {sep : Char} {cs front back : List Char} :
    breakAtLast? sep cs = some (front, back) ↔ cs = front ++ sep :: back ∧ sep ∉ back := by
  rw [breakAtLast?, Option.map_eq_some_iff]
  constructor
  · rintro ⟨⟨a, b⟩, hbreak, hparts⟩
    obtain ⟨rfl, rfl⟩ := Prod.mk.inj hparts
    obtain ⟨hcs, hnot⟩ := breakAt?_eq_some_iff.1 hbreak
    refine ⟨?_, mt List.mem_reverse.1 hnot⟩
    rw [← List.reverse_reverse cs, hcs]
    simp
  · rintro ⟨rfl, hnot⟩
    refine ⟨(back.reverse, front.reverse), breakAt?_eq_some_iff.2 ⟨by simp, ?_⟩, by simp⟩
    exact mt List.mem_reverse.1 hnot

end FlinkSteward.Text
