import FlinkSteward.Text.Blank
import Mathlib.Data.List.DropRight

/-!
# Trimmed texts

Trimming takes a text apart into blanks, what is left, and blanks again. What is left neither starts nor
ends with a blank, and whatever is like that is left of it when blanks stand around it.

## Key results

- `exists_surrounding`: what trimming takes away
- `stripChars_surrounded`: what it leaves
-/

namespace FlinkSteward.Text

/-- Characters that are all blank. -/
def Blanks (cs : List Char) : Prop :=
  ∀ c ∈ cs, isBlank c = true

theorem stripStart_append {before : List Char} (h : Blanks before) (cs : List Char) :
    stripStart (before ++ cs) = stripStart cs :=
  List.dropWhile_append_of_pos h

theorem stripEnd_append {after : List Char} (h : Blanks after) (cs : List Char) :
    stripEnd (cs ++ after) = stripEnd cs := by
  have hreverse : ∀ c ∈ after.reverse, isBlank c = true := by
    intro c hc
    exact h c (List.mem_reverse.1 hc)
  rw [stripEnd, List.reverse_append, List.dropWhile_append_of_pos hreverse, stripEnd]

/-- `stripChars` takes away the blanks at the start, and then those at the end. -/
theorem exists_surrounding (cs : List Char) :
    ∃ before after, Blanks before ∧ Blanks after ∧ cs = before ++ stripChars cs ++ after := by
  refine ⟨cs.takeWhile isBlank, ((stripStart cs).reverse.takeWhile isBlank).reverse,
    fun c hc => List.all_eq_true.1 List.all_takeWhile c hc, ?_, ?_⟩
  · intro c hc
    exact List.all_eq_true.1 List.all_takeWhile c (List.mem_reverse.1 hc)
  · have hend : stripEnd (stripStart cs) ++ ((stripStart cs).reverse.takeWhile isBlank).reverse =
        stripStart cs := by
      rw [stripEnd, ← List.reverse_append, List.takeWhile_append_dropWhile, List.reverse_reverse]
    rw [stripChars, List.append_assoc, hend, stripStart, List.takeWhile_append_dropWhile]

/-- Characters with no blank at either end. -/
def Trimmed (cs : List Char) : Prop :=
  (∀ c ∈ cs.head?, isBlank c = false) ∧ ∀ c ∈ cs.getLast?, isBlank c = false

theorem stripEnd_of_trimmed {cs : List Char} (h : Trimmed cs) : stripEnd cs = cs := by
  rw [stripEnd]
  cases hreverse : cs.reverse with
  | nil => rw [List.reverse_eq_nil_iff.1 hreverse]; rfl
  | cons c rest =>
    -- the last character is the first one from behind
    have hlast : isBlank c = false := by
      apply h.2
      rw [List.getLast?_eq_head?_reverse, hreverse]
      rfl
    rw [List.dropWhile_cons_of_neg (by simp [hlast]), ← hreverse, List.reverse_reverse]

theorem stripChars_surrounded {before cs after : List Char} (hbefore : Blanks before)
    (hafter : Blanks after) (h : Trimmed cs) : stripChars (before ++ cs ++ after) = cs := by
  rw [stripChars, List.append_assoc, stripStart_append hbefore]
  cases cs with
  | nil =>
    -- nothing but blanks is left, and they go as well
    have hnone : stripStart after = [] := List.dropWhile_eq_nil_iff.2 hafter
    rw [List.nil_append, hnone]
    rfl
  | cons c rest =>
    have hfirst : isBlank c = false := h.1 c rfl
    rw [List.cons_append, stripStart, List.dropWhile_cons_of_neg (by simp [hfirst]),
      ← List.cons_append, stripEnd_append hafter, stripEnd_of_trimmed h]

end FlinkSteward.Text
