import FlinkSteward.Proofs.Json.Sorted

/-!
# Layouts

The entries of maps stand in the order in which they were put, or, once they went through a JSON
text, in the order of their keys. What is shown of both orders is shown for a *layout*.

## Key results

- `Layout.value`, `Layout.entries`: data in a layout
- `Layout.get?_fields`: look-ups in fields that were laid out
-/

namespace FlinkSteward

/-- An order of the entries of maps. -/
inductive Layout where
  /-- Every map keeps its order. -/
  | kept
  /-- Every map is in the order of its keys. -/
  | sorted

namespace Layout

variable {β γ : Type}

/-- A value in a layout. -/
def value : Layout → Value → Value
  | kept, v => v
  | sorted, v => Json.sorted v

/-- A map in a layout, with its values as they are. -/
def entries : Layout → Entries β → Entries β
  | kept, m => m
  | sorted, m => m.sorted

/-- Fields in a layout, and their values too. -/
def fields (l : Layout) (m : Entries Value) : Entries Value :=
  l.entries (m.mapValues l.value)

@[simp] theorem value_kept : kept.value = id := rfl

@[simp] theorem entries_kept : (kept.entries : Entries β → Entries β) = id := rfl

@[simp] theorem fields_kept : kept.fields = id :=
  funext Entries.mapValues_id

@[simp] theorem value_sorted_sorted (v : Value) :
    sorted.value (sorted.value v) = sorted.value v :=
  Json.sorted_sorted v

@[simp] theorem entries_sorted_sorted (m : Entries β) :
    sorted.entries (sorted.entries m) = sorted.entries m :=
  Entries.sorted_sorted m

@[simp] theorem fields_sorted_sorted (m : Entries Value) :
    sorted.fields (sorted.fields m) = sorted.fields m := by
  have h : sorted.value ∘ sorted.value = sorted.value := funext Json.sorted_sorted
  simp only [fields, entries]
  rw [Entries.mapValues_sorted, Entries.sorted_sorted, Entries.mapValues_mapValues, h]

theorem value_map (l : Layout) (m : Entries Value) : l.value (.map m) = .map (l.fields m) := by
  cases l with
  | kept => simp
  | sorted => exact Json.sorted_map m

theorem value_list (l : Layout) (items : List Value) :
    l.value (.list items) = .list (items.map l.value) := by
  cases l with
  | kept => exact congrArg Value.list (List.map_id items).symm
  | sorted => exact Json.sorted_list items

@[simp] theorem value_text (l : Layout) (s : String) : l.value (.text s) = .text s := by
  cases l <;> simp only [value, Json.sorted]

@[simp] theorem value_ofText? (l : Layout) (s : Option String) :
    l.value (Value.ofText? s) = Value.ofText? s := by
  cases l <;> cases s <;> simp only [value, Value.ofText?, Json.sorted]

@[simp] theorem value_eq_null_iff (l : Layout) {v : Value} : l.value v = .null ↔ v = .null := by
  cases l with
  | kept => rfl
  | sorted => exact Json.sorted_eq_null_iff

/-- `Layout.value` makes no text. -/
theorem value_eq_text_iff (l : Layout) {v : Value} {s : String} :
    l.value v = .text s ↔ v = .text s := by
  cases l with
  | kept => rfl
  | sorted => cases v <;> simp [value, Json.sorted]

theorem sound_value (l : Layout) {v : Value} (h : v.Sound) : (l.value v).Sound := by
  cases l with
  | kept => exact h
  | sorted => exact Json.sound_sorted h

@[simp] theorem get?_entries (l : Layout) (m : Entries β) (key : String) :
    (l.entries m).get? key = m.get? key := by
  cases l with
  | kept => rfl
  | sorted => exact Entries.get?_sorted m key

/-- In `Layout.fields`, a field has the value that it had, laid out. -/
theorem get?_fields (l : Layout) (m : Entries Value) (key : String) :
    (l.fields m).get? key = (m.get? key).map l.value := by
  rw [fields, get?_entries, Entries.get?_mapValues]

theorem mapValues_entries (l : Layout) (f : β → γ) (m : Entries β) :
    (l.entries m).mapValues f = l.entries (m.mapValues f) := by
  cases l with
  | kept => rfl
  | sorted => exact Entries.mapValues_sorted f m

end Layout

end FlinkSteward
