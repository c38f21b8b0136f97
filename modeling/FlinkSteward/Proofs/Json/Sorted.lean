import FlinkSteward.Json.Write
import FlinkSteward.Proofs.Entries

/-!
# Values with sorted maps

Sorting the maps of a value keeps it sound, sorts what its maps hold as well, and changes nothing when
it is done again.

## Key results

- `soundFields_iff`: fields are sound when no key is repeated and all their values are sound
- `Json.sorted_map`, `Json.sorted_list`: what a sorted map and a sorted list hold
- `Json.sound_sorted`: sorting keeps a value sound
- `Json.sorted_sorted`: a sorted value is sorted already
-/

namespace FlinkSteward

namespace Value

@[simp] theorem sound_text (s : String) : (text s).Sound := trivial

theorem soundList_iff {items : List Value} : SoundList items ↔ ∀ v ∈ items, v.Sound := by
  induction items with
  | nil => simp [SoundList]
  | cons v items ih => simp [SoundList, ih]

/-- Fields are `SoundFields` when no key is repeated and all their values are `Sound`. -/
theorem soundFields_iff {fields : Entries Value} :
    SoundFields fields ↔ fields.Distinct ∧ ∀ e ∈ fields, e.2.Sound := by
  induction fields with
  | nil => simp [SoundFields, Entries.Distinct]
  | cons e fields ih =>
    simp only [SoundFields, Entries.Distinct, ih, List.forall_mem_cons]
    tauto

theorem sound_map_iff {fields : Entries Value} :
    (map fields).Sound ↔ fields.Distinct ∧ ∀ e ∈ fields, e.2.Sound := by
  rw [Sound, soundFields_iff]

theorem sound_of_get? {fields : Entries Value} (h : (map fields).Sound) {key : String} {v : Value}
    (hv : fields.get? key = some v) : v.Sound :=
  (sound_map_iff.1 h).2 _ (Entries.mem_of_get? hv)

end Value

namespace Json

theorem sortedItems_eq_map (items : List Value) : sortedItems items = items.map sorted := by
  induction items with
  | nil => simp [sortedItems]
  | cons v items ih => simp [sortedItems, ih]

theorem sortedFields_eq_mapValues (fields : Entries Value) :
    sortedFields fields = fields.mapValues sorted := by
  induction fields with
  | nil => simp [sortedFields, Entries.mapValues]
  | cons e fields ih => simp [sortedFields, ih, Entries.mapValues]

theorem sorted_map (fields : Entries Value) :
    sorted (.map fields) = .map (fields.mapValues sorted).sorted := by
  rw [sorted, sortedFields_eq_mapValues]

theorem sorted_list (items : List Value) : sorted (.list items) = .list (items.map sorted) := by
  rw [sorted, sortedItems_eq_map]

theorem sorted_eq_null_iff {v : Value} : sorted v = .null ↔ v = .null := by
  cases v <;> simp [sorted]

mutual

/-- `sorted` keeps a value `Sound`. -/
theorem sound_sorted : ∀ {v : Value}, v.Sound → (sorted v).Sound
  | .list items, h => by
    rw [sorted, Value.Sound]
    exact soundList_sortedItems h
  | .map fields, h => by
    obtain ⟨hd, hv⟩ := Value.soundFields_iff.1 (soundFields_sortedFields h)
    rw [sorted, Value.sound_map_iff]
    exact ⟨hd.sorted, fun e he => hv e ((Entries.sorted_perm _).subset he)⟩
  | .null, h | .bool _, h | .int _, h | .real _, h | .text _, h => by simpa only [sorted] using h

theorem soundList_sortedItems :
    ∀ {items : List Value}, Value.SoundList items → Value.SoundList (sortedItems items)
  | [], _ => by simp [sortedItems, Value.SoundList]
  | _ :: _, h => by
    rw [sortedItems, Value.SoundList]
    exact ⟨sound_sorted h.1, soundList_sortedItems h.2⟩

theorem soundFields_sortedFields :
    ∀ {fields : Entries Value}, Value.SoundFields fields → Value.SoundFields (sortedFields fields)
  | [], _ => by simp [sortedFields, Value.SoundFields]
  | (k, v) :: fields, h => by
    rw [sortedFields, Value.SoundFields]
    refine ⟨?_, sound_sorted h.2.1, soundFields_sortedFields h.2.2⟩
    rw [sortedFields_eq_mapValues, Entries.get?_mapValues, h.1]
    rfl

end

mutual

/-- A `sorted` value is sorted already. -/
theorem sorted_sorted : ∀ v : Value, sorted (sorted v) = sorted v
  | .list items => by rw [sorted, sorted, sortedItems_sortedItems items]
  | .map fields => by
    rw [sorted, sorted, sortedFields_eq_mapValues (Entries.sorted _), Entries.mapValues_sorted,
      ← sortedFields_eq_mapValues, sortedFields_sortedFields fields, Entries.sorted_sorted]
  | .null | .bool _ | .int _ | .real _ | .text _ => by simp only [sorted]

theorem sortedItems_sortedItems :
    ∀ items : List Value, sortedItems (sortedItems items) = sortedItems items
  | [] => by simp only [sortedItems]
  | v :: items => by
    rw [sortedItems, sortedItems, sorted_sorted v, sortedItems_sortedItems items]

theorem sortedFields_sortedFields :
    ∀ fields : Entries Value, sortedFields (sortedFields fields) = sortedFields fields
  | [] => by simp only [sortedFields]
  | (k, v) :: fields => by
    rw [sortedFields, sortedFields, sorted_sorted v, sortedFields_sortedFields fields]

end

end Json

end FlinkSteward
