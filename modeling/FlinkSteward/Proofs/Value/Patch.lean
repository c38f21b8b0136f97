import FlinkSteward.Proofs.Json.Sorted
import FlinkSteward.Resource.Record
import FlinkSteward.Value.Merge

/-!
# Patches

A patch says nothing of a key that it leaves out, so that a value under that key stays. Under the
keys that it has, maps merge again and everything else is replaced.

## Key results

- `get?_patchFields`: what is under a key after a patch
- `patch_self`: a value as a patch of itself
- `Laid`: fields that are like others with a patch on top
-/

namespace FlinkSteward

namespace Value

/-- A value after a change of it, where there may have been none. -/
def patchOver (old : Option Value) (v : Value) : Value :=
  match old with
  | none => v
  | some u => u.patch v

theorem patchFields_cons (fields : Entries Value) (key : String) (v : Value)
    (changes : Entries Value) :
    patchFields fields ((key, v) :: changes) =
      patchFields (fields.put key (patchOver (fields.get? key) v)) changes := by
  rw [patchFields]
  cases fields.get? key <;> rfl

/-- In `patchFields`, a key of the patch has its value merged with the old one, and every other key
what it had. -/
theorem get?_patchFields (fields : Entries Value) {changes : Entries Value}
    (h : changes.Distinct) (key : String) :
    Entries.get? (patchFields fields changes) key =
      match changes.get? key with
      | none => fields.get? key
      | some v => some (patchOver (fields.get? key) v) := by
  induction changes generalizing fields with
  | nil => simp [patchFields]
  | cons e changes ih =>
    obtain ⟨k, v⟩ := e
    rw [patchFields_cons, ih _ h.2, Entries.get?_cons]
    by_cases hk : k = key
    · -- no later change has the key, so that the value that was put first is still there
      subst hk
      rw [h.1, if_pos rfl]
      exact Entries.get?_put_self fields k _
    · rw [Entries.get?_put_of_ne _ _ hk, if_neg hk]

/-- `patchFields` changes nothing where none of its entries does. -/
theorem patchFields_eq_self {fields changes : Entries Value}
    (h : ∀ e ∈ changes, ∃ old, fields.get? e.1 = some old ∧ patch old e.2 = old) :
    patchFields fields changes = fields := by
  induction changes with
  | nil => simp [patchFields]
  | cons e changes ih =>
    obtain ⟨⟨old, hget, hold⟩, hrest⟩ := List.forall_mem_cons.1 h
    rw [patchFields_cons, hget, patchOver, hold, Entries.put_get? hget]
    exact ih hrest

mutual

theorem patch_self : ∀ {v : Value}, v.Sound → patch v v = v
  | .map fields, h => by
    obtain ⟨hd, hs⟩ := sound_map_iff.1 h
    -- every field meets itself
    rw [patch_map, patchFields_eq_self]
    exact fun e he => ⟨e.2, hd.get?_of_mem he, patch_self_of_mem fields hs e he⟩
  | .null, _ | .bool _, _ | .int _, _ | .real _, _ | .text _, _ | .list _, _ => by simp [patch]

private theorem patch_self_of_mem : ∀ fields : List (String × Value), (∀ e ∈ fields, e.2.Sound) →
    ∀ e ∈ fields, patch e.2 e.2 = e.2
  | [], _ => fun _ he => nomatch he
  | (_, _) :: fields, h => by
    obtain ⟨hv, hs⟩ := List.forall_mem_cons.1 h
    exact List.forall_mem_cons.2 ⟨patch_self hv, patch_self_of_mem fields hs⟩

end

theorem patch_ne_null (u : Value) {v : Value} (h : v ≠ null) : patch u v ≠ null := by
  cases v with
  | map changes => cases u <;> simp [patch]
  | null => contradiction
  | _ => simp [patch]

theorem patchOver_ne_null (old : Option Value) {v : Value} (h : v ≠ null) :
    patchOver old v ≠ null := by
  cases old with
  | none => exact h
  | some u => exact patch_ne_null u h

/-- `patchOver` merges only a map into what was there. -/
theorem patchOver_of_not_map (old : Option Value) {v : Value} (h : ∀ fields, v ≠ map fields) :
    patchOver old v = v := by
  cases old with
  | none => rfl
  | some u => exact patch_of_not_map u v h

end Value

/-- Fields that have the values of a patch where it has any, merged with older fields by
`Value.patchOver`, and those of the older fields where it has none. -/
def Laid (older changes fields : Entries Value) : Prop :=
  ∀ key, fields.get? key = match changes.get? key with
    | none => older.get? key
    | some v => some (Value.patchOver (older.get? key) v)

theorem laid_patchFields (older : Entries Value) {changes : Entries Value}
    (h : changes.Distinct) : Laid older changes (Value.patchFields older changes) :=
  Value.get?_patchFields older h

theorem laid_nil (changes : Entries Value) : Laid [] changes changes := by
  intro key
  cases changes.get? key <;> rfl

namespace Record

@[simp] theorem distinct_field (key : String) (o : Option Value) :
    Entries.Distinct (field key o) := by
  cases o <;> simp [field, Entries.Distinct]

@[simp] theorem distinct_field_append (key : String) (o : Option Value) (rest : Entries Value) :
    Entries.Distinct (field key o ++ rest) ↔
      (o.isSome → rest.get? key = none) ∧ rest.Distinct := by
  cases o <;> simp [field, Entries.Distinct]

end Record

end FlinkSteward
