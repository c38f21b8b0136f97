import FlinkSteward.Entries
import Mathlib.Data.List.Sort
import Mathlib.Data.String.Basic

/-!
# Look-ups in entries

What a map of entries gives for a key, after the operations on maps. Sorting is stable, so that it
never changes a look-up, and among maps without a repeated key the sorted one is a normal form.

## Key results

- `get?_sorted`: sorting changes no look-up
- `get?_update_of_distinct`: the later of two maps counts
- `Distinct.get?_of_perm`: neither does the order of entries without repeated keys
- `Distinct.sorted_eq_sorted_iff`: two maps have the same sorted form iff they agree on every key
-/

namespace FlinkSteward.Entries

variable {β γ : Type}

/-- No key is repeated. -/
def Distinct : Entries β → Prop
  | [] => True
  | e :: rest => get? rest e.1 = none ∧ Distinct rest

theorem get?_cons (e : String × β) (m : Entries β) (key : String) :
    get? (e :: m) key = if e.1 = key then some e.2 else get? m key := rfl

@[simp] theorem get?_append (m n : Entries β) (key : String) :
    get? (m ++ n) key = (get? m key).or (get? n key) := by
  induction m with
  | nil => rfl
  | cons e m ih => by_cases h : e.1 = key <;> simp [get?_cons, h, ih]

theorem get?_eq_none_iff {m : Entries β} {key : String} :
    get? m key = none ↔ ∀ e ∈ m, e.1 ≠ key := by
  induction m with
  | nil => simp
  | cons e m ih => by_cases h : e.1 = key <;> simp [get?_cons, h, ih]

theorem mem_of_get? {m : Entries β} {key : String} {v : β} (h : get? m key = some v) :
    (key, v) ∈ m := by
  induction m with
  | nil => exact nomatch h
  | cons e m ih =>
    rw [get?_cons] at h
    split at h
    · rename_i hk
      obtain rfl := Option.some.inj h
      exact hk ▸ List.mem_cons_self
    · exact List.mem_cons_of_mem _ (ih h)

/-- In `Distinct` entries, every entry is what `get?` gives for its key. -/
theorem Distinct.get?_of_mem {m : Entries β} (h : m.Distinct) {e : String × β} (he : e ∈ m) :
    get? m e.1 = some e.2 := by
  induction m with
  | nil => exact nomatch he
  | cons d m ih =>
    rw [get?_cons]
    rcases List.mem_cons.1 he with rfl | hm
    · rw [if_pos rfl]
    · have hne : d.1 ≠ e.1 := fun hk => get?_eq_none_iff.1 h.1 e hm hk.symm
      rw [if_neg hne, ih h.2 hm]

theorem mapValues_id (m : Entries β) : mapValues id m = m :=
  List.map_id m

theorem mapValues_mapValues {δ : Type} (f : β → γ) (g : γ → δ) (m : Entries β) :
    mapValues g (mapValues f m) = mapValues (g ∘ f) m :=
  List.map_map ..

/-! ## Setting entries -/

/-- `put` places a new key at the end. -/
theorem put_of_get?_eq_none {m : Entries β} {key : String} (value : β) (h : get? m key = none) :
    put m key value = m ++ [(key, value)] := by
  induction m with
  | nil => rfl
  | cons e m ih =>
    rw [get?_cons] at h
    split at h
    · exact nomatch h
    · rename_i hk
      simp only [put, hk, ↓reduceIte, ih h, List.cons_append]

/-- `put` of the value that is there already changes nothing. -/
theorem put_get? {m : Entries β} {key : String} {v : β} (h : get? m key = some v) :
    put m key v = m := by
  induction m with
  | nil => exact nomatch h
  | cons e m ih =>
    rw [get?_cons] at h
    split at h
    · rename_i hk
      obtain rfl := Option.some.inj h
      subst hk
      rw [put, if_pos rfl]
    · rename_i hk
      rw [put, if_neg hk, ih h]

/-- In `update m n` the entries of `n` count before those of `m`. -/
theorem get?_update_of_distinct (m : Entries β) {n : Entries β} (h : n.Distinct) (key : String) :
    get? (update m n) key = (get? n key).or (get? m key) := by
  induction n generalizing m with
  | nil => rfl
  | cons e n ih =>
    rw [show update m (e :: n) = update (m.put e.1 e.2) n from rfl, ih _ h.2, get?_put, get?_cons]
    -- no later entry has the key of the first, so that what was put for it stays
    split
    · rename_i hk
      subst hk
      rw [h.1]; rfl
    · rfl

private theorem Distinct.get?_of_append {m n : Entries β} {e : String × β}
    (h : Distinct (m ++ e :: n)) : get? m e.1 = none := by
  induction m with
  | nil => rfl
  | cons d m ih =>
    rw [List.cons_append] at h
    obtain ⟨hd, hm⟩ := h
    rw [get?_append, get?_cons] at hd
    have hne : d.1 ≠ e.1 := by
      intro he
      rw [if_pos he.symm, Option.or_eq_none_iff] at hd
      exact nomatch hd.2
    rw [get?_cons, if_neg hne, ih hm]

private theorem update_of_distinct {m n : Entries β} (h : Distinct (m ++ n)) :
    update m n = m ++ n := by
  induction n generalizing m with
  | nil => rw [List.append_nil]; rfl
  | cons e n ih =>
    rw [show update m (e :: n) = update (m.put e.1 e.2) n from rfl,
      put_of_get?_eq_none e.2 h.get?_of_append, ih (by simpa using h)]
    simp

/-- `Distinct` pairs are the map that `ofPairs` makes of them. -/
theorem Distinct.ofPairs {m : Entries β} (h : m.Distinct) : ofPairs m = m :=
  update_of_distinct (m := []) h

/-! ## Entries in another order -/

theorem distinct_iff_nodup {m : Entries β} : m.Distinct ↔ (keys m).Nodup := by
  induction m with
  | nil => exact iff_of_true trivial List.nodup_nil
  | cons e m ih =>
    have hkey : get? m e.1 = none ↔ e.1 ∉ keys m := by
      rw [get?_eq_none_iff, keys, List.mem_map]
      exact ⟨fun h ⟨d, hd, hkey⟩ => h d hd hkey, fun h d hd hkey => h ⟨d, hd, hkey⟩⟩
    rw [Distinct, ih, hkey]
    exact List.nodup_cons.symm

/-- `Distinct` entries are so in any order. -/
theorem Distinct.perm {m n : Entries β} (h : m.Distinct) (hperm : m.Perm n) : n.Distinct :=
  distinct_iff_nodup.2 ((hperm.map Prod.fst).nodup (distinct_iff_nodup.1 h))

/-- The order of `Distinct` entries does not matter to `get?`. -/
theorem Distinct.get?_of_perm {m n : Entries β} (h : m.Distinct) (hperm : m.Perm n)
    (key : String) : get? m key = get? n key := by
  cases hm : get? m key with
  | some v =>
    have hmem := hperm.subset (mem_of_get? hm)
    exact ((h.perm hperm).get?_of_mem hmem).symm
  | none =>
    symm
    rw [get?_eq_none_iff] at hm ⊢
    exact fun e he => hm e (hperm.symm.subset he)

/-! ## Sorting -/

/-- `insertSorted` places an entry before later ones with its key. -/
theorem get?_insertSorted (e : String × β) (m : Entries β) (key : String) :
    get? (insertSorted e m) key = if e.1 = key then some e.2 else get? m key := by
  induction m with
  | nil => rfl
  | cons d m ih =>
    simp only [insertSorted]
    split
    · rename_i hlt
      rw [get?_cons, ih, get?_cons]
      split
      · -- the entry is sorted in behind `d`, so that it has another key
        rename_i hd
        rw [if_neg (fun he => by rw [hd, he] at hlt; exact lt_irrefl _ hlt)]
      · rfl
    · rfl

/-- `sorted` changes no look-up. -/
@[simp] theorem get?_sorted (m : Entries β) (key : String) : get? (sorted m) key = get? m key := by
  induction m with
  | nil => rfl
  | cons e m ih =>
    rw [show sorted (e :: m) = insertSorted e (sorted m) from rfl, get?_insertSorted, ih, get?_cons]

theorem insertSorted_perm (e : String × β) (m : Entries β) :
    (insertSorted e m).Perm (e :: m) := by
  induction m with
  | nil => exact .rfl
  | cons d m ih =>
    simp only [insertSorted]
    split
    · exact (ih.cons d).trans (.swap e d m)
    · exact .rfl

/-- `sorted` keeps the entries. -/
theorem sorted_perm (m : Entries β) : (sorted m).Perm m := by
  induction m with
  | nil => exact .rfl
  | cons e m ih => exact (insertSorted_perm e (sorted m)).trans (ih.cons e)

theorem Distinct.insertSorted {e : String × β} {m : Entries β} (h : m.Distinct)
    (he : get? m e.1 = none) : (insertSorted e m).Distinct := by
  induction m with
  | nil => exact ⟨rfl, trivial⟩
  | cons d m ih =>
    simp only [Entries.insertSorted]
    split
    · rw [get?_cons] at he
      split at he
      · exact nomatch he
      · rename_i hd
        refine ⟨?_, ih h.2 he⟩
        rw [get?_insertSorted, if_neg (Ne.symm hd)]
        exact h.1
    · exact ⟨he, h⟩

theorem Distinct.sorted {m : Entries β} (h : m.Distinct) : (sorted m).Distinct := by
  induction m with
  | nil => trivial
  | cons e m ih => exact (ih h.2).insertSorted (by rw [get?_sorted]; exact h.1)

theorem mapValues_insertSorted (f : β → γ) (e : String × β) (m : Entries β) :
    mapValues f (insertSorted e m) = insertSorted (e.1, f e.2) (mapValues f m) := by
  induction m with
  | nil => rfl
  | cons d m ih =>
    simp only [insertSorted, mapValues, List.map_cons] at ih ⊢
    split
    · rw [List.map_cons, ih]
    · rfl

/-- `sorted` looks at keys alone, so that it commutes with `mapValues`. -/
theorem mapValues_sorted (f : β → γ) (m : Entries β) :
    mapValues f (sorted m) = sorted (mapValues f m) := by
  induction m with
  | nil => rfl
  | cons e m ih =>
    rw [show sorted (e :: m) = insertSorted e (sorted m) from rfl, mapValues_insertSorted, ih]
    rfl

theorem Distinct.mapValues {m : Entries β} (h : m.Distinct) (f : β → γ) :
    (mapValues f m).Distinct := by
  induction m with
  | nil => trivial
  | cons e m ih => exact ⟨by rw [← Entries.mapValues, get?_mapValues, h.1]; rfl, ih h.2⟩

/-! ## The sorted form -/

/-- Keys that never go down. -/
private def Ordered (m : Entries β) : Prop :=
  m.Pairwise fun d e => d.1 ≤ e.1

private theorem ordered_insertSorted {m : Entries β} (h : Ordered m) (e : String × β) :
    Ordered (insertSorted e m) := by
  induction m with
  | nil => exact List.pairwise_singleton _ _
  | cons d m ih =>
    obtain ⟨hd, hm⟩ := List.pairwise_cons.1 h
    simp only [insertSorted]
    split
    · -- the entry goes behind `d`
      rename_i hlt
      refine List.pairwise_cons.2 ⟨fun x hx => ?_, ih hm⟩
      rcases List.mem_cons.1 ((insertSorted_perm e m).subset hx) with rfl | hx
      · exact hlt.le
      · exact hd x hx
    · -- the entry goes in front of `d`, and so of everything behind that
      rename_i hle
      refine List.pairwise_cons.2 ⟨fun x hx => ?_, h⟩
      rcases List.mem_cons.1 hx with rfl | hx
      · exact not_lt.1 hle
      · exact (not_lt.1 hle).trans (hd x hx)

private theorem ordered_sorted (m : Entries β) : Ordered (sorted m) := by
  induction m with
  | nil => exact List.Pairwise.nil
  | cons e m ih => exact ordered_insertSorted ih e

private theorem insertSorted_of_forall_le {m : Entries β} {e : String × β}
    (h : ∀ d ∈ m, e.1 ≤ d.1) : insertSorted e m = e :: m := by
  cases m with
  | nil => rfl
  | cons d m => simp only [insertSorted, not_lt.2 (h d List.mem_cons_self), ↓reduceIte]

private theorem sorted_of_ordered {m : Entries β} (h : Ordered m) : sorted m = m := by
  induction m with
  | nil => rfl
  | cons e m ih =>
    obtain ⟨he, hm⟩ := List.pairwise_cons.1 h
    rw [show sorted (e :: m) = insertSorted e (sorted m) from rfl, ih hm,
      insertSorted_of_forall_le he]

/-- `sorted` entries are sorted already. -/
@[simp] theorem sorted_sorted (m : Entries β) : sorted (sorted m) = sorted m :=
  sorted_of_ordered (ordered_sorted m)

private theorem Distinct.nodup {m : Entries β} (h : m.Distinct) : m.Nodup := by
  induction m with
  | nil => exact List.nodup_nil
  | cons e m ih =>
    exact List.nodup_cons.2 ⟨fun he => get?_eq_none_iff.1 h.1 e he rfl, ih h.2⟩

private theorem Distinct.perm_of_get? {m n : Entries β} (hm : m.Distinct) (hn : n.Distinct)
    (h : ∀ key, get? m key = get? n key) : m.Perm n := by
  refine (List.perm_ext_iff_of_nodup hm.nodup hn.nodup).2 fun e => ⟨fun he => ?_, fun he => ?_⟩
  · exact mem_of_get? ((h e.1).symm.trans (hm.get?_of_mem he))
  · exact mem_of_get? ((h e.1).trans (hn.get?_of_mem he))

/-- Two `Distinct` maps are the same once `sorted` exactly when they agree on every key. -/
theorem Distinct.sorted_eq_sorted_iff {m n : Entries β} (hm : m.Distinct) (hn : n.Distinct) :
    m.sorted = n.sorted ↔ ∀ key, get? m key = get? n key := by
  constructor
  · intro h key
    rw [← get?_sorted m, h, get?_sorted]
  · intro h
    have hperm : m.sorted.Perm n.sorted :=
      (sorted_perm m).trans ((hm.perm_of_get? hn h).trans (sorted_perm n).symm)
    refine hperm.eq_of_pairwise (fun a b ha hb hab hba => ?_) (ordered_sorted m) (ordered_sorted n)
    -- one key stands for one entry, so that the order of keys is one of entries
    have hkey : a.1 = b.1 := le_antisymm hab hba
    have hva := hm.sorted.get?_of_mem ha
    rw [get?_sorted, h, hkey, ← get?_sorted, hn.sorted.get?_of_mem hb] at hva
    exact Prod.ext hkey (Option.some.inj hva).symm

end FlinkSteward.Entries
