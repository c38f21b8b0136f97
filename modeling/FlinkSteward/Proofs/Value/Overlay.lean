import FlinkSteward.Proofs.Json.Sound
import FlinkSteward.Value.Merge

/-!
# Templates in another order

Two templates whose maps have the same entries, in whatever order, are the same once they are sorted.
Laying one template over another looks fields up by their keys, so that it does not matter in which order
either of them was.

## Key results

- `Value.get?_overlayFields`: what is under a key after one map was laid over another
- `Json.sorted_map_eq_iff`: maps that are the same once they are sorted
- `Value.sorted_overlay`: the order of two templates does not matter
-/

namespace FlinkSteward

namespace Json

/-- Maps are the same once `sorted` when they have the same under every key. -/
theorem sorted_map_eq_iff {m n : Entries Value} (hm : m.Distinct) (hn : n.Distinct) :
    sorted (.map m) = sorted (.map n) ↔
      ∀ key, (m.get? key).map sorted = (n.get? key).map sorted := by
  rw [sorted_map, sorted_map, Value.map.injEq,
    (hm.mapValues sorted).sorted_eq_sorted_iff (hn.mapValues sorted)]
  simp only [Entries.get?_mapValues]

theorem eq_map_of_sorted_eq {m : Entries Value} {v : Value} (h : sorted (.map m) = sorted v) :
    ∃ n, v = .map n := by
  cases v with
  | map n => exact ⟨n, rfl⟩
  | _ => simp [sorted] at h

theorem eq_list_of_sorted_eq {items : List Value} {v : Value} (h : sorted (.list items) = sorted v) :
    ∃ others, v = .list others ∧ items.map sorted = others.map sorted := by
  cases v with
  | list others =>
    rw [sorted_list, sorted_list, Value.list.injEq] at h
    exact ⟨others, rfl, h⟩
  | _ => simp [sorted] at h

end Json

open Json

namespace Value

/-- A value laid over what may have been there before. -/
def overlayOver (old : Option Value) (v : Value) : Value :=
  match old with
  | none => v
  | some u => u.overlay v

theorem overlayFields_cons (lower : Entries Value) (key : String) (v : Value) (upper : Entries Value) :
    overlayFields lower ((key, v) :: upper) =
      overlayFields (lower.put key (overlayOver (lower.get? key) v)) upper := by
  rw [overlayFields]
  cases lower.get? key <;> rfl

/-- In `overlayFields`, a key of the upper map has its value laid over the old one, and every other
key what it had. -/
theorem get?_overlayFields (lower : Entries Value) {upper : Entries Value} (h : upper.Distinct)
    (key : String) :
    Entries.get? (overlayFields lower upper) key =
      match upper.get? key with
      | none => lower.get? key
      | some v => some (overlayOver (lower.get? key) v) := by
  induction upper generalizing lower with
  | nil => rw [overlayFields]; rfl
  | cons e upper ih =>
    obtain ⟨k, v⟩ := e
    rw [overlayFields_cons, ih _ h.2, Entries.get?_cons]
    by_cases hk : k = key
    · -- no later field has the key, so that the value that was put first is still there
      subst hk
      rw [h.1, if_pos rfl]
      exact Entries.get?_put_self lower k _
    · rw [Entries.get?_put_of_ne _ _ hk, if_neg hk]

theorem distinct_overlayFields {lower : Entries Value} (h : lower.Distinct) (upper : Entries Value) :
    Entries.Distinct (overlayFields lower upper) := by
  induction upper generalizing lower with
  | nil => rwa [overlayFields]
  | cons e upper ih =>
    rw [overlayFields_cons]
    exact ih (h.put _ _)

/-- `overlay` merges only maps and lists. -/
theorem overlay_of_ne_map (base : Value) {fields : Entries Value} (h : ∀ lower, base ≠ map lower) :
    overlay base (map fields) = map fields := by
  cases base <;> simp_all [overlay]

theorem overlay_of_ne_list (base : Value) {items : List Value} (h : ∀ lower, base ≠ list lower) :
    overlay base (list items) = list items := by
  cases base <;> simp_all [overlay]

/-- What is laid over values that are the same once they are sorted. -/
private def Merges (upper : Value) : Prop :=
  ∀ base base' upper' : Value, base.Sound → base'.Sound → upper'.Sound →
    sorted base = sorted base' → sorted upper = sorted upper' →
      sorted (overlay base upper) = sorted (overlay base' upper')

private theorem sorted_overlayItems {upper : List Value} (hupper : ∀ v ∈ upper, Merges v) :
    ∀ {lower lower' upper' : List Value}, (∀ v ∈ lower, v.Sound) → (∀ v ∈ lower', v.Sound) →
      (∀ v ∈ upper', v.Sound) → lower.map sorted = lower'.map sorted →
      upper.map sorted = upper'.map sorted →
        (overlayItems lower upper).map sorted = (overlayItems lower' upper').map sorted := by
  induction upper with
  | nil =>
    intro lower lower' upper' _ _ _ hlower hsame
    obtain rfl : upper' = [] := List.map_eq_nil_iff.1 hsame.symm
    rwa [overlayItems, overlayItems]
  | cons v upper ih =>
    intro lower lower' upper' hl hl' hu hlower hsame
    obtain ⟨v', upper', rfl, hv, hrest⟩ := List.map_eq_cons_iff.1 hsame.symm
    cases lower with
    | nil =>
      obtain rfl : lower' = [] := List.map_eq_nil_iff.1 hlower.symm
      rw [overlayItems, overlayItems]
      exact hsame
    | cons b lower =>
      obtain ⟨b', lower', rfl, hb, htail⟩ := List.map_eq_cons_iff.1 hlower.symm
      rw [List.forall_mem_cons] at hl hl' hu hupper
      rw [overlayItems, overlayItems, List.map_cons, List.map_cons,
        hupper.1 b b' v' hl.1 hl'.1 hu.1 hb.symm hv.symm,
        ih hupper.2 hl.2 hl'.2 hu.2 htail.symm hrest.symm]

private theorem sorted_overlayFields {upper upper' lower lower' : Entries Value}
    (hmerges : ∀ e ∈ upper, Merges e.2) (hu : upper.Distinct) (hu' : (map upper').Sound)
    (hl : (map lower).Sound) (hl' : (map lower').Sound)
    (hlower : sorted (map lower) = sorted (map lower'))
    (hupper : sorted (map upper) = sorted (map upper')) :
    sorted (map (overlayFields lower upper)) = sorted (map (overlayFields lower' upper')) := by
  have hdl := (sound_map_iff.1 hl).1
  have hdl' := (sound_map_iff.1 hl').1
  have hdu' := (sound_map_iff.1 hu').1
  rw [sorted_map_eq_iff hu hdu'] at hupper
  rw [sorted_map_eq_iff hdl hdl'] at hlower
  refine (sorted_map_eq_iff (distinct_overlayFields hdl _) (distinct_overlayFields hdl' _)).2
    fun key => ?_
  rw [get?_overlayFields lower hu, get?_overlayFields lower' hdu']
  -- on both sides the key has the same in what lies below and in what lies above
  have hkey := hupper key
  have hold := hlower key
  cases hv : upper.get? key with
  | none =>
    rw [hv] at hkey
    rw [Option.map_eq_none_iff.1 hkey.symm]
    exact hold
  | some v =>
    rw [hv] at hkey
    obtain ⟨v', hv', hsame⟩ := Option.map_eq_some_iff.1 hkey.symm
    rw [hv']
    refine congrArg some ?_
    cases hb : lower.get? key with
    | none =>
      rw [hb] at hold
      rw [Option.map_eq_none_iff.1 hold.symm]
      exact hsame.symm
    | some b =>
      rw [hb] at hold
      obtain ⟨b', hb', hbase⟩ := Option.map_eq_some_iff.1 hold.symm
      rw [hb']
      exact hmerges _ (Entries.mem_of_get? hv) b b' v' (sound_of_get? hl hb) (sound_of_get? hl' hb')
        (sound_of_get? hu' hv') hbase.symm hsame.symm

-- the induction is on the upper template, for all that it may be laid over
mutual

private theorem merges : ∀ {upper : Value}, upper.Sound → Merges upper
  | .map fields, h => by
    intro base base' upper' hbase hbase' hu' hsame hupper
    obtain ⟨fields', rfl⟩ := eq_map_of_sorted_eq hupper
    -- a map merges with maps only, and sorting makes no map of anything else
    by_cases hmap : ∃ lower, base = map lower
    · obtain ⟨lower, rfl⟩ := hmap
      obtain ⟨lower', rfl⟩ := eq_map_of_sorted_eq hsame
      obtain ⟨hd, hs⟩ := sound_map_iff.1 h
      simp only [overlay]
      exact sorted_overlayFields (merges_fields fields hs) hd hu' hbase hbase' hsame hupper
    · have hmap' : ∀ lower, base' ≠ map lower := by
        rintro lower rfl
        exact hmap (eq_map_of_sorted_eq hsame.symm)
      rwa [overlay_of_ne_map _ (not_exists.1 hmap), overlay_of_ne_map _ hmap']
  | .list items, h => by
    intro base base' upper' hbase hbase' hu' hsame hupper
    obtain ⟨items', rfl, hitems⟩ := eq_list_of_sorted_eq hupper
    -- so do lists
    by_cases hlist : ∃ lower, base = list lower
    · obtain ⟨lower, rfl⟩ := hlist
      obtain ⟨lower', rfl, hlower⟩ := eq_list_of_sorted_eq hsame
      simp only [overlay, sorted_list, list.injEq]
      exact sorted_overlayItems (merges_items items (soundList_iff.1 h)) (soundList_iff.1 hbase)
        (soundList_iff.1 hbase') (soundList_iff.1 hu') hlower hitems
    · have hlist' : ∀ lower, base' ≠ list lower := by
        rintro lower rfl
        obtain ⟨others, rfl, -⟩ := eq_list_of_sorted_eq hsame.symm
        exact hlist ⟨others, rfl⟩
      rwa [overlay_of_ne_list _ (not_exists.1 hlist), overlay_of_ne_list _ hlist']
  | .null, _ | .bool _, _ | .int _, _ | .real _, _ | .text _, _ => by
    intro base base' upper' _ _ _ _ hupper
    cases upper' <;> simp_all [sorted, overlay]

private theorem merges_fields : ∀ fields : List (String × Value), (∀ e ∈ fields, e.2.Sound) →
    ∀ e ∈ fields, Merges e.2
  | [], _ => fun _ he => nomatch he
  | (_, _) :: fields, h => by
    obtain ⟨hv, hs⟩ := List.forall_mem_cons.1 h
    exact List.forall_mem_cons.2 ⟨merges hv, merges_fields fields hs⟩

private theorem merges_items : ∀ items : List Value, (∀ v ∈ items, v.Sound) →
    ∀ v ∈ items, Merges v
  | [], _ => fun _ hv => nomatch hv
  | _ :: items, h => by
    obtain ⟨hv, hs⟩ := List.forall_mem_cons.1 h
    exact List.forall_mem_cons.2 ⟨merges hv, merges_items items hs⟩

end

/-- Templates may be `sorted` before one is laid over the other. -/
theorem sorted_overlay {base upper : Value} (hbase : base.Sound) (hupper : upper.Sound) :
    sorted (overlay (sorted base) (sorted upper)) = sorted (overlay base upper) :=
  (merges hupper base _ _ hbase (sound_sorted hbase) (sound_sorted hupper) (sorted_sorted base).symm
    (sorted_sorted upper).symm).symm

end Value

end FlinkSteward
