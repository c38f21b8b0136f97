import FlinkSteward.Proofs.Value.Overlay
import FlinkSteward.Value.Path

/-!
# Places in merged templates

A path leads into a value by the keys of maps and the places of lists. What stands at a path after one
template was laid over another is known from what stands on the way to it in both of them: maps and
lists merge with their like, the upper template wins everywhere else, and nothing of either is lost.

## Key results

- `Value.child?_overlay`: one step into merged templates
- `Value.overlay_overlay`: a template that was laid over another one already
- `templates_merge`: what stands at every path, and the laws that follow
-/

namespace FlinkSteward.Value

/-! ## Values that merge -/

/-- Two values merge when both are maps, or both are lists. -/
inductive Merge : Value → Value → Prop where
  /-- Maps merge key by key. -/
  | maps (lower upper : Entries Value) : Merge (map lower) (map upper)
  /-- Lists merge place by place. -/
  | lists (lower upper : List Value) : Merge (list lower) (list upper)

/-- Values that a step leads into, both of them, `Merge`. -/
theorem merge_of_child? {base upper b u : Value} {s : Step} (hbase : base.child? s = some b)
    (hupper : upper.child? s = some u) : Merge base upper := by
  cases base <;> cases s <;> simp only [child?, reduceCtorEq] at hbase <;>
    cases upper <;> simp only [child?, reduceCtorEq] at hupper
  · exact .lists _ _
  · exact .maps _ _

/-! ## One step into merged templates -/

/-- `overlay` replaces what does not `Merge`. -/
theorem overlay_of_not_merge {base upper : Value} (h : ¬ Merge base upper) :
    overlay base upper = upper := by
  cases upper with
  | map fields =>
    apply overlay_of_ne_map
    rintro lower rfl
    exact h (.maps lower fields)
  | list items =>
    apply overlay_of_ne_list
    rintro lower rfl
    exact h (.lists lower items)
  | _ => simp [overlay]

@[simp] theorem overlay_null_left (v : Value) : overlay null v = v :=
  overlay_of_not_merge nofun

/-- `overlayOver` takes nothing below like null below. -/
theorem overlayOver_eq (old : Option Value) (v : Value) :
    overlayOver old v = overlay (old.getD null) v := by
  cases old <;> simp [overlayOver]

@[simp] theorem overlayItems_nil_left (items : List Value) : overlayItems [] items = items := by
  cases items <;> simp [overlayItems]

theorem getElem?_overlayItems (lower upper : List Value) (i : Nat) :
    (overlayItems lower upper)[i]? =
      match upper[i]? with
      | none => lower[i]?
      | some v => some (overlayOver lower[i]? v) := by
  induction upper generalizing lower i with
  | nil => simp [overlayItems]
  | cons v upper ih =>
    cases lower with
    | nil =>
      rw [overlayItems_nil_left]
      cases (v :: upper)[i]? <;> simp [overlayOver]
    | cons b lower =>
      rw [overlayItems]
      cases i with
      | zero => simp [overlayOver]
      | succ i => simpa using ih lower i

/-- A step into `overlay` of values that `Merge` leads to what is above laid over what is below. -/
theorem child?_overlay {base upper : Value} (h : Merge base upper) (hupper : upper.Sound) (s : Step) :
    (overlay base upper).child? s =
      match upper.child? s with
      | none => base.child? s
      | some v => some (overlayOver (base.child? s) v) := by
  cases h with
  | maps lower fields =>
    rw [overlay]
    cases s with
    | key name => exact get?_overlayFields lower (sound_map_iff.1 hupper).1 name
    | item i => rfl
  | lists lower items =>
    rw [overlay]
    cases s with
    | key name => rfl
    | item i => exact getElem?_overlayItems lower items i

theorem sound_of_child? {v w : Value} (h : v.Sound) {s : Step} (hw : v.child? s = some w) :
    w.Sound := by
  cases v with
  | map fields =>
    cases s with
    | key name => exact sound_of_get? h hw
    | item i => exact nomatch hw
  | list items =>
    cases s with
    | key name => exact nomatch hw
    | item i => exact soundList_iff.1 h w (List.mem_of_getElem? hw)
  | _ => cases s <;> exact nomatch hw

theorem sizeOf_lt_of_child? {v w : Value} {s : Step} (hw : v.child? s = some w) :
    sizeOf w < sizeOf v := by
  cases v with
  | map fields =>
    cases s with
    | key name =>
      have hmem := List.sizeOf_lt_of_mem (Entries.mem_of_get? hw)
      simp only [Prod.mk.sizeOf_spec, map.sizeOf_spec] at hmem ⊢
      omega
    | item i => exact nomatch hw
  | list items =>
    cases s with
    | key name => exact nomatch hw
    | item i =>
      have hmem := List.sizeOf_lt_of_mem (List.mem_of_getElem? hw)
      simp only [list.sizeOf_spec]
      omega
  | _ => cases s <;> exact nomatch hw

/-! ## What was laid over already -/

private theorem overlayFields_eq_self {m upper : Entries Value}
    (h : ∀ e ∈ upper, ∃ old, m.get? e.1 = some old ∧ overlay old e.2 = old) :
    overlayFields m upper = m := by
  induction upper with
  | nil => rw [overlayFields]
  | cons e upper ih =>
    obtain ⟨⟨old, hget, hold⟩, hrest⟩ := List.forall_mem_cons.1 h
    rw [overlayFields_cons, hget, overlayOver, hold, Entries.put_get? hget]
    exact ih hrest

private theorem overlayItems_eq_self {m upper : List Value}
    (h : ∀ (i : Nat) v, upper[i]? = some v → ∃ old, m[i]? = some old ∧ overlay old v = old) :
    overlayItems m upper = m := by
  apply List.ext_getElem?
  intro i
  rw [getElem?_overlayItems]
  cases hv : upper[i]? with
  | none => rfl
  | some v =>
    obtain ⟨old, hget, hold⟩ := h i v hv
    simp only [hget, overlayOver, hold]

/-- `overlay` changes nothing where everything in the template is there already. -/
private theorem overlay_eq_self {m upper : Value} (h : Merge m upper) (hupper : upper.Sound)
    (hsteps : ∀ s v, upper.child? s = some v → ∃ old, m.child? s = some old ∧ overlay old v = old) :
    overlay m upper = m := by
  cases h with
  | maps lower fields =>
    rw [overlay, overlayFields_eq_self]
    intro e he
    exact hsteps (.key e.1) e.2 ((sound_map_iff.1 hupper).1.get?_of_mem he)
  | lists lower items =>
    rw [overlay, overlayItems_eq_self]
    intro i v hv
    exact hsteps (.item i) v hv

/-- The same `overlay` changes nothing the second time. -/
theorem overlay_overlay {upper : Value} (hupper : upper.Sound) (base : Value) :
    overlay (overlay base upper) upper = overlay base upper := by
  -- what the template leads to in one step changes nothing the second time, by induction
  have hchild : ∀ s v, upper.child? s = some v → ∀ b, overlay (overlay b v) v = overlay b v := by
    intro s v hv b
    have := sizeOf_lt_of_child? hv
    exact overlay_overlay (sound_of_child? hupper hv) b
  by_cases h : Merge base upper
  · have hagain : Merge (overlay base upper) upper := by
      cases h <;> rw [overlay] <;> constructor
    apply overlay_eq_self hagain hupper
    intro s v hv
    refine ⟨_, by rw [child?_overlay h hupper, hv], ?_⟩
    rw [overlayOver_eq]
    exact hchild s v hv _
  · rw [overlay_of_not_merge h]
    by_cases hself : Merge upper upper
    · apply overlay_eq_self hself hupper
      intro s v hv
      -- over nothing at all, what is laid over once is the template itself
      exact ⟨v, hv, by simpa using hchild s v hv null⟩
    · exact overlay_of_not_merge hself
termination_by sizeOf upper

/-! ## Paths into merged templates -/

/-- What stands in the upper template is in the `overlay` as it is, where nothing below merges with
it. -/
theorem atPath?_overlay_of_upper {path : List Step} : ∀ {base upper u : Value}, upper.Sound →
    upper.atPath? path = some u → (∀ b, base.atPath? path = some b → ¬ Merge b u) →
      (overlay base upper).atPath? path = some u := by
  induction path with
  | nil =>
    intro base upper u _ hu hbase
    obtain rfl := Option.some.inj hu
    rw [overlay_of_not_merge (hbase base rfl)]
    rfl
  | cons s path ih =>
    intro base upper u hupper hu hbase
    by_cases h : Merge base upper
    · rw [atPath?_cons] at hu
      obtain ⟨w, hw, hu⟩ := Option.bind_eq_some_iff.1 hu
      rw [atPath?_cons, child?_overlay h hupper, hw, Option.bind_some, overlayOver_eq]
      apply ih (sound_of_child? hupper hw) hu
      intro b hb
      cases hs : base.child? s with
      | some c =>
        rw [hs] at hb
        exact hbase b (by rw [atPath?_cons, hs]; exact hb)
      | none =>
        -- below there is nothing, like a null: no path leads into it, and it merges with nothing
        rw [hs, Option.getD_none] at hb
        cases path with
        | nil =>
          obtain rfl := Option.some.inj hb
          exact nofun
        | cons t path => cases t <;> exact nomatch hb
    · rwa [overlay_of_not_merge h]

/-- Where the upper template ends inside values that `Merge`, what stands below stays. -/
theorem atPath?_overlay_of_base {front : List Step} {s : Step} {rest : List Step} :
    ∀ {base upper b u : Value}, upper.Sound → base.atPath? front = some b →
      upper.atPath? front = some u → Merge b u → u.child? s = none →
        (overlay base upper).atPath? (front ++ s :: rest) = base.atPath? (front ++ s :: rest) := by
  induction front with
  | nil =>
    intro base upper b u hupper hb hu h hs
    obtain rfl := Option.some.inj hb
    obtain rfl := Option.some.inj hu
    rw [List.nil_append, atPath?_cons, atPath?_cons, child?_overlay h hupper, hs]
  | cons t front ih =>
    intro base upper b u hupper hb hu h hs
    rw [atPath?_cons] at hb hu
    obtain ⟨c, hc, hb⟩ := Option.bind_eq_some_iff.1 hb
    obtain ⟨w, hw, hu⟩ := Option.bind_eq_some_iff.1 hu
    rw [List.cons_append, atPath?_cons, atPath?_cons,
      child?_overlay (merge_of_child? hc hw) hupper, hw, hc, Option.bind_some, Option.bind_some,
      overlayOver_eq, Option.getD_some]
    exact ih (sound_of_child? hupper hw) hb hu h hs

/-- Every path into the `overlay` is one into the template above or into the one below. -/
theorem atPath?_overlay_ne_none {path : List Step} : ∀ {base upper : Value}, upper.Sound →
    (overlay base upper).atPath? path ≠ none →
      base.atPath? path ≠ none ∨ upper.atPath? path ≠ none := by
  induction path with
  | nil =>
    intro base upper _ _
    exact .inl nofun
  | cons s path ih =>
    intro base upper hupper hpath
    by_cases h : Merge base upper
    · rw [atPath?_cons, child?_overlay h hupper] at hpath
      rw [atPath?_cons, atPath?_cons]
      -- one step in, there is a part of one template, or two that are laid together
      cases hw : upper.child? s with
      | none =>
        rw [hw] at hpath
        exact .inl hpath
      | some w =>
        rw [hw] at hpath
        cases hc : base.child? s with
        | none =>
          rw [hc] at hpath
          exact .inr hpath
        | some c =>
          rw [hc] at hpath
          exact ih (sound_of_child? hupper hw) hpath
    · rw [overlay_of_not_merge h] at hpath
      exact .inr hpath

/-! ## Two templates in one -/

/-- A template laid over another one; null stands for no template. -/
def merged (base upper : Value) : Value :=
  ofOption (overlay? base.nonNull? upper.nonNull?)

theorem merged_null_right (base : Value) : merged base null = base := by
  cases base <;> rfl

theorem merged_of_ne {base upper : Value} (h : upper ≠ null) :
    merged base upper = overlay base upper := by
  rw [merged, nonNull?_of_ne h]
  cases base <;> simp [nonNull?, overlay?, ofOption]

/-- A value that no path leads into. -/
def IsScalar : Value → Prop
  | list _ | map _ => False
  | _ => True

theorem IsScalar.not_merge {b u : Value} (h : u.IsScalar) : ¬ Merge b u := by
  rintro (_ | _) <;> exact h

/-- What stands at which path, in the `result` that two templates were merged into. -/
structure Combines (base upper result : Value) : Prop where
  /-- Where the upper template has a scalar, so has the result. -/
  scalar : ∀ path u, upper.atPath? path = some u → u.IsScalar → path ≠ [] ∨ u ≠ null →
    result.atPath? path = some u
  /-- Where the upper template has a key or place less than a map or list below, that one counts. -/
  kept : ∀ front s rest b u, base.atPath? front = some b → upper.atPath? front = some u →
    Merge b u → u.child? s = none →
      result.atPath? (front ++ s :: rest) = base.atPath? (front ++ s :: rest)
  /-- There is nothing that neither template has. -/
  nothing_new : ∀ path, result.atPath? path ≠ none →
    base.atPath? path ≠ none ∨ upper.atPath? path ≠ none
  /-- Where the two do not merge, or there is nothing below, everything above is in the result. -/
  whole : ∀ path u, upper.atPath? path = some u → (∀ b, base.atPath? path = some b → ¬ Merge b u) →
    path ≠ [] ∨ u ≠ null → result.atPath? path = some u

theorem combines_merged (base : Value) {upper : Value} (hupper : upper.Sound) :
    Combines base upper (merged base upper) := by
  by_cases hnull : upper = null
  · subst hnull
    rw [merged_null_right]
    -- the one path into null is the empty one, where null does not count
    have hroot : ∀ path u, null.atPath? path = some u → path = [] ∧ u = null := by
      intro path u hu
      cases path with
      | nil => exact ⟨rfl, (Option.some.inj hu).symm⟩
      | cons s path => cases s <;> exact nomatch hu
    constructor
    · intro path u hu _ hne
      obtain ⟨rfl, rfl⟩ := hroot path u hu
      simp at hne
    · intros
      rfl
    · exact fun _ h => .inl h
    · intro path u hu _ hne
      obtain ⟨rfl, rfl⟩ := hroot path u hu
      simp at hne
  · rw [merged_of_ne hnull]
    constructor
    · exact fun path u hu hs _ => atPath?_overlay_of_upper hupper hu fun _ _ => hs.not_merge
    · exact fun front s rest b u hb hu h hs => atPath?_overlay_of_base hupper hb hu h hs
    · exact fun path h => atPath?_overlay_ne_none hupper h
    · exact fun path u hu hbase _ => atPath?_overlay_of_upper hupper hu hbase

theorem merged_self {v : Value} (h : v.Sound) : merged v v = v := by
  by_cases hnull : v = null
  · subst hnull
    rfl
  · rw [merged_of_ne hnull]
    simpa using overlay_overlay h null

theorem merged_merged (base : Value) {upper : Value} (hupper : upper.Sound) :
    merged (merged base upper) upper = merged base upper := by
  by_cases hnull : upper = null
  · subst hnull
    rw [merged_null_right]
  · rw [merged_of_ne hnull, merged_of_ne hnull]
    exact overlay_overlay hupper base

theorem merged_null_left (upper : Value) : merged null upper = upper := by
  cases upper <;> rfl

end Value

open Value

/-- `merged` templates are `Combines`: nothing of either template is lost, and the upper one wins, at
every path. Merging a template with itself, or with one that it was merged with before, changes
nothing, and neither does null. -/
theorem templates_merge {base upper : Value} (hbase : base.Sound) (hupper : upper.Sound) :
    Combines base upper (merged base upper) ∧
      merged base base = base ∧
      merged (merged base upper) upper = merged base upper ∧
      merged null upper = upper ∧
      merged base null = base :=
  ⟨combines_merged base hupper, merged_self hbase, merged_merged base hupper,
    merged_null_left upper, merged_null_right base⟩

/-- A container that gets an image, in a list whose second item stays. -/
theorem templates_merge_containers :
    let base := map [("kind", .text "Pod"),
      ("containers", .list [map [("name", .text "main")], .text "side"])]
    let upper := map [("containers", .list [map [("image", .text "flink:1.15")]])]
    let result := map [("kind", .text "Pod"), ("containers",
      .list [map [("name", .text "main"), ("image", .text "flink:1.15")], .text "side"])]
    merged base upper = result ∧ Combines base upper result ∧ merged result upper = result := by
  intro base upper result
  have hresult : merged base upper = result := by decide
  have hbase : base.Sound := by simp [base, Sound, SoundFields, SoundList, Entries.get?]
  have hupper : upper.Sound := by simp [upper, Sound, SoundFields, SoundList, Entries.get?]
  obtain ⟨hcombines, -, hagain, -, -⟩ := templates_merge hbase hupper
  rw [hresult] at hcombines hagain
  exact ⟨hresult, hcombines, hagain⟩

end FlinkSteward
