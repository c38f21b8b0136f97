import FlinkSteward.Proofs.Json.Sound
import FlinkSteward.Proofs.Manage.Overridden
import FlinkSteward.Proofs.Value.Patch
import FlinkSteward.Proofs.Value.Path

/-!
# Manifests with patches

Where the values of a patch are, and what else stays. A patch puts at a place what it has there, unless
that is a map that meets another map, into which it leads further. What stands apart from all that is
put is as before, and a patch that was made already changes nothing.

## Key results

- `Value.child?_patch_of_some`, `Value.child?_patch_of_none`: one step into a patched value
- `Value.sound_patch`, `Value.patch_patch`: no key is repeated, and one patch is enough
- `Value.atPath?_patch_of_puts`, `Value.atPath?_patch_of_apart`: what a patch puts, and what it spares
- `Value.patched_patch`: all of it together
-/

namespace FlinkSteward.Value

variable {base p u w : Value} {s : Step} {place path : List Step}

/-! ## Values that merge -/

/-- A value with entries. -/
def IsMap (v : Value) : Prop :=
  ∃ fields : Entries Value, v = map fields

theorem not_isMap_null : ¬ null.IsMap := fun ⟨_, h⟩ => nomatch h

theorem not_isMap_text (s : String) : ¬ (text s).IsMap := fun ⟨_, h⟩ => nomatch h

theorem patch_of_not_isMap (base : Value) (h : ¬ p.IsMap) : base.patch p = p :=
  patch_of_not_map base p fun fields hp => h ⟨fields, hp⟩

/-- A `patch` of what is no map is the patch itself. -/
theorem patch_of_not_isMap_left (p : Value) (h : ¬ base.IsMap) : base.patch p = p := by
  cases p with
  | map changes =>
    cases base with
    | map fields => exact absurd ⟨fields, rfl⟩ h
    | _ => simp [patch]
  | _ => simp [patch]

/-- Where there is nothing, `patchOver` patches null. -/
theorem patchOver_eq (old : Option Value) (v : Value) :
    patchOver old v = (old.getD null).patch v := by
  cases old with
  | none => exact (patch_of_not_isMap_left v not_isMap_null).symm
  | some u => rfl

/-- A `patch` with a map is a map. -/
theorem isMap_patch (base : Value) (hp : p.IsMap) : (base.patch p).IsMap := by
  obtain ⟨changes, rfl⟩ := hp
  by_cases h : base.IsMap
  · obtain ⟨fields, rfl⟩ := h
    exact ⟨_, patch_map fields changes⟩
  · exact ⟨changes, patch_of_not_isMap_left _ h⟩

/-! ## One step into a patched value -/

/-- Where the patch has something, `patch` makes it on top of what was there. -/
theorem child?_patch_of_some (base : Value) (hp : p.Sound) (hmap : p.IsMap)
    (hw : p.child? s = some w) :
    (base.patch p).child? s = some (((base.child? s).getD null).patch w) := by
  obtain ⟨changes, rfl⟩ := hmap
  cases s with
  | item i => exact nomatch hw
  | key name =>
    have hget : changes.get? name = some w := hw
    by_cases hbase : base.IsMap
    · obtain ⟨fields, rfl⟩ := hbase
      rw [patch_map, child?, get?_patchFields fields (sound_map_iff.1 hp).1, hget]
      exact congrArg some (patchOver_eq _ w)
    · -- the patch is all there is, and what has no entries leads to nothing
      have hnone : base.child? (.key name) = none := by
        cases base with
        | map fields => exact absurd ⟨fields, rfl⟩ hbase
        | _ => rfl
      rw [patch_of_not_isMap_left _ hbase, hw, hnone, Option.getD_none,
        patch_of_not_isMap_left w not_isMap_null]

/-- Where the patch has nothing, `patch` leaves what was there before in a map. -/
theorem child?_patch_of_none (hp : p.Sound) (hmap : p.IsMap) (hs : p.child? s = none)
    (hbase : base.IsMap ∨ base.child? s = none) : (base.patch p).child? s = base.child? s := by
  obtain ⟨changes, rfl⟩ := hmap
  by_cases hfields : base.IsMap
  · obtain ⟨fields, rfl⟩ := hfields
    rw [patch_map]
    cases s with
    | item i => rfl
    | key name =>
      have hget : changes.get? name = none := hs
      rw [child?, get?_patchFields fields (sound_map_iff.1 hp).1, hget]
      rfl
  · rw [patch_of_not_isMap_left _ hfields, hs, hbase.resolve_left hfields]

/-! ## Patches of sound values -/

private theorem sound_patchFields {fields changes : Entries Value} (hfields : (map fields).Sound)
    (h : ∀ e ∈ changes, e.2.Sound ∧ ∀ old : Value, old.Sound → (old.patch e.2).Sound) :
    (map (patchFields fields changes)).Sound := by
  induction changes generalizing fields with
  | nil => rwa [patchFields]
  | cons e changes ih =>
    obtain ⟨⟨he, hpatch⟩, hrest⟩ := List.forall_mem_cons.1 h
    rw [patchFields_cons]
    refine ih (sound_map_put hfields e.1 ?_) hrest
    cases hget : fields.get? e.1 with
    | none => exact he
    | some old => exact hpatch old (sound_of_get? hfields hget)

/-- `patch` repeats no key. -/
theorem sound_patch {base p : Value} (hp : p.Sound) (hbase : base.Sound) :
    (base.patch p).Sound := by
  by_cases hmap : p.IsMap
  · by_cases hfields : base.IsMap
    · obtain ⟨changes, rfl⟩ := hmap
      obtain ⟨fields, rfl⟩ := hfields
      obtain ⟨hd, hs⟩ := sound_map_iff.1 hp
      rw [patch_map]
      refine sound_patchFields hbase fun e he => ⟨hs e he, fun old hold => ?_⟩
      have hchild : (map changes).child? (.key e.1) = some e.2 := hd.get?_of_mem he
      have := sizeOf_lt_of_child? hchild
      exact sound_patch (hs e he) hold
    · rwa [patch_of_not_isMap_left _ hfields]
  · rwa [patch_of_not_isMap _ hmap]
termination_by sizeOf p

/-- `patch` changes nothing where everything in the patch is there already. -/
theorem patch_eq_self (hp : p.Sound) (hmap : p.IsMap) (hbase : base.IsMap)
    (h : ∀ s w, p.child? s = some w → ∃ old, base.child? s = some old ∧ old.patch w = old) :
    base.patch p = base := by
  obtain ⟨changes, rfl⟩ := hmap
  obtain ⟨fields, rfl⟩ := hbase
  rw [patch_map, patchFields_eq_self]
  exact fun e he => h (.key e.1) e.2 ((sound_map_iff.1 hp).1.get?_of_mem he)

/-- The same `patch` changes nothing the second time. -/
theorem patch_patch {p : Value} (hp : p.Sound) (base : Value) :
    (base.patch p).patch p = base.patch p := by
  by_cases hmap : p.IsMap
  · refine patch_eq_self hp hmap (isMap_patch base hmap) fun s w hw => ?_
    -- what the patch leads to has been made on top of what was there, and changes it no more
    have := sizeOf_lt_of_child? hw
    exact ⟨_, child?_patch_of_some base hp hmap hw, patch_patch (sound_of_child? hp hw) _⟩
  · rw [patch_of_not_isMap _ hmap, patch_of_not_isMap _ hmap]
termination_by sizeOf p

/-! ## Places that are put -/

/-- What a patch puts at a place: it is no map, or there is no map that it could merge with. -/
def Puts (base p : Value) (place : List Step) (u : Value) : Prop :=
  p.atPath? place = some u ∧ (u.IsMap → ∀ b, base.atPath? place = some b → ¬ b.IsMap)

/-- Only a map that meets a map is not put (`Puts`). -/
theorem isMap_of_not_puts (h : ¬ Puts base p [] p) : p.IsMap ∧ base.IsMap := by
  by_contra hmaps
  refine h ⟨rfl, fun hp b hb hbase => hmaps ⟨hp, ?_⟩⟩
  exact Option.some.inj hb ▸ hbase

theorem puts_null (w : Value) : Puts null w [] w :=
  ⟨rfl, fun _ _ hb => Option.some.inj hb ▸ not_isMap_null⟩

/-- What a patch `Puts` behind a step is put into what the step leads to. -/
theorem puts_cons_iff (hw : p.child? s = some w) :
    Puts base p (s :: place) u ↔ Puts ((base.child? s).getD null) w place u := by
  rw [Puts, Puts, atPath?_cons, atPath?_cons, hw, Option.bind_some]
  refine and_congr_right fun _ => imp_congr_right fun _ => ?_
  cases base.child? s with
  | some b => rfl
  | none =>
    -- neither nothing nor null has a map at any place
    refine iff_of_true nofun fun b hb => ?_
    cases place with
    | nil => exact Option.some.inj hb ▸ not_isMap_null
    | cons t place => cases t <;> exact nomatch hb

/-- What a patch `Puts` is there. -/
theorem atPath?_patch_of_puts (hp : p.Sound) (h : Puts base p place u) :
    (base.patch p).atPath? place = some u := by
  induction place generalizing base p with
  | nil =>
    obtain rfl := Option.some.inj h.1
    by_cases hmap : p.IsMap
    · rw [patch_of_not_isMap_left p (h.2 hmap base rfl)]
      rfl
    · rw [patch_of_not_isMap base hmap]
      rfl
  | cons s place ih =>
    by_cases hmap : p.IsMap
    · obtain ⟨w, hw, -⟩ := Option.bind_eq_some_iff.1 h.1
      rw [atPath?_cons, child?_patch_of_some base hp hmap hw]
      exact ih (sound_of_child? hp hw) ((puts_cons_iff hw).1 h)
    · rw [patch_of_not_isMap base hmap]
      exact h.1

/-- A patch that `Puts` nothing changes nothing. -/
theorem patch_of_not_puts {base p : Value} (hp : p.Sound) (h : ∀ place u, ¬ Puts base p place u) :
    base.patch p = base := by
  obtain ⟨hmap, hbase⟩ := isMap_of_not_puts (h [] p)
  refine patch_eq_self hp hmap hbase fun s w hw => ?_
  have hbehind : ∀ place u, ¬ Puts ((base.child? s).getD null) w place u :=
    fun place u hput => h (s :: place) u ((puts_cons_iff hw).2 hput)
  cases hold : base.child? s with
  | none =>
    rw [hold] at hbehind
    exact absurd (puts_null w) (hbehind [] w)
  | some old =>
    rw [hold] at hbehind
    have := sizeOf_lt_of_child? hw
    exact ⟨old, rfl, patch_of_not_puts (sound_of_child? hp hw) hbehind⟩
termination_by sizeOf p

/-- What is `Apart` from everything that a patch `Puts` is as before. -/
theorem atPath?_patch_of_apart (hp : p.Sound)
    (h : ∀ place u, Puts base p place u → Apart path place) :
    (base.patch p).atPath? path = base.atPath? path := by
  induction path generalizing base p with
  | nil =>
    -- every place is inside of the root
    rw [patch_of_not_puts hp fun place u hput => (h place u hput).1 List.nil_prefix]
  | cons s path ih =>
    obtain ⟨hmap, hbase⟩ := isMap_of_not_puts fun hput => (h [] p hput).2 List.nil_prefix
    rw [atPath?_cons, atPath?_cons]
    cases hw : p.child? s with
    | none => rw [child?_patch_of_none hp hmap hw (.inl hbase)]
    | some w =>
      rw [child?_patch_of_some base hp hmap hw]
      have hbehind : ∀ place u, Puts ((base.child? s).getD null) w place u → Apart path place :=
        fun place u hput => apart_cons_iff.1 (h (s :: place) u ((puts_cons_iff hw).2 hput))
      cases hold : base.child? s with
      | none =>
        rw [hold] at hbehind
        exact absurd List.nil_prefix (hbehind [] w (puts_null w)).2
      | some old =>
        rw [hold] at hbehind
        exact ih (sound_of_child? hp hw) hbehind

/-! ## The law of patches -/

/-- What a value has become by `Value.patch`. -/
structure Patched (base p result : Value) : Prop where
  /-- Everything in the patch that is no map is there. -/
  holds : ∀ place u, p.atPath? place = some u → ¬ u.IsMap → result.atPath? place = some u
  /-- So is a map where there was no map before. -/
  fills : ∀ place u, p.atPath? place = some u → (∀ b, base.atPath? place = some b → ¬ b.IsMap) →
    result.atPath? place = some u
  /-- What is apart from all that is put is as before. -/
  keeps : ∀ path, (∀ place u, Puts base p place u → Apart path place) →
    result.atPath? path = base.atPath? path
  /-- The same patch changes nothing any more. -/
  again : result.patch p = result

theorem patched_patch (base : Value) (hp : p.Sound) : Patched base p (base.patch p) where
  holds _ _ hu hmap := atPath?_patch_of_puts hp ⟨hu, fun h => absurd h hmap⟩
  fills _ _ hu hbase := atPath?_patch_of_puts hp ⟨hu, fun _ => hbase⟩
  keeps _ := atPath?_patch_of_apart hp
  again := patch_patch hp base

end FlinkSteward.Value
