import FlinkSteward.Manage.Folder
import FlinkSteward.Manage.Override
import FlinkSteward.Proofs.Resource.Spec
import Mathlib.Data.List.Induction

/-!
# Manifests with overrides

Where the value of an override is, and what else stays. A path holds the value of its override unless
a later override writes at a place that leads to it or into it, and a place stays as it is when it is
apart from all places that are written. Those are the paths of the overrides, and for a map that is
shared the same keys in its other places. A map can be shared inside of the manifest alone: the values of
overrides are data of their own.

## Key results

- `Value.atPath?_putAt_self`, `Value.atPath?_putAt_of_apart`: one value that is put
- `Manifest.overrideOne_holds`, `Manifest.overrideOne_spares`: one override
- `Manifest.Writes`: the places that overrides write at
- `Manifest.override_obeys`: all overrides
-/

namespace FlinkSteward

/-! ## One value that is put -/

namespace Value

variable {v v' u w x : Value} {s t : Step} {front place : List Step} {key : String}

/-- Neither of two paths is a prefix of the other: it neither leads to it nor into it. -/
def Apart (p q : List Step) : Prop :=
  ¬ p <+: q ∧ ¬ q <+: p

theorem apart_cons_iff {p q : List Step} : Apart (s :: p) (s :: q) ↔ Apart p q := by
  simp [Apart, List.cons_prefix_cons]

/-- What `enter` leads to is there, or it is a new map. -/
theorem enter_eq_ok (h : v.enter s = .ok u) :
    v.child? s = some u ∨ v.child? s = none ∧ u = map [] := by
  cases v with
  | map fields =>
    cases s with
    | key name =>
      obtain rfl := Except.ok.inj h
      cases hget : Entries.get? fields name with
      | none => exact .inr ⟨hget, rfl⟩
      | some u => exact .inl hget
    -- a map has no items, and a list has no keys
    | item i => exact nomatch h
  | list items =>
    cases s with
    | key name => exact nomatch h
    | item i =>
      cases hget : items[i]? with
      | none => simp [enter, hget] at h
      | some u' =>
        simp only [enter, hget, Option.elim_some, Except.ok.injEq] at h
        exact .inl (h ▸ hget)
  | _ => cases s <;> exact nomatch h

theorem child?_setChild_self (h : v.enter s = .ok u) (w : Value) :
    (v.setChild s w).child? s = some w := by
  cases v with
  | map fields =>
    cases s with
    | key name => exact Entries.get?_put_self fields name w
    | item i => exact nomatch h
  | list items =>
    cases s with
    | key name => exact nomatch h
    | item i =>
      -- the item is there, since it was entered
      obtain hchild | ⟨hchild, -⟩ := enter_eq_ok h
      · have hi : i < items.length := (List.getElem?_eq_some_iff.1 hchild).1
        exact List.getElem?_set_self hi
      · have hchild : items[i]? = none := hchild
        simp [enter, hchild] at h
  | _ => cases s <;> exact nomatch h

theorem child?_setChild_of_ne (h : s ≠ t) (v w : Value) :
    (v.setChild s w).child? t = v.child? t := by
  cases v with
  | map fields =>
    cases s with
    | key name =>
      cases t with
      | key other => exact Entries.get?_put_of_ne fields w fun heq => h (congrArg Step.key heq)
      | item i => rfl
    | item i => rfl
  | list items =>
    cases s with
    | key name => rfl
    | item i =>
      cases t with
      | key other => rfl
      | item j => exact List.getElem?_set_ne fun heq => h (congrArg Step.item heq)
  | _ => cases s <;> rfl

/-- `putField` is `setChild` in a map that can be entered. -/
theorem putField_eq_ok (h : v.putField key x = .ok v') :
    v' = v.setChild (.key key) x ∧ ∃ u, v.enter (.key key) = .ok u := by
  cases v with
  | map fields => exact ⟨(Except.ok.inj h).symm, _, rfl⟩
  | _ => exact nomatch h

/-- After `putAt`, the value that was put is there. -/
theorem atPath?_putAt_self (h : v.putAt front key x = .ok v') :
    v'.atPath? (front ++ [.key key]) = some x := by
  induction front generalizing v v' with
  | nil =>
    obtain ⟨rfl, u, henter⟩ := putField_eq_ok h
    rw [List.nil_append, atPath?_cons, child?_setChild_self henter]
    rfl
  | cons s front ih =>
    obtain ⟨u, henter, hrest⟩ := Outcome.bind_eq_ok.1 h
    obtain ⟨inner, hinner, hlast⟩ := Outcome.bind_eq_ok.1 hrest
    obtain rfl := Except.ok.inj hlast
    rw [List.cons_append, atPath?_cons, child?_setChild_self henter]
    exact ih hinner

/-- Nothing leads into a map without entries. -/
theorem atPath?_empty (hplace : place ≠ []) : (map []).atPath? place = none := by
  cases place with
  | nil => contradiction
  | cons s place => cases s <;> rfl

/-- Places `Apart` from where `putAt` has put a value are as before. -/
theorem atPath?_putAt_of_apart (h : v.putAt front key x = .ok v')
    (hplace : Apart place (front ++ [.key key])) : v'.atPath? place = v.atPath? place := by
  induction front generalizing v v' place with
  | nil =>
    obtain ⟨rfl, -⟩ := putField_eq_ok h
    cases place with
    | nil => exact absurd List.nil_prefix hplace.1
    | cons t place =>
      have hne : Step.key key ≠ t := by
        rintro rfl
        exact hplace.2 (List.cons_prefix_cons.2 ⟨rfl, List.nil_prefix⟩)
      rw [atPath?_cons, atPath?_cons, child?_setChild_of_ne hne]
  | cons s front ih =>
    obtain ⟨u, henter, hrest⟩ := Outcome.bind_eq_ok.1 h
    obtain ⟨inner, hinner, hlast⟩ := Outcome.bind_eq_ok.1 hrest
    obtain rfl := Except.ok.inj hlast
    cases place with
    | nil => exact absurd List.nil_prefix hplace.1
    | cons t place =>
      by_cases hst : s = t
      · subst hst
        have hapart : Apart place (front ++ [.key key]) := apart_cons_iff.1 hplace
        rw [atPath?_cons, atPath?_cons, child?_setChild_self henter, Option.bind_some,
          ih hinner hapart]
        obtain hchild | ⟨hchild, rfl⟩ := enter_eq_ok henter
        · rw [hchild, Option.bind_some]
        · -- where nothing was, nothing is beside what was put
          rw [hchild, Option.bind_none, atPath?_empty]
          rintro rfl
          exact hapart.1 List.nil_prefix
      · rw [atPath?_cons, atPath?_cons, child?_setChild_of_ne hst]

/-- What keys lead to something all stand in maps. -/
theorem exists_map_of_atPath?_keys {keys rest : List String} {key : String}
    (h : v.atPath? ((keys ++ key :: rest).map .key) = some x) :
    ∃ fields, v.atPath? (keys.map .key) = some (map fields) := by
  induction keys generalizing v with
  | nil =>
    cases v with
    | map fields => exact ⟨fields, rfl⟩
    | _ => exact nomatch h
  | cons name keys ih =>
    rw [List.cons_append, List.map_cons, atPath?_cons] at h
    obtain ⟨w, hw, hrest⟩ := Option.bind_eq_some_iff.1 h
    rw [List.map_cons, atPath?_cons, hw]
    exact ih hrest

/-! ## One value in several places -/

/-- Paths that end alike are `Apart` when their fronts are. -/
theorem apart_concat {p q : List Step} (hpq : p <+: q → p = q) (hqp : q <+: p → q = p)
    (hne : p ≠ q) (s : Step) : Apart (p ++ [s]) (q ++ [s]) := by
  have hfront : ∀ {p q : List Step}, p ++ [s] <+: q ++ [s] → p <+: q := by
    intro p q h
    refine List.prefix_of_prefix_length_le ((List.prefix_append p [s]).trans h)
      (List.prefix_append q [s]) ?_
    simpa using h.length_le
  exact ⟨fun h => hne (hpq (hfront h)), fun h => hne (hqp (hfront h)).symm⟩

variable {fronts : List (List Step)}

theorem foldlM_putAt_spares (h : fronts.foldlM (fun v front => v.putAt front key x) v = .ok v')
    (hplace : ∀ front ∈ fronts, Apart place (front ++ [.key key])) :
    v'.atPath? place = v.atPath? place := by
  induction fronts generalizing v with
  | nil =>
    obtain rfl := Except.ok.inj h
    rfl
  | cons front fronts ih =>
    rw [List.foldlM_cons] at h
    obtain ⟨u, hput, hrest⟩ := Outcome.bind_eq_ok.1 h
    obtain ⟨hfront, hfronts⟩ := List.forall_mem_cons.1 hplace
    rw [ih hrest hfronts, atPath?_putAt_of_apart hput hfront]

/-- A value that `putAt` has put into several places, none of which is inside of another, is in all of
them. -/
theorem foldlM_putAt_holds (h : fronts.foldlM (fun v front => v.putAt front key x) v = .ok v')
    (hfronts : ∀ p ∈ fronts, ∀ q ∈ fronts, p <+: q → p = q) (hfront : front ∈ fronts) :
    v'.atPath? (front ++ [.key key]) = some x := by
  -- from the last place on: what is put later is apart, or it is put into the same place
  induction fronts using List.reverseRecOn generalizing v' with
  | nil => exact nomatch hfront
  | append_singleton fronts last ih =>
    rw [List.foldlM_append] at h
    obtain ⟨u, hbefore, hrest⟩ := Outcome.bind_eq_ok.1 h
    rw [List.foldlM_cons] at hrest
    obtain ⟨u', hput, hlast⟩ := Outcome.bind_eq_ok.1 hrest
    obtain rfl := Except.ok.inj hlast
    by_cases heq : front = last
    · rw [heq]
      exact atPath?_putAt_self hput
    · have hearlier : front ∈ fronts := by simpa [heq] using hfront
      rw [atPath?_putAt_of_apart hput (apart_concat (hfronts _ hfront _ (by simp))
        (hfronts _ (by simp) _ hfront) heq _)]
      exact ih hbefore (fun p hp q hq => hfronts p (by simp [hp]) q (by simp [hq])) hearlier

end Value

/-! ## One override -/

namespace Manifest

open Value

variable {m m' : Manifest} {path : String} {x : Value} {place : List Step}

/-- The path of an override in steps. -/
def pathOf (path : String) : List Step :=
  (keysOf path).map .key

/-- What stands at a path is in the `placesOf` it, too. -/
theorem reverse_mem_placesOf (m : Manifest) (back : List Step) : back.reverse ∈ m.placesOf back := by
  induction back with
  | nil => exact List.mem_singleton.2 rfl
  | cons s back ih =>
    rw [placesOf]
    split
    · rename_i shared hfind
      simpa using List.find?_some hfind
    · rw [List.reverse_cons]
      exact List.mem_map_of_mem ih

/-- Of the `placesOf` one thing, none is inside of another. -/
theorem placesOf_apart (m : Manifest) (back : List Step) :
    ∀ p ∈ m.placesOf back, ∀ q ∈ m.placesOf back, p <+: q → p = q := by
  induction back with
  | nil =>
    intro p hp q hq _
    rw [List.mem_singleton.1 hp, List.mem_singleton.1 hq]
  | cons s back ih =>
    rw [placesOf]
    split
    · exact SharedMap.apart _
    · intro _ hpath _ hother h
      obtain ⟨p, hp, rfl⟩ := List.mem_map.1 hpath
      obtain ⟨q, hq, rfl⟩ := List.mem_map.1 hother
      by_contra hne
      exact (apart_concat (ih p hp q hq) (ih q hq p hp) (fun heq => hne (heq ▸ rfl)) s).1 h

/-- `keysOf` a path end in a key. -/
theorem exists_keysOf_reverse (path : String) : ∃ key back, (keysOf path).reverse = key :: back := by
  refine List.exists_cons_of_ne_nil fun h => keysOf_ne_nil path ?_
  simpa using h

section Keys

variable {key : String} {back : List String}

theorem pathOf_eq (h : (keysOf path).reverse = key :: back) :
    pathOf path = (back.map Step.key).reverse ++ [.key key] := by
  rw [pathOf, ← List.reverse_reverse (keysOf path), h]
  simp

theorem written_eq (m : Manifest) (h : (keysOf path).reverse = key :: back) :
    m.written path = (m.placesOf (back.map .key)).map (· ++ [.key key]) := by
  rw [written, h]

/-- `overrideOne` puts its value under its last key, everywhere where the map around it stands. -/
theorem overrideOne_eq_ok (hkeys : (keysOf path).reverse = key :: back)
    (h : m.overrideOne path x = .ok m') :
    (m.placesOf (back.map .key)).foldlM (fun v front => v.putAt front key x) m.value =
        .ok m'.value ∧
      m'.shared = m.shared.map (·.outside (m.written path)) := by
  rw [overrideOne, hkeys] at h
  obtain ⟨v, hfold, hlast⟩ := Outcome.bind_eq_ok.1 h
  obtain rfl := Except.ok.inj hlast
  exact ⟨hfold, rfl⟩

end Keys

theorem pathOf_mem_written (m : Manifest) (path : String) : pathOf path ∈ m.written path := by
  obtain ⟨key, back, hkeys⟩ := exists_keysOf_reverse path
  rw [written_eq m hkeys, pathOf_eq hkeys]
  exact List.mem_map_of_mem (reverse_mem_placesOf m _)

/-- After `overrideOne` its value is in all the places `written`. -/
theorem overrideOne_holds (h : m.overrideOne path x = .ok m') (hplace : place ∈ m.written path) :
    m'.value.atPath? place = some x := by
  obtain ⟨key, back, hkeys⟩ := exists_keysOf_reverse path
  rw [written_eq m hkeys] at hplace
  obtain ⟨front, hfront, rfl⟩ := List.mem_map.1 hplace
  exact foldlM_putAt_holds (overrideOne_eq_ok hkeys h).1 (m.placesOf_apart _) hfront

/-- `overrideOne` leaves all places that are `Apart` from those. -/
theorem overrideOne_spares (h : m.overrideOne path x = .ok m')
    (hplace : ∀ w ∈ m.written path, Apart place w) :
    m'.value.atPath? place = m.value.atPath? place := by
  obtain ⟨key, back, hkeys⟩ := exists_keysOf_reverse path
  rw [written_eq m hkeys, List.forall_mem_map] at hplace
  exact foldlM_putAt_spares (overrideOne_eq_ok hkeys h).1 hplace

/-! ## All overrides -/

/-- The places that overrides write at (`written`), one after the other. -/
inductive Writes : Manifest → Entries Value → List Step → Prop where
  /-- The first override writes there. -/
  | first {m : Manifest} {path : String} {x : Value} {rest : Entries Value} {place : List Step}
    (h : place ∈ m.written path) : Writes m ((path, x) :: rest) place
  /-- A later one does. -/
  | later {m next : Manifest} {path : String} {x : Value} {rest : Entries Value}
    {place : List Step} (hone : m.overrideOne path x = .ok next) (h : Writes next rest place) :
    Writes m ((path, x) :: rest) place

theorem overridden_cons {rest : Entries Value} :
    m.overridden ((path, x) :: rest) = .ok m' ↔
      ∃ next, m.overrideOne path x = .ok next ∧ next.overridden rest = .ok m' := by
  rw [overridden, List.foldlM_cons, Outcome.bind_eq_ok]
  rfl

theorem overridden_append {before after : Entries Value} :
    m.overridden (before ++ after) = .ok m' ↔
      ∃ mid, m.overridden before = .ok mid ∧ mid.overridden after = .ok m' := by
  rw [overridden, List.foldlM_append, Outcome.bind_eq_ok]
  rfl

/-- `overridden` leaves all places that are `Apart` from those that it `Writes` at. -/
theorem overridden_spares {overrides : Entries Value} (h : m.overridden overrides = .ok m')
    (hplace : ∀ w, m.Writes overrides w → Apart place w) :
    m'.value.atPath? place = m.value.atPath? place := by
  induction overrides generalizing m with
  | nil =>
    obtain rfl := Except.ok.inj h
    rfl
  | cons e rest ih =>
    obtain ⟨next, hone, hrest⟩ := overridden_cons.1 h
    rw [ih hrest fun w hw => hplace w (.later hone hw),
      overrideOne_spares hone fun w hw => hplace w (.first hw)]

/-! ## Manifests in which nothing is shared -/

theorem written_of_unshared (h : m.shared = []) (path : String) :
    m.written path = [pathOf path] := by
  obtain ⟨key, back, hkeys⟩ := exists_keysOf_reverse path
  have hplaces : ∀ back : List Step, m.placesOf back = [back.reverse] := by
    intro back
    induction back with
    | nil => rfl
    | cons s back ih => simp [placesOf, h, ih]
  rw [written_eq m hkeys, hplaces, pathOf_eq hkeys]
  rfl

theorem overrideOne_unshared (h : m.shared = []) (hone : m.overrideOne path x = .ok m') :
    m'.shared = [] := by
  obtain ⟨key, back, hkeys⟩ := exists_keysOf_reverse path
  rw [(overrideOne_eq_ok hkeys hone).2, h]
  rfl

/-- Without maps that are shared, overrides write at their own paths. -/
theorem Writes.exists_of_unshared {overrides : Entries Value} (h : m.Writes overrides place)
    (hm : m.shared = []) : ∃ e ∈ overrides, place = pathOf e.1 := by
  induction h with
  | first hplace =>
    rw [written_of_unshared hm] at hplace
    exact ⟨_, List.mem_cons_self, List.mem_singleton.1 hplace⟩
  | later hone _ ih =>
    obtain ⟨e, he, hplace⟩ := ih (overrideOne_unshared hm hone)
    exact ⟨e, List.mem_cons_of_mem _ he, hplace⟩

theorem overridden_unshared {overrides : Entries Value} (h : m.shared = [])
    (hrun : m.overridden overrides = .ok m') : m'.shared = [] := by
  induction overrides generalizing m with
  | nil =>
    obtain rfl := Except.ok.inj hrun
    exact h
  | cons e rest ih =>
    obtain ⟨next, hone, hrest⟩ := overridden_cons.1 hrun
    exact ih (overrideOne_unshared h hone) hrest

/-! ## The law of overrides -/

/-- What `Manifest.override` makes of a manifest. -/
structure Obeys (m : Manifest) (overrides : Entries Value) (v : Value) : Prop where
  /-- The value of an override is put at its path, with maps on the way there. It is in all places
  that the override writes at, and stays in those that are apart from where later ones write. -/
  holds : ∀ before path x after, overrides = before ++ (path, x) :: after →
    ∃ mid next, m.overridden before = .ok mid ∧ mid.overrideOne path x = .ok next ∧
      pathOf path ∈ mid.written path ∧
      (∀ keys, keys <+: keysOf path → keys ≠ keysOf path →
        ∃ fields, next.value.atPath? (keys.map .key) = some (.map fields)) ∧
      ∀ place ∈ mid.written path, next.value.atPath? place = some x ∧
        ((∀ w, next.Writes after w → Apart place w) → v.atPath? place = some x)
  /-- Places that are apart from where overrides write are as before. -/
  spares : ∀ place, (∀ w, m.Writes overrides w → Apart place w) →
    v.atPath? place = m.value.atPath? place
  /-- Where no map is shared, overrides write at their own paths. Their values are data of their own. -/
  unshared : m.shared = [] →
    (∀ before path x after, overrides = before ++ (path, x) :: after →
      (∀ e ∈ after, Apart (pathOf path) (pathOf e.1)) → v.atPath? (pathOf path) = some x) ∧
    ∀ place, (∀ e ∈ overrides, Apart place (pathOf e.1)) →
      v.atPath? place = m.value.atPath? place

/-- `Manifest.override` `Obeys` its overrides: every one of them puts its value where it says, and
nothing else changes. -/
theorem override_obeys {overrides : Entries Value} {v : Value} (h : m.override overrides = .ok v) :
    m.Obeys overrides v := by
  obtain ⟨last, hrun, rfl⟩ := Outcome.map_eq_ok.1 h
  -- a run of overrides goes through the state before each of them and the one after it
  have hparts : ∀ {before path x after}, overrides = before ++ (path, x) :: after →
      ∃ mid next, m.overridden before = .ok mid ∧ mid.overrideOne path x = .ok next ∧
        next.overridden after = .ok last := by
    rintro before path x after rfl
    obtain ⟨mid, hbefore, hrest⟩ := overridden_append.1 hrun
    obtain ⟨next, hone, hafter⟩ := overridden_cons.1 hrest
    exact ⟨mid, next, hbefore, hone, hafter⟩
  have hspares : ∀ place, (∀ w, m.Writes overrides w → Apart place w) →
      last.value.atPath? place = m.value.atPath? place := fun _ => overridden_spares hrun
  refine ⟨fun before path x after hsplit => ?_, hspares, fun hm => ⟨?_, ?_⟩⟩
  · obtain ⟨mid, next, hbefore, hone, hafter⟩ := hparts hsplit
    have hown := pathOf_mem_written mid path
    refine ⟨mid, next, hbefore, hone, hown, fun keys hkeys hne => ?_, fun place hplace => ?_⟩
    · obtain ⟨_ | ⟨key, rest⟩, hrest⟩ := hkeys
      · exact absurd (by simpa using hrest) hne
      · have hheld := overrideOne_holds hone hown
        rw [pathOf, ← hrest] at hheld
        exact exists_map_of_atPath?_keys hheld
    · have hheld := overrideOne_holds hone hplace
      exact ⟨hheld, fun hlater => by rw [overridden_spares hafter hlater, hheld]⟩
  · -- where nothing is shared, only overrides of a later path can reach the place
    intro before path x after hsplit hlater
    obtain ⟨mid, next, hbefore, hone, hafter⟩ := hparts hsplit
    have hnext := overrideOne_unshared (overridden_unshared hm hbefore) hone
    rw [overridden_spares hafter, overrideOne_holds hone (pathOf_mem_written mid path)]
    intro w hw
    obtain ⟨e, he, rfl⟩ := hw.exists_of_unshared hnext
    exact hlater e he
  · intro place hplace
    refine hspares place fun w hw => ?_
    obtain ⟨e, he, rfl⟩ := hw.exists_of_unshared hm
    exact hplace e he

/-- A folder with a manifest in which JobManagers and TaskManagers ask for the same. -/
def sharingFolder : Folder :=
  [("shared.yaml",
    "spec: \x7bjobManager: \x7bresource: &r \x7bmemory: 1g\x7d\x7d, taskManager: \x7bresource: *r\x7d\x7d")]

/-- More memory for the TaskManagers. -/
def memoryOverrides : Entries Value :=
  [("spec.taskManager.resource.memory", .text "4g")]

/-- More memory for the JobManagers is more memory for the TaskManagers, too. -/
theorem sharingFolder_override_obeys :
    ∃ m v, sharingFolder.manifest "shared.yaml" = .ok m ∧ m.override memoryOverrides = .ok v ∧
      m.value.atPath? (pathOf "spec.jobManager.resource.memory") = some (.text "1g") ∧
      v.atPath? (pathOf "spec.jobManager.resource.memory") = some (.text "4g") ∧
      v.atPath? (pathOf "spec.taskManager.resource.memory") = some (.text "4g") := by
  have hread : (sharingFolder.manifest "shared.yaml" >>= fun m =>
      (m.override memoryOverrides).map fun _ =>
        (m.value.atPath? (pathOf "spec.jobManager.resource.memory"),
          m.written "spec.taskManager.resource.memory")) =
      .ok (some (.text "1g"), [pathOf "spec.jobManager.resource.memory",
        pathOf "spec.taskManager.resource.memory"]) := by decide +kernel
  obtain ⟨m, hm, hrest⟩ := Outcome.bind_eq_ok.1 hread
  obtain ⟨v, hv, hfacts⟩ := Outcome.map_eq_ok.1 hrest
  obtain ⟨hbefore, hwritten⟩ := Prod.mk.inj hfacts
  have hheld : ∀ place ∈ m.written "spec.taskManager.resource.memory",
      v.atPath? place = some (.text "4g") := by
    obtain ⟨mid, next, hmid, -, -, -, hplaces⟩ := (override_obeys hv).holds [] _ _ [] rfl
    obtain rfl := Except.ok.inj hmid
    intro place hplace
    -- there is no later override
    exact (hplaces place hplace).2 fun w hw => nomatch hw
  rw [hwritten] at hheld
  exact ⟨m, v, hm, hv, hbefore, hheld _ (by simp), hheld _ (by simp)⟩

end Manifest

end FlinkSteward
