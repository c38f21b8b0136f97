import FlinkSteward.Proofs.Resource.RoundTrip
import FlinkSteward.Proofs.Value.Overlay
import FlinkSteward.Value.Path

/-!
# Values in another order

Two values that differ in the order of the entries of their maps alone, at any depth. They are the same
once their maps are sorted, and so are specifications that are written as such values.

## Key results

- `Value.Reordered`: the closure of putting the entries of one map in another order
- `Value.Reordered.sorted_eq`: reordered values are the same once they are sorted
- `DeploymentSpec.ordered_eq_of_reordered`, `DeploymentSpec.serialize_eq_of_reordered`:
  specifications
-/

namespace FlinkSteward

/-! ## Values in another order -/

namespace Value

/-- The second value has the entries of some of its maps in another order, and is the same otherwise.
The maps may stand anywhere: in lists, and in other maps. -/
inductive Reordered : Value → Value → Prop where
  /-- Nothing is in another order. -/
  | refl (v : Value) : Reordered v v
  /-- Two changes of order, one after the other. -/
  | trans {u v w : Value} (h : Reordered u v) (h' : Reordered v w) : Reordered u w
  /-- The entries of a map are put in another order. -/
  | entries {m n : Entries Value} (h : m.Perm n) : Reordered (map m) (map n)
  /-- An item of a list is reordered. -/
  | item (before after : List Value) {v w : Value} (h : Reordered v w) :
    Reordered (list (before ++ v :: after)) (list (before ++ w :: after))
  /-- The value of an entry is reordered. -/
  | field (before after : Entries Value) (key : String) {v w : Value} (h : Reordered v w) :
    Reordered (map (before ++ (key, v) :: after)) (map (before ++ (key, w) :: after))

namespace Reordered

variable {v w : Value}

theorem sound (h : v.Reordered w) (hv : v.Sound) : w.Sound := by
  induction h with
  | refl => exact hv
  | trans _ _ ih ih' => exact ih' (ih hv)
  | entries hperm =>
    obtain ⟨hdistinct, hvalues⟩ := sound_map_iff.1 hv
    exact sound_map_iff.2 ⟨hdistinct.perm hperm, fun e he => hvalues e (hperm.symm.subset he)⟩
  | item before after _ ih =>
    rw [Sound, soundList_iff, List.forall_mem_append, List.forall_mem_cons] at hv ⊢
    exact ⟨hv.1, ih hv.2.1, hv.2.2⟩
  | field before after key _ ih =>
    rw [sound_map_iff, Entries.distinct_iff_nodup, List.forall_mem_append,
      List.forall_mem_cons] at hv ⊢
    obtain ⟨hkeys, hbefore, hvalue, hafter⟩ := hv
    -- the keys are the same
    refine ⟨?_, hbefore, ih hvalue, hafter⟩
    simpa [Entries.keys] using hkeys

/-- `Reordered` values are the same once they are `Json.sorted`. -/
theorem sorted_eq (h : v.Reordered w) (hv : v.Sound) : Json.sorted v = Json.sorted w := by
  induction h with
  | refl => rfl
  | trans h _ ih ih' => exact (ih hv).trans (ih' (h.sound hv))
  | entries hperm =>
    have hdistinct := (sound_map_iff.1 hv).1
    refine (Json.sorted_map_eq_iff hdistinct (hdistinct.perm hperm)).2 fun key => ?_
    rw [hdistinct.get?_of_perm hperm]
  | item before after _ ih =>
    rw [Sound, soundList_iff, List.forall_mem_append, List.forall_mem_cons] at hv
    simp only [Json.sorted_list, List.map_append, List.map_cons, ih hv.2.1]
  | field before after key _ ih =>
    have hvalue := (sound_map_iff.1 hv).2 _ (List.mem_append_right before List.mem_cons_self)
    simp only [Json.sorted_map, Entries.mapValues, List.map_append, List.map_cons, ih hvalue]

end Reordered

end Value

/-! ## Specifications in order -/

/-- What stands in an entry of a `sorted` map is what stands in that of the map, but sorted. -/
theorem Json.child?_sorted_build (fields : List (Entries Value)) (key : String) :
    (sorted (Record.build fields)).child? (.key key) =
      (Entries.get? fields.flatten key).map sorted := by
  rw [Record.build, sorted_map, Value.child?, Entries.get?_sorted, Entries.get?_mapValues]

/-- Records that are the same once they are `sorted` have the same entries, but for the order within. -/
theorem Json.get?_of_sorted_build {fields others : List (Entries Value)}
    (h : sorted (Record.build fields) = sorted (Record.build others)) (key : String) :
    (Entries.get? fields.flatten key).map sorted = (Entries.get? others.flatten key).map sorted := by
  rw [← Json.child?_sorted_build, ← Json.child?_sorted_build, h]

section Parts

variable {α β : Type} {f : α → β} {o p : Option α}

/-- Parts that are there or not alike, and that agree once a default is filled in, agree as they are. -/
theorem Record.map_eq_of_getD {default : α} (hset : o.isSome = p.isSome)
    (h : f (o.getD default) = f (p.getD default)) : o.map f = p.map f := by
  cases o with
  | none =>
    cases p with
    | none => rfl
    | some b => cases hset
  | some a =>
    cases p with
    | none => cases hset
    | some b => exact congrArg some h

/-- Parts agree that are written alike, if that decides about them. -/
theorem Record.map_eq_of_written {write : α → Value}
    (h : (o.map write).map Json.sorted = (p.map write).map Json.sorted)
    (hf : ∀ a ∈ o, ∀ b ∈ p, Json.sorted (write a) = Json.sorted (write b) → f a = f b) :
    o.map f = p.map f := by
  cases o with
  | none =>
    cases p with
    | none => rfl
    | some b => cases h
  | some a =>
    cases p with
    | none => cases h
    | some b => exact congrArg some (hf a rfl b rfl (Option.some.inj h))

end Parts

namespace JobManagerSpec

/-- How the JobManager runs, with its maps in the order of their keys and nothing filled in. -/
def ordered (s : JobManagerSpec) : JobManagerSpec :=
  { s.arrange .sorted with resource := s.resource.map (ResourceSpec.arrange .sorted) }

/-- What `encode` writes, but for the order of entries, decides about everything but that order. -/
theorem ordered_eq {a b : JobManagerSpec} (ha : a.Valid) (hb : b.Valid)
    (h : Json.sorted a.encode = Json.sorted b.encode) : a.ordered = b.ordered := by
  have halike : a.arrange .sorted = b.arrange .sorted := content.arrange_eq_of_write ha hb h
  have hset : a.resource.isSome = b.resource.isSome := by
    simpa using congrArg Option.isSome (Json.get?_of_sorted_build h "resource")
  have hresource := Record.map_eq_of_getD (f := ResourceSpec.arrange .sorted) hset
    (Option.some.inj (congrArg JobManagerSpec.resource halike))
  rw [ordered, ordered, halike, hresource]

end JobManagerSpec

namespace TaskManagerSpec

/-- How TaskManagers run, with their maps in the order of their keys and nothing filled in. -/
def ordered (s : TaskManagerSpec) : TaskManagerSpec :=
  { s.arrange .sorted with resource := s.resource.map (ResourceSpec.arrange .sorted) }

/-- What `encode` writes, but for the order of entries, decides about everything but that order. -/
theorem ordered_eq {a b : TaskManagerSpec} (ha : a.Valid) (hb : b.Valid)
    (h : Json.sorted a.encode = Json.sorted b.encode) : a.ordered = b.ordered := by
  have halike : a.arrange .sorted = b.arrange .sorted := content.arrange_eq_of_write ha hb h
  have hset : a.resource.isSome = b.resource.isSome := by
    simpa using congrArg Option.isSome (Json.get?_of_sorted_build h "resource")
  have hresource := Record.map_eq_of_getD (f := ResourceSpec.arrange .sorted) hset
    (Option.some.inj (congrArg TaskManagerSpec.resource halike))
  rw [ordered, ordered, halike, hresource]

end TaskManagerSpec

namespace JobSpec

/-- A job with its maps in the order of their keys and nothing filled in. -/
def ordered (s : JobSpec) : JobSpec :=
  { s.arrange .sorted with state := s.state }

/-- What `encode` writes, but for the order of entries, decides about everything but that order. -/
theorem ordered_eq {a b : JobSpec} (ha : a.Valid) (hb : b.Valid)
    (h : Json.sorted a.encode = Json.sorted b.encode) : a.ordered = b.ordered := by
  have halike : a.arrange .sorted = b.arrange .sorted := content.arrange_eq_of_write ha hb h
  have hset : a.state.isSome = b.state.isSome := by
    simpa using congrArg Option.isSome (Json.get?_of_sorted_build h "state")
  have hstate := Record.map_eq_of_getD (f := id) hset
    (Option.some.inj (congrArg JobSpec.state halike))
  rw [Option.map_id_fun, id, id] at hstate
  rw [ordered, ordered, halike, hstate]

end JobSpec

namespace DeploymentSpec

variable {a b : DeploymentSpec}

/-- A specification with its maps in the order of their keys and nothing filled in. -/
def ordered (s : DeploymentSpec) : DeploymentSpec :=
  { s.sorted with
    jobManager := s.jobManager.map JobManagerSpec.ordered,
    taskManager := s.taskManager.map TaskManagerSpec.ordered,
    job := s.job.map JobSpec.ordered }

/-- Specifications that are written as `Reordered` values are `Alike`. -/
theorem alike_of_reordered (ha : a.Valid) (hb : b.Valid) (h : a.encode.Reordered b.encode) :
    a.Alike b := by
  exact content.arrange_eq_of_write ha hb (h.sorted_eq (content.sound_write ha))

/-- Specifications that are written as `Reordered` values are the same once `ordered`, with nothing
filled in on either side. -/
theorem ordered_eq_of_reordered (ha : a.Valid) (hb : b.Valid) (h : a.encode.Reordered b.encode) :
    a.ordered = b.ordered := by
  have hsorted : Json.sorted a.encode = Json.sorted b.encode :=
    h.sorted_eq (content.sound_write ha)
  have halike : a.sorted = b.sorted := alike_of_reordered ha hb h
  have hparts := Json.get?_of_sorted_build hsorted
  have hmanager : a.jobManager.map JobManagerSpec.ordered = b.jobManager.map JobManagerSpec.ordered :=
    Record.map_eq_of_written (by simpa using hparts "jobManager") fun m hm n hn =>
      JobManagerSpec.ordered_eq (ha.jobManager m hm) (hb.jobManager n hn)
  have hworkers :
      a.taskManager.map TaskManagerSpec.ordered = b.taskManager.map TaskManagerSpec.ordered :=
    Record.map_eq_of_written (by simpa using hparts "taskManager") fun m hm n hn =>
      TaskManagerSpec.ordered_eq (ha.taskManager m hm) (hb.taskManager n hn)
  have hjob : a.job.map JobSpec.ordered = b.job.map JobSpec.ordered :=
    Record.map_eq_of_written (by simpa using hparts "job") fun m hm n hn =>
      JobSpec.ordered_eq (ha.job m hm) (hb.job n hn)
  rw [ordered, ordered, halike, hmanager, hworkers, hjob]

/-- `Spec.serialize` writes `Reordered` specifications as one text. -/
theorem serialize_eq_of_reordered (ha : a.Valid) (h : a.encode.Reordered b.encode) :
    Spec.serialize a = Spec.serialize b := by
  have hsorted : Json.sorted a.encode = Json.sorted b.encode :=
    h.sorted_eq (content.sound_write ha)
  exact congrArg (fun v => String.ofList (Json.compact v)) hsorted

end DeploymentSpec

end FlinkSteward
