import FlinkSteward.Proofs.Resource.RoundTrip
import FlinkSteward.Validation.Registry

/-!
# Rules always answer

Manifests hold data of any kind where numbers are expected, and options may be null, so that a rule
could fail where it should object. On resources whose numbers are numbers and whose record of what was
last applied is a record, no rule fails: each one accepts or objects, and so does the validator.

## Key results

- `Config.Textual`: configurations whose options are texts or null, with `Textual.overlay`
- `Validation.checkJob_succeeds`, `Validation.checkJobManager_succeeds`,
  `Validation.checkChange_succeeds`: groups of rules
- `Deployment.WellTyped`, `SessionJob.WellTyped`: what is asked of a resource
- `wellTyped_is_judged`: clusters, and jobs on session clusters
-/

namespace FlinkSteward

/-! ## Outcomes -/

/-- An outcome that is no failure. -/
def Outcome.Succeeds {α : Type} (r : Outcome α) : Prop :=
  ∃ x, r = .ok x

namespace Outcome.Succeeds

variable {α β : Type} {r : Outcome α}

theorem ok (x : α) : Succeeds (.ok x) :=
  ⟨x, rfl⟩

theorem bind {f : α → Outcome β} (h : Succeeds r) (hrest : ∀ x, r = .ok x → Succeeds (f x)) :
    Succeeds (r >>= f) := by
  obtain ⟨x, rfl⟩ := h
  exact hrest x rfl

theorem map (h : Succeeds r) (f : α → β) : Succeeds (r.map f) := by
  obtain ⟨x, rfl⟩ := h
  exact .ok (f x)

end Outcome.Succeeds

open Outcome (Succeeds)

/-! ## Configurations of texts -/

namespace Config

/-- `stripped` succeeds on a value that is a text. -/
theorem stripped_succeeds {v : Value} (h : ∃ s, v = .text s) : Succeeds (stripped v) := by
  obtain ⟨s, rfl⟩ := h
  exact .ok _

/-- Every option is a text, or null, or missing. -/
def Textual (c : Config) : Prop :=
  ∀ key, ∃ s, c.value key = Value.ofText? s

namespace Textual

variable {c : Config} (h : c.Textual)

include h

theorem put (key : String) (s : Option String) : Textual (c.put key (Value.ofText? s)) := by
  intro other
  rw [value, Entries.get?_put]
  split
  · exact ⟨s, rfl⟩
  · exact h other

/-- `overlay` with the entries of a manifest, which are texts or null, leaves the options
`Textual`. -/
theorem overlay (entries : Entries (Option String)) : Textual (overlay c entries) := by
  induction entries generalizing c with
  | nil => exact h
  | cons e entries ih => exact ih (h.put e.1 e.2)

theorem isHighlyAvailable_succeeds : Succeeds c.isHighlyAvailable := by
  obtain ⟨s, hs⟩ := h highAvailabilityKey
  rw [isHighlyAvailable, hs]
  -- only what counts as something is stripped, and null does not
  cases s with
  | none => exact .ok _
  | some s =>
    dsimp only
    split
    · exact (stripped_succeeds ⟨s, rfl⟩).bind fun _ _ => .ok _
    · exact .ok _

theorem savepointDirectory_succeeds : Succeeds c.savepointDirectory := by
  obtain ⟨s, hs⟩ := h savepointDirectoryKey
  rw [savepointDirectory, hs]
  cases s with
  | none => exact .ok _
  | some s => exact (stripped_succeeds ⟨s, rfl⟩).map _

end Textual

end Config

/-! ## Rules -/

/-- A job whose parallelism is a number, if there is one. -/
def JobSpec.Numeric (job : JobSpec) : Prop :=
  ∀ v ∈ job.parallelism, v.number?.isSome

/-- `orderedBy` compares numbers with integers. -/
theorem orderedBy_succeeds {v : Value} (h : v.number?.isSome) (relation : String)
    (test : Number → Number → Bool) (n : Int) : Succeeds (orderedBy relation test v n) := by
  obtain ⟨m, hm⟩ := Option.isSome_iff_exists.1 h
  rw [orderedBy, hm]
  exact .ok _

/-- `firstViolation` answers when each of the checks does. -/
theorem firstViolation_succeeds {vs : List Verdict} (h : ∀ v ∈ vs, Succeeds v) :
    Succeeds (firstViolation vs) := by
  induction vs with
  | nil => exact .ok none
  | cons v vs ih =>
    obtain ⟨hv, hvs⟩ := List.forall_mem_cons.1 h
    obtain ⟨answer, rfl⟩ := hv
    cases answer with
    | none => exact ih hvs
    | some violation => exact .ok (some violation)

namespace Validation

variable {conf defaults : Config}

theorem rejectIf_succeeds (bad : Bool) (v : Violation) : Succeeds (rejectIf bad v) :=
  .ok _

theorem checkIfSet_succeeds {α : Type} {part : Option α} {check : α → Verdict}
    (h : ∀ a ∈ part, Succeeds (check a)) : Succeeds (checkIfSet part check) := by
  cases part with
  | none => exact .ok none
  | some a => exact h a rfl

/-- A rule that asks for `isHighlyAvailable` answers on `Textual` options. -/
theorem rejectUnlessAvailable_succeeds (h : conf.Textual) (v : Violation) :
    Succeeds (do rejectIf (!(← conf.isHighlyAvailable)) v) :=
  h.isHighlyAvailable_succeeds.bind fun _ _ => rejectIf_succeeds _ v

/-! ### Specifications -/

theorem checkParallelism_succeeds {job : JobSpec} (h : job.Numeric) :
    Succeeds (checkParallelism job) := by
  rw [checkParallelism]
  cases hp : job.parallelism with
  | none => exact .ok none
  | some p => exact (orderedBy_succeeds (h p hp) _ _ _).bind fun _ _ => rejectIf_succeeds _ _

theorem checkLastState_succeeds (h : conf.Textual) (job : JobSpec) :
    Succeeds (checkLastState job conf) := by
  rw [checkLastState]
  split
  · exact rejectUnlessAvailable_succeeds h _
  · exact .ok none

theorem checkSavepoints_succeeds (h : conf.Textual) (job : JobSpec) :
    Succeeds (checkSavepoints job conf) := by
  refine h.savepointDirectory_succeeds.bind fun directory _ => ?_
  split
  · exact .ok _
  · split <;> exact .ok _

theorem checkJob_succeeds (h : conf.Textual) {job : JobSpec} (hjob : job.Numeric) :
    Succeeds (checkJob job conf) := by
  refine firstViolation_succeeds ?_
  simp only [List.forall_mem_cons]
  exact ⟨rejectIf_succeeds _ _, checkParallelism_succeeds hjob, checkLastState_succeeds h job,
    checkSavepoints_succeeds h job, fun _ hv => nomatch hv⟩

/-- `checkResource` objects to a memory size that cannot be read. -/
theorem checkResource_succeeds (component : String) (resource : Option ResourceSpec) :
    Succeeds (checkResource component resource) := by
  rw [checkResource.eq_def]
  split
  · exact .ok _
  · split
    · exact .ok _
    · split <;> exact .ok _

theorem checkReplicas_succeeds (h : conf.Textual) {spec : JobManagerSpec}
    (hspec : spec.replicas.number?.isSome) : Succeeds (checkReplicas spec conf) := by
  refine (orderedBy_succeeds hspec _ _ _).bind fun below _ => ?_
  cases below with
  | true => exact .ok _
  | false =>
    refine (orderedBy_succeeds hspec _ _ _).bind fun above _ => ?_
    cases above with
    | true => exact rejectUnlessAvailable_succeeds h _
    | false => exact .ok none

theorem checkJobManager_succeeds (h : conf.Textual) {spec : JobManagerSpec}
    (hspec : spec.replicas.number?.isSome) : Succeeds (checkJobManager spec conf) := by
  refine firstViolation_succeeds ?_
  simp only [List.forall_mem_cons]
  exact ⟨checkReplicas_succeeds h hspec, checkResource_succeeds _ _, fun _ hv => nomatch hv⟩

/-- `checkIngress` objects to a template that gives no host. -/
theorem checkIngress_succeeds (spec : IngressSpec) (metadata : Metadata) :
    Succeeds (checkIngress spec metadata) := by
  rw [checkIngress]
  split
  · exact .ok _
  · split
    · exact .ok _
    · split <;> exact .ok _

theorem checkSessionJobSpec_succeeds (h : conf.Textual) {spec : SessionJobSpec}
    (hspec : ∀ job ∈ spec.job, job.Numeric) : Succeeds (checkSessionJobSpec spec conf) := by
  rw [checkSessionJobSpec]
  cases hjob : spec.job with
  | none => exact .ok _
  | some job =>
    refine firstViolation_succeeds ?_
    simp only [List.forall_mem_cons]
    exact ⟨rejectIf_succeeds _ _, checkJob_succeeds h (hspec job hjob), fun _ hv => nomatch hv⟩

/-! ### Changes -/

theorem checkInitialState_succeeds (d : Deployment) : Succeeds (checkInitialState d) := by
  rw [checkInitialState]
  split <;> exact .ok _

theorem checkLastStateKept_succeeds (d : Deployment) (h : conf.Textual) (old new : JobSpec) :
    Succeeds (checkLastStateKept d conf old new) := by
  rw [checkLastStateKept]
  split
  · exact rejectUnlessAvailable_succeeds h _
  · exact .ok none

/-- `isLocated` answers for a savepoint that was read from a manifest, whose location is a text. -/
theorem isLocated_succeeds {savepoint : Savepoint} (h : savepoint.Faithful) :
    Succeeds (isLocated savepoint.location) := by
  unfold isLocated
  cases hlocation : savepoint.location with
  | none => exact .ok false
  | some v =>
    dsimp only
    split
    · exact (Config.stripped_succeeds (h v hlocation)).map _
    · exact .ok false

theorem checkRestore_succeeds {d : Deployment} (h : d.status.job.savepoints.Faithful)
    (old new : JobSpec) : Succeeds (checkRestore d old new) := by
  rw [checkRestore]
  split
  · cases hlast : d.status.job.savepoints.lastSavepoint with
    | none => exact .ok _
    | some savepoint =>
      exact (isLocated_succeeds (h.1 savepoint hlast)).bind fun _ _ => rejectIf_succeeds _ _
  · exact .ok none

theorem checkChangeFrom_succeeds (hdefaults : defaults.Textual) {d : Deployment}
    (h : d.status.job.savepoints.Faithful) (applied : DeploymentSpec) :
    Succeeds (checkChangeFrom defaults d applied) := by
  rw [checkChangeFrom]
  split
  · exact .ok _
  · exact .ok _
  · exact .ok _
  · refine firstViolation_succeeds ?_
    simp only [List.forall_mem_cons]
    exact ⟨checkLastStateKept_succeeds d (hdefaults.overlay _) _ _, checkRestore_succeeds h _ _,
      fun _ hv => nomatch hv⟩

end Validation

/-! ## Records of what was last applied -/

/-- What was last applied is missing, or the text of a specification. -/
def ReconciliationStatus.Recorded {σ : Type} [Spec σ] (Valid : σ → Prop)
    (r : ReconciliationStatus) : Prop :=
  ∀ text ∈ r.lastReconciledSpec, ∃ s : σ, Valid s ∧ text = Spec.serialize s

/-- `lastReconciled` reads back what was `Recorded`. -/
theorem ReconciliationStatus.Recorded.lastReconciled_succeeds {σ : Type} [Spec σ] {Valid : σ → Prop}
    {r : ReconciliationStatus} (h : r.Recorded Valid)
    (hread : ∀ s : σ, Valid s → ∃ t : σ, Spec.deserialize (Spec.serialize s) = .ok t) :
    Succeeds (r.lastReconciled : Outcome (Option σ)) := by
  rw [lastReconciled]
  cases htext : r.lastReconciledSpec with
  | none => exact .ok none
  | some text =>
    obtain ⟨s, hs, rfl⟩ := h text htext
    obtain ⟨t, ht⟩ := hread s hs
    rw [Spec.deserialize?, ht]
    exact .ok (some t)

/-! ## Resources -/

/-- A cluster whose parallelism and replicas are numbers, where they are given, and whose record is
`Recorded`: missing, or the text of a specification. -/
structure Deployment.WellTyped (d : Deployment) : Prop where
  parallelism : ∀ job ∈ d.spec.job, job.Numeric
  replicas : ∀ manager ∈ d.spec.jobManager, manager.replicas.number?.isSome
  recorded : d.status.reconciliation.Recorded DeploymentSpec.Valid

/-- A job on a session cluster whose parallelism is a number, if it is given, and whose record is
`Recorded`: missing, or the text of a specification. -/
structure SessionJob.WellTyped (j : SessionJob) : Prop where
  parallelism : ∀ job ∈ j.spec.job, job.Numeric
  recorded : j.status.reconciliation.Recorded SessionJobSpec.Valid

namespace Validation

variable {defaults : Config}

theorem checkChange_succeeds (hdefaults : defaults.Textual) {d : Deployment} (h : d.WellTyped)
    (hstatus : d.status.Faithful) : Succeeds (checkChange defaults d) := by
  have hlast : Succeeds (d.status.reconciliation.lastReconciled : Outcome (Option DeploymentSpec)) :=
    h.recorded.lastReconciled_succeeds fun s hs => ⟨_, DeploymentSpec.deserialize_serialize hs⟩
  refine hlast.bind fun last _ => ?_
  cases last with
  | none => exact .ok none
  | some applied => exact checkChangeFrom_succeeds hdefaults hstatus.2.2 applied

theorem checkSessionJobChange_succeeds {j : SessionJob} (h : j.WellTyped) :
    Succeeds (checkSessionJobChange j) := by
  have hlast : Succeeds (j.status.reconciliation.lastReconciled : Outcome (Option SessionJobSpec)) :=
    h.recorded.lastReconciled_succeeds fun s hs => ⟨_, SessionJobSpec.deserialize_serialize hs⟩
  refine hlast.bind fun last _ => ?_
  cases last with
  | none => exact .ok none
  | some applied => exact rejectIf_succeeds _ _

theorem validateDeployment_succeeds (hdefaults : defaults.Textual) {d : Deployment}
    (h : d.WellTyped) (hstatus : d.status.Faithful) : Succeeds (validateDeployment defaults d) := by
  have hconf := hdefaults.overlay d.spec.flinkConfiguration
  refine firstViolation_succeeds ?_
  simp only [List.forall_mem_cons]
  refine ⟨rejectIf_succeeds _ _, .ok _, .ok _, ?_, ?_, ?_, ?_, checkInitialState_succeeds d,
    checkChange_succeeds hdefaults h hstatus, fun _ hv => nomatch hv⟩
  · exact checkIfSet_succeeds fun job hjob => checkJob_succeeds hconf (h.parallelism job hjob)
  · exact checkIfSet_succeeds fun spec hspec =>
      checkJobManager_succeeds hconf (h.replicas spec hspec)
  · exact checkIfSet_succeeds fun spec _ => checkResource_succeeds _ spec.resource
  · exact checkIfSet_succeeds fun spec _ => checkIngress_succeeds spec d.metadata

theorem validateSessionJob_succeeds (hdefaults : defaults.Textual) {j : SessionJob}
    (h : j.WellTyped) (session : Option Deployment) :
    Succeeds (validateSessionJob defaults j session) := by
  have hconf : (sessionJobConfig defaults j session).Textual := by
    cases session with
    | none => exact hdefaults.overlay _
    | some d => exact (hdefaults.overlay d.spec.flinkConfiguration).overlay _
  refine firstViolation_succeeds ?_
  simp only [List.forall_mem_cons]
  exact ⟨checkSessionJobSpec_succeeds hconf h.parallelism, checkSessionJobChange_succeeds h,
    checkIfSet_succeeds fun _ _ => rejectIf_succeeds _ _,
    checkIfSet_succeeds fun _ _ => rejectIf_succeeds _ _, fun _ hv => nomatch hv⟩

end Validation

/-- `Validator.builtIn` answers on every resource that was read from a manifest and is `WellTyped`,
whatever its options, sizes, templates, names and savepoints are: it accepts, or it objects with a
message. It does not matter which session cluster a job is judged with. -/
theorem wellTyped_is_judged {defaults : Config} (hdefaults : defaults.Textual) {manifest : Value}
    (hm : manifest.Sound) :
    (∀ d, Deployment.decode manifest = .ok d → d.WellTyped →
      ∃ answer : Option String, (Validator.builtIn defaults).judgeDeployment d = .ok answer) ∧
    (∀ j, SessionJob.decode manifest = .ok j → j.WellTyped → ∀ session : Option Deployment,
      ∃ answer : Option String,
        (Validator.builtIn defaults).judgeSessionJob j session = .ok answer) := by
  refine ⟨fun d hd h => ?_, fun j _ h session => ?_⟩
  · -- what a manifest says of savepoints is text where text is needed
    obtain ⟨r, rfl, -, -, hstatus⟩ := Deployment.decode_eq_ok.1 hd
    have hfaithful := (DeploymentStatus.valid_of_read (sound_manifestPart hm _) hstatus).2
    exact (Validation.validateDeployment_succeeds hdefaults h hfaithful).map _
  · exact (Validation.validateSessionJob_succeeds hdefaults h session).map _

/-- What was last applied to the cluster of `strangeManifest`: a job that is suspended. -/
def suspendedSpec : DeploymentSpec :=
  { job := some { jarUri := some "local:///job.jar", state := some .suspended } }

theorem suspendedSpec_valid : suspendedSpec.Valid :=
  { DeploymentSpec.valid_empty with job := by rintro _ ⟨⟩; exact { JobSpec.valid_empty with } }

/-- A manifest with null options, a truth value for a number, a number for the location of a savepoint,
a size that cannot be read, and a template of no address. -/
def strangeManifest : Value :=
  .map [("metadata", .map [("name", .null), ("namespace", .text "π")]),
    ("spec", .map [
      ("clusterId", .int 3),
      ("flinkVersion", .text "v1_15"),
      ("flinkConfiguration", .map [("high-availability", .null), ("state.savepoints.dir", .null)]),
      ("ingress", .map [("template", .text "http://[")]),
      ("jobManager", .map [("replicas", .bool true),
        ("resource", .map [("memory", .text "1 g²")])]),
      ("job", .map [("jarURI", .text " "), ("parallelism", .text "3"),
        ("upgradeMode", .text "SAVEPOINT")])]),
    ("status", .map [
      ("jobStatus", .map [
        ("savepointInfo", .map [("lastSavepoint", .map [("location", .int 7)])])]),
      ("reconciliationStatus", .map [
        ("lastReconciledSpec", .text (Spec.serialize suspendedSpec))])])]

/-- The job of the manifest. -/
def strangeJob : JobSpec where
  jarUri := some " "
  parallelism := some (.int 3)
  upgradeMode := .savepoint

/-- The manifest as one of a cluster. -/
def strangeDeployment : Deployment where
  metadata := { namespaceName := some "π" }
  spec := {
    flinkVersion := some .v1_15
    flinkConfiguration := [("high-availability", none), ("state.savepoints.dir", none)]
    ingress := some { template := some "http://[" }
    jobManager := some { replicas := .bool true, resource := some { memory := some "1 g²" } }
    job := some strangeJob }
  status := {
    job := { savepoints := { lastSavepoint := some { location := some (.text "7") } } }
    reconciliation := { lastReconciledSpec := some (Spec.serialize suspendedSpec) } }

/-- The manifest as one of a job on a session cluster. -/
def strangeSessionJob : SessionJob where
  metadata := { namespaceName := some "π" }
  spec := {
    clusterId := some "3"
    flinkConfiguration := [("high-availability", none), ("state.savepoints.dir", none)]
    job := some strangeJob }
  status := {
    job := { savepoints := { lastSavepoint := some { location := some (.text "7") } } }
    reconciliation := { lastReconciledSpec := some (Spec.serialize suspendedSpec) } }

theorem strangeDeployment_wellTyped : strangeDeployment.WellTyped where
  parallelism := by rintro _ ⟨⟩ _ ⟨⟩; rfl
  replicas := by rintro _ ⟨⟩; rfl
  recorded text htext := ⟨suspendedSpec, suspendedSpec_valid, (Option.some.inj htext).symm⟩

theorem strangeSessionJob_wellTyped : strangeSessionJob.WellTyped where
  parallelism := by rintro _ ⟨⟩ _ ⟨⟩; rfl
  recorded text htext := by
    -- a job on a session cluster that asks for nothing else has the same text
    have htext' : Spec.serialize suspendedSpec =
        Spec.serialize (σ := SessionJobSpec) { job := suspendedSpec.job } := by decide +kernel
    refine ⟨{ job := suspendedSpec.job }, ?_, (Option.some.inj htext).symm.trans htext'⟩
    exact { SessionJobSpec.valid_empty with job := suspendedSpec_valid.job }

theorem strangeManifest_is_judged :
    Config.Textual [("high-availability", .text "a")] ∧ strangeManifest.Sound ∧
      (Deployment.decode strangeManifest = .ok strangeDeployment ∧ strangeDeployment.WellTyped ∧
        ∃ answer : Option String, (Validator.builtIn [("high-availability", .text "a")]).judgeDeployment
          strangeDeployment = .ok answer) ∧
      SessionJob.decode strangeManifest = .ok strangeSessionJob ∧ strangeSessionJob.WellTyped ∧
        ∀ session : Option Deployment, ∃ answer : Option String,
          (Validator.builtIn [("high-availability", .text "a")]).judgeSessionJob strangeSessionJob
            session = .ok answer := by
  have hdefaults : Config.Textual [("high-availability", .text "a")] :=
    Config.Textual.put (c := []) (fun _ => ⟨none, rfl⟩) "high-availability" (some "a")
  have hm : strangeManifest.Sound := by
    simp [strangeManifest, Value.Sound, Value.SoundFields, Entries.get?]
  have hd : Deployment.decode strangeManifest = .ok strangeDeployment := by decide +kernel
  have hj : SessionJob.decode strangeManifest = .ok strangeSessionJob := by decide +kernel
  have hjudged := wellTyped_is_judged hdefaults hm
  exact ⟨hdefaults, hm,
    ⟨hd, strangeDeployment_wellTyped, hjudged.1 _ hd strangeDeployment_wellTyped⟩,
    hj, strangeSessionJob_wellTyped, hjudged.2 _ hj strangeSessionJob_wellTyped⟩

end FlinkSteward
