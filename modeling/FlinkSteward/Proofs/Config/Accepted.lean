import FlinkSteward.Config.Effective
import FlinkSteward.Proofs.Action
import FlinkSteward.Proofs.Entries
import FlinkSteward.Proofs.Resource.Spec

/-!
# Configurations of what is accepted

The rules look at most of what the configuration of a cluster is made of: where one of its steps
needs a number or a text, a rule has asked for one. They leave out the processors, which have to
stand for doubles. Numbers that are written out, or read from the configuration as `Integer.ofText?`
does, may have any number of digits here.

## Key results

- `Action.Ends`: an action whose outcome is known but for its result, with rules for `pure` and `bind`
- `DeploymentSpec.processors`: the processors that a specification sets
- `effective_ends_of_accepted`: how the configuration of an accepted cluster comes out
-/

namespace FlinkSteward

/-! ## Outcomes but for their results -/

/-- An outcome but for its result: success, or the failure. -/
def Outcome.ending {α : Type} (r : Outcome α) : Outcome Unit :=
  r.map fun _ => ()

/-- An action that ends (`Outcome.ending`) in one way on every state. -/
def Action.Ends {σ α : Type} (a : Action σ α) (e : Outcome Unit) : Prop :=
  ∀ s, Outcome.ending (a.runOn s).1 = e

namespace Action.Ends

variable {σ α β : Type}

theorem pure (a : α) : (pure a : Action σ α).Ends (.ok ()) :=
  fun _ => rfl

theorem ofOutcome (r : Outcome α) : (Action.ofOutcome r : Action σ α).Ends r.ending :=
  fun _ => rfl

/-- `a >>= f` ends as `a` if that fails, and else as `f`. -/
theorem bind {a : Action σ α} {f : α → Action σ β} {e e' : Outcome Unit} (ha : a.Ends e)
    (hf : ∀ x, (f x).Ends e') : (a >>= f).Ends (e >>= fun _ => e') := by
  intro s
  rw [← ha s, runOn_bind]
  rcases a.runOn s with ⟨f' | x, t⟩
  · rfl
  · exact hf x t

/-- Behind an action that succeeds, `f` decides. -/
theorem bind_ok {a : Action σ α} {f : α → Action σ β} {e : Outcome Unit} (ha : a.Ends (.ok ()))
    (hf : ∀ x, (f x).Ends e) : (a >>= f).Ends e :=
  bind ha hf

/-- Before actions that succeed, `a` decides. -/
theorem bind_pure {a : Action σ α} {f : α → Action σ β} {e : Outcome Unit} (ha : a.Ends e)
    (hf : ∀ x, (f x).Ends (.ok ())) : (a >>= f).Ends e := by
  have h := bind ha hf
  cases e <;> exact h

end Action.Ends

/-! ## Files -/

namespace Files

theorem writePodTemplate_ends (template : Object) : (writePodTemplate template).Ends (.ok ()) :=
  fun _ => rfl

/-- `writeLogFile` succeeds on the contents of a manifest, which are texts or missing. -/
theorem writeLogFile_ends (entries : Entries (Option String)) (file : String) :
    (writeLogFile (Config.ofTexts entries) file).Ends (.ok ()) := by
  intro s
  rw [writeLogFile, Config.ofTexts, Entries.get?_mapValues]
  rcases entries.get? file with _ | _ | _ <;> rfl

theorem writeLogging_ends (entries : Entries (Option String)) :
    (writeLogging (Config.ofTexts entries)).Ends (.ok ()) := by
  rw [writeLogging]
  refine .bind_ok ?_ fun _ _ => rfl
  -- file after file, none of which fails
  induction Config.logFiles with
  | nil => exact .pure ()
  | cons file rest ih => exact .bind_ok (writeLogFile_ends entries file) fun _ => ih

end Files

/-! ## Steps of the configuration -/

/-- The processors that a process is to get, if anything is said about them. -/
def processorsOf (resource : Option ResourceSpec) : List Value :=
  (resource.bind (·.cpu)).toList

/-- The processors that a specification sets, those of the JobManager first. -/
def DeploymentSpec.processors (s : DeploymentSpec) : List Value :=
  s.jobManager.toList.flatMap (processorsOf ·.resource) ++
    s.taskManager.toList.flatMap (processorsOf ·.resource)

/-- Whether values all stand for doubles; the failure is that of the first one that does not. -/
def Value.areDoubles (vs : List Value) : Outcome Unit :=
  Outcome.ending (vs.mapM Value.toDouble)

theorem Value.areDoubles_append (vs ws : List Value) :
    areDoubles (vs ++ ws) = areDoubles vs >>= fun _ => areDoubles ws := by
  rw [areDoubles, areDoubles, areDoubles, List.mapM_append]
  rcases vs.mapM toDouble with _ | _
  · rfl
  · rcases ws.mapM toDouble with _ | _ <;> rfl

namespace Config

variable {σ : Type} (c : Config)

theorem withLogging_ends (spec : DeploymentSpec) : (c.withLogging spec).Ends (.ok ()) := by
  rw [withLogging]
  cases spec.logConfiguration with
  | none => exact .pure c
  | some entries => exact .bind_ok (Files.writeLogging_ends entries) fun _ => .pure _

theorem withPodTemplate_ends (key : String) (template : Option Object) :
    (c.withPodTemplate key template).Ends (.ok ()) := by
  cases template with
  | none => exact .pure c
  | some t => exact .bind_ok (Files.writePodTemplate_ends t) fun _ => .pure _

/-- `withResource` fails only with processors that stand for no double; the memory is text. -/
theorem withResource_ending (resource : Option ResourceSpec) (memoryKey cpuKey : String) :
    (c.withResource resource memoryKey cpuKey).ending =
      Value.areDoubles (processorsOf resource) := by
  rw [withResource.eq_def, Value.areDoubles, processorsOf]
  cases resource with
  | none => rfl
  | some resource =>
    dsimp only [Option.bind_some]
    cases resource.cpu with
    | none => rfl
    | some cpu =>
      simp only [Option.toList_some, List.mapM_cons]
      rcases cpu.toDouble with _ | _ <;> rfl

theorem withTaskManager_ends (marks : TemplateMarks) (spec : DeploymentSpec) :
    (c.withTaskManager marks spec).Ends
      (Value.areDoubles (spec.taskManager.toList.flatMap (processorsOf ·.resource))) := by
  rw [withTaskManager]
  cases spec.taskManager with
  | none => exact .pure c
  | some manager =>
    rw [Option.toList_some, List.flatMap_singleton,
      ← c.withResource_ending manager.resource taskManagerMemoryKey]
    exact .bind_pure (.ofOutcome _) fun c => c.withPodTemplate_ends _ _

variable {c}

/-- `withJobManager` can count replicas that are a number. -/
theorem withJobManager_ends (marks : TemplateMarks) {spec : DeploymentSpec}
    (h : ∀ manager ∈ spec.jobManager, manager.replicas.number?.isSome) :
    (c.withJobManager marks spec).Ends
      (Value.areDoubles (spec.jobManager.toList.flatMap (processorsOf ·.resource))) := by
  rw [withJobManager]
  cases hmanager : spec.jobManager with
  | none => exact .pure c
  | some manager =>
    rw [Option.toList_some, List.flatMap_singleton,
      ← c.withResource_ending manager.resource jobManagerMemoryKey]
    refine .bind_pure (.ofOutcome _) fun c => .bind_ok (c.withPodTemplate_ends _ _) fun c => ?_
    obtain ⟨n, hn⟩ := Option.isSome_iff_exists.1 (h manager hmanager)
    rw [isAbove, orderedBy, hn]
    exact .bind_ok (.ofOutcome _) fun above => by cases above <;> exact .pure _

/-- `withJob` succeeds for a parallelism that is a number. -/
theorem withJob_ending {spec : DeploymentSpec}
    (h : ∀ job ∈ spec.job, ∀ p ∈ job.parallelism, p.number?.isSome) :
    (c.withJob spec).ending = .ok () := by
  rw [withJob]
  cases hjob : spec.job with
  | none => rfl
  | some job =>
    dsimp only
    rw [withParallelism]
    cases hp : job.parallelism with
    | none => rfl
    | some p =>
      obtain ⟨n, hn⟩ := Option.isSome_iff_exists.1 (h job hjob p hp)
      simp only [isAbove, orderedBy, hn]
      cases (Number.int 0).lt n <;> rfl

/-- `Config.effective` fails with the first processors that are no number, if the other numbers
are. -/
theorem effective_ends (marks : TemplateMarks) (defaults : Config) (metadata : Metadata)
    {spec : DeploymentSpec}
    (hreplicas : ∀ manager ∈ spec.jobManager, manager.replicas.number?.isSome)
    (hparallelism : ∀ job ∈ spec.job, ∀ p ∈ job.parallelism, p.number?.isSome) :
    (effective marks defaults metadata spec).Ends (Value.areDoubles spec.processors) := by
  rw [effective, DeploymentSpec.processors, Value.areDoubles_append]
  refine .bind_ok (withLogging_ends _ spec) fun c => ?_
  refine .bind_ok (withPodTemplate_ends _ _ _) fun c => ?_
  refine .bind (withJobManager_ends marks hreplicas) fun c => ?_
  refine .bind_pure (c.withTaskManager_ends marks spec) fun c => ?_
  refine .bind_ok (withJob_ending (c := c) hparallelism ▸ .ofOutcome _) fun c => .pure _

end Config

/-! ## What acceptance says -/

namespace Validation

variable {defaults : Config} {d : Deployment}

/-- A value that `orderedBy` has compared is a number. -/
theorem isSome_number?_of_orderedBy {relation : String} {test : Number → Number → Bool} {v : Value}
    {n : Int} {b : Bool} (h : orderedBy relation test v n = .ok b) : v.number?.isSome := by
  rw [orderedBy] at h
  cases hv : v.number? with
  | none => rw [hv] at h; cases h
  | some m => rfl

theorem checkJob_of_accepted (h : validateDeployment defaults d = .ok none) :
    ∀ job ∈ d.spec.job,
      checkJob job (Config.overlay defaults d.spec.flinkConfiguration) = .ok none := by
  intro job hjob
  have hcheck : checkIfSet d.spec.job (fun job =>
      checkJob job (Config.overlay defaults d.spec.flinkConfiguration)) = .ok none :=
    (firstViolation_eq_accept_iff _).1 h _ (by simp)
  rwa [hjob] at hcheck

theorem checkJobManager_of_accepted (h : validateDeployment defaults d = .ok none) :
    ∀ manager ∈ d.spec.jobManager,
      checkJobManager manager (Config.overlay defaults d.spec.flinkConfiguration) = .ok none := by
  intro manager hmanager
  have hcheck : checkIfSet d.spec.jobManager (fun spec =>
      checkJobManager spec (Config.overlay defaults d.spec.flinkConfiguration)) = .ok none :=
    (firstViolation_eq_accept_iff _).1 h _ (by simp)
  rwa [hmanager] at hcheck

theorem replicas_of_accepted (h : validateDeployment defaults d = .ok none) :
    ∀ manager ∈ d.spec.jobManager, manager.replicas.number?.isSome := by
  intro manager hmanager
  have hreplicas := (firstViolation_eq_accept_iff _).1 (checkJobManager_of_accepted h manager hmanager)
    _ List.mem_cons_self
  obtain ⟨_, hbelow, -⟩ := Outcome.bind_eq_ok.1 hreplicas
  exact isSome_number?_of_orderedBy hbelow

theorem parallelism_of_accepted (h : validateDeployment defaults d = .ok none) :
    ∀ job ∈ d.spec.job, ∀ p ∈ job.parallelism, p.number?.isSome := by
  intro job hjob p hp
  have hparallelism : checkParallelism job = .ok none :=
    (firstViolation_eq_accept_iff _).1 (checkJob_of_accepted h job hjob) _ (by simp)
  rw [checkParallelism, hp] at hparallelism
  obtain ⟨_, hmost, -⟩ := Outcome.bind_eq_ok.1 hparallelism
  exact isSome_number?_of_orderedBy hmost

end Validation

open Validation in
/-- `Config.effective` of a cluster that `validateDeployment` accepts fails only with the first of its
`processors` that stand for no double, which no rule looks at. If all do, there is a configuration. -/
theorem effective_ends_of_accepted {defaults : Config} {d : Deployment}
    (h : validateDeployment defaults d = .ok none) (marks : Config.TemplateMarks) (files : Files) :
    Outcome.ending ((Config.effective marks defaults d.metadata d.spec).runOn files).1 =
      Value.areDoubles d.spec.processors :=
  Config.effective_ends marks defaults d.metadata (replicas_of_accepted h) (parallelism_of_accepted h)
    files

/-- A cluster whose JobManager is to have half a processor, as Kubernetes spells it. -/
def halfProcessorDeployment : Deployment where
  metadata := { name := some "basic" }
  spec := {
    flinkVersion := some .v1_15
    jobManager := some { resource := some { memory := some "1g", cpu := some (.text "500m") } } }

open Validation in
theorem halfProcessorDeployment_ends :
    validateDeployment [] halfProcessorDeployment = .ok none ∧
      ∀ files : Files, Outcome.ending ((Config.effective {} [] halfProcessorDeployment.metadata
        halfProcessorDeployment.spec).runOn files).1 = .error (.notANumber "500m") := by
  have haccept : validateDeployment [] halfProcessorDeployment = .ok none := by decide +kernel
  exact ⟨haccept, fun files => (effective_ends_of_accepted haccept {} files).trans (by decide +kernel)⟩

end FlinkSteward
