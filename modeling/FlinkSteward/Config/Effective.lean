import FlinkSteward.Config.Files
import FlinkSteward.Resource.Basic
import FlinkSteward.Validation.Rules

/-!
# Effective configurations

The configuration that a cluster runs with. It starts from the operator's defaults, and one step
after another sets what the specification says; the identity of the cluster comes last. Steps that
need files write them.

Pod templates are written as they are in memory, where lists and maps may stand in several places. What
was read from a text has each in one place.

- `Config.effective`: the configuration of a specification
- `Config.deployed`: the one of the specification that was last applied
-/

namespace FlinkSteward

/-- The double that a value stands for. -/
def Value.toDouble (v : Value) : Outcome Double :=
  match v with
  | .text s =>
    match Double.ofText? s with
    | some x => .ok x
    | none => .error (.notANumber s)
  | v =>
    match v.number? with
    | some n =>
      match n.toDouble? with
      | some x => .ok x
      | none => .error .outOfDoubleRange
    | none => .error (.mismatch (.notReal v.kind))

namespace Config

/-- Sets an option to a text. -/
def set (c : Config) (key text : String) : Config :=
  c.put key (.text text)

/-- Sets an option to a text if there is one. -/
def setIf (c : Config) (key : String) (text : Option String) : Config :=
  match text with
  | some s => c.set key s
  | none => c

/-- Sets an option that is missing. -/
def setNew (c : Config) (key text : String) : Config :=
  c.putNew key (.text text)

/-- A text that is not blank. -/
def unlessBlank (s : Option String) : Option String :=
  if isUnset s then none else s

/-- The user's entries, and what is set only where neither the user nor the defaults say anything. -/
def withUserEntries (c : Config) (spec : DeploymentSpec) : Config :=
  let c := (c.overlay spec.flinkConfiguration).setNew restServiceTypeKey "ClusterIP"
  match spec.job with
  | none => c
  | some job =>
    let c := c.setNew cancelEnabledKey "false"
    if job.upgradeMode = .lastState then c.setNew checkpointingIntervalKey "5 min" else c

/-- The directory of the logging configuration. -/
def withLogging (c : Config) (spec : DeploymentSpec) : Action Files Config :=
  match spec.logConfiguration with
  | none => pure c
  | some entries => do return c.set directoryKey (← Files.writeLogging (ofTexts entries))

/-- The container image, how it is pulled, and the account of the pods. -/
def withImage (c : Config) (spec : DeploymentSpec) : Config :=
  let c := c.setIf imageKey (unlessBlank spec.image)
  let c := c.setIf imagePullPolicyKey (unlessBlank spec.imagePullPolicy)
  c.setIf serviceAccountKey spec.serviceAccount

/-- The file of a pod template, if there is one. -/
def withPodTemplate (c : Config) (key : String) (template : Option Object) : Action Files Config :=
  match template with
  | none => pure c
  | some t => do return c.set key (← Files.writePodTemplate t)

/-- How the REST service is exposed, which an ingress decides. -/
def withIngress (c : Config) (spec : DeploymentSpec) : Config :=
  if spec.ingress.isSome then c.set restServiceTypeKey "ClusterIP" else c

/-- The memory and the processors of a process, if anything is said about it. -/
def withResource (c : Config) (resource : Option ResourceSpec) (memoryKey cpuKey : String) :
    Outcome Config :=
  match resource with
  | none => .ok c
  | some resource =>
    let c := c.setIf memoryKey resource.memory
    match resource.cpu with
    | none => .ok c
    | some cpu => do return c.set cpuKey (← cpu.toDouble).text

/-- The marks of the pod templates of a specification, which may have objects in common. -/
structure TemplateMarks where
  /-- Of the template of all processes. -/
  common : Marks := .apart
  /-- Of the template of the JobManager. -/
  jobManager : Marks := .apart
  /-- Of the template of TaskManagers. -/
  taskManager : Marks := .apart

/-- A pod template in memory. -/
def templateObject (marks : Marks) (template : Option (Entries Value)) : Option Object :=
  template.map fun fields => ⟨.map fields, marks⟩

/-- The pod template of all processes with one of them laid over it. -/
def processTemplate (marks : TemplateMarks) (spec : DeploymentSpec) (ownMarks : Marks)
    (own : Option (Entries Value)) : Option Object :=
  Object.overlay? (templateObject marks.common spec.podTemplate) (templateObject ownMarks own)

/-- What the specification says about the JobManager. -/
def withJobManager (c : Config) (marks : TemplateMarks) (spec : DeploymentSpec) :
    Action Files Config :=
  match spec.jobManager with
  | none => pure c
  | some manager => do
    let c ← .ofOutcome (c.withResource manager.resource jobManagerMemoryKey jobManagerCpuKey)
    let c ← c.withPodTemplate jobManagerPodTemplateKey
      (processTemplate marks spec marks.jobManager manager.podTemplate)
    if ← .ofOutcome (isAbove manager.replicas 0) then
      return c.set jobManagerReplicasKey manager.replicas.shown
    else return c

/-- What the specification says about TaskManagers. -/
def withTaskManager (c : Config) (marks : TemplateMarks) (spec : DeploymentSpec) :
    Action Files Config :=
  match spec.taskManager with
  | none => pure c
  | some manager => do
    let c ← .ofOutcome (c.withResource manager.resource taskManagerMemoryKey taskManagerCpuKey)
    c.withPodTemplate taskManagerPodTemplateKey
      (processTemplate marks spec marks.taskManager manager.podTemplate)

/-- The parallelism of a job, if it is set and positive. -/
def withParallelism (c : Config) (job : JobSpec) : Outcome Config :=
  match job.parallelism with
  | none => .ok c
  | some p => do
    if ← isAbove p 0 then return c.set parallelismKey p.shown
    else return c

/-- What the specification says about the job, and the kind of cluster that follows. -/
def withJob (c : Config) (spec : DeploymentSpec) : Outcome Config :=
  match spec.job with
  | none => .ok (c.set deploymentTargetKey "kubernetes-session")
  | some job =>
    let c := c.set deploymentTargetKey "kubernetes-application"
    let c := c.setIf jarsKey (job.jarUri.filter (· ≠ ""))
    c.withParallelism job

/-- The identity of the cluster. -/
def withIdentity (c : Config) (metadata : Metadata) : Config :=
  let space := (metadata.namespaceName.filter (· ≠ "")).getD "default"
  (c.set namespaceKey space).put clusterIdKey (Value.ofText? metadata.name)

/-- The configuration that a cluster of this identity and specification runs with. -/
def effective (marks : TemplateMarks) (defaults : Config) (metadata : Metadata)
    (spec : DeploymentSpec) : Action Files Config := do
  let c := withUserEntries defaults spec
  let c ← c.withLogging spec
  let c := c.withImage spec
  let c ← c.withPodTemplate podTemplateKey (templateObject marks.common spec.podTemplate)
  let c := c.withIngress spec
  let c ← c.withJobManager marks spec
  let c ← c.withTaskManager marks spec
  let c ← .ofOutcome (c.withJob spec)
  return c.withIdentity metadata

/-- The configuration of the specification that was last applied, if any was. It was read from its text, in
which every list and map is given where it stands. -/
def deployed (defaults : Config) (d : Deployment) : Action Files (Option Config) := do
  match ← .ofOutcome (d.status.reconciliation.lastReconciled : Outcome (Option DeploymentSpec)) with
  | none => return none
  | some spec => return some (← effective {} defaults d.metadata spec)

end Config

end FlinkSteward
