import FlinkSteward.Resource.Basic
import FlinkSteward.Text.Replace
import FlinkSteward.Validation.Violation

/-!
# Validation rules

The built-in rules for clusters and for jobs on session clusters. Each rule is a check of its own;
a resource is refused for the first rule that it violates. Rules look at the specification, at the
configuration that comes of it, and at what was last applied to the cluster.

- `validateDeployment`: the rules for clusters
- `validateSessionJob`: the rules for jobs on session clusters
-/

namespace FlinkSteward

open FlinkSteward.Text

/-- Whether a number is below or above another in the sense of `relation`; other values have no order. -/
def orderedBy (relation : String) (test : Number → Number → Bool) (v : Value) (n : Int) :
    Outcome Bool :=
  match v.number? with
  | some m => .ok (test m (.int n))
  | none => .error (.mismatch (.unordered relation v.kind "int"))

/-- Whether a value is less than an integer. -/
def isBelow (v : Value) (n : Int) : Outcome Bool :=
  orderedBy "<" Number.lt v n

/-- Whether a value is at most an integer. -/
def isAtMost (v : Value) (n : Int) : Outcome Bool :=
  orderedBy "<=" Number.le v n

/-- Whether a value is greater than an integer. -/
def isAbove (v : Value) (n : Int) : Outcome Bool :=
  orderedBy ">" (fun a b => b.lt a) v n

/-- Whether a text is missing or blank. -/
def isUnset (s : Option String) : Bool :=
  match s with
  | none => true
  | some s => isBlankText s

namespace Validation

/-! ## Specifications -/

/-- A version of Flink is given. -/
def checkVersion (spec : DeploymentSpec) : Verdict :=
  rejectIf spec.flinkVersion.isNone .noFlinkVersion

/-- No reserved option is set. -/
def checkConfiguration (entries : Entries (Option String)) : Verdict :=
  .ok ((entries.keys.find? Config.forbiddenKeys.contains).map .forbiddenKey)

/-- Logging configurations have known names. -/
def checkLogging (entries : Option (Entries (Option String))) : Verdict :=
  .ok (((Entries.keys (entries.getD [])).find? fun k => !Config.logFiles.contains k).map
    .unknownLogFile)

/-- A program is given. -/
def checkJar (job : JobSpec) : Verdict :=
  rejectIf (isUnset job.jarUri) .noJar

/-- The parallelism is positive. -/
def checkParallelism (job : JobSpec) : Verdict :=
  match job.parallelism with
  | none => .ok none
  | some p => do rejectIf (← isAtMost p 0) .noParallelism

/-- An upgrade from the last state needs high availability. -/
def checkLastState (job : JobSpec) (conf : Config) : Verdict :=
  if job.upgradeMode = .lastState then
    do rejectIf (!(← conf.isHighlyAvailable)) .lastStateWithoutAvailability
  else .ok none

/-- Savepoints have a place to go. -/
def checkSavepoints (job : JobSpec) (conf : Config) : Verdict := do
  let directory ← conf.savepointDirectory
  if job.upgradeMode = .savepoint ∧ directory = none then
    return some .savepointWithoutDirectory
  else if job.nonce.isTruthy ∧ job.state = some .running ∧ directory = none then
    return some .manualSavepointWithoutDirectory
  else return none

/-- The rules for a job. -/
def checkJob (job : JobSpec) (conf : Config) : Verdict :=
  firstViolation [checkJar job, checkParallelism job, checkLastState job conf,
    checkSavepoints job conf]

/-- The memory of a process is given and can be read, if anything is said about the process. -/
def checkResource (component : String) (resource : Option ResourceSpec) : Verdict :=
  match resource with
  | none => .ok none
  | some resource =>
    match resource.memory with
    | none => .ok (some (.noMemory component))
    | some memory =>
      match Memory.read memory with
      | .ok _ => .ok none
      | .error fault => .ok (some (.badMemory component fault))

/-- There is a JobManager, and more than one only with high availability. -/
def checkReplicas (spec : JobManagerSpec) (conf : Config) : Verdict := do
  if ← isBelow spec.replicas 1 then return some .noReplicas
  if ← isAbove spec.replicas 1 then
    rejectIf (!(← conf.isHighlyAvailable)) .standbyWithoutAvailability
  else return none

/-- The rules for the JobManager. -/
def checkJobManager (spec : JobManagerSpec) (conf : Config) : Verdict :=
  firstViolation [checkReplicas spec conf, checkResource "JobManager" spec.resource]

/-- The rules for TaskManagers. -/
def checkTaskManager (spec : TaskManagerSpec) : Verdict :=
  checkResource "TaskManager" spec.resource

/-- A template of an address with the name and the namespace filled in. -/
def renderTemplate (template : String) (metadata : Metadata) : String :=
  replaceAll (replaceAll template "\x7b\x7bname\x7d\x7d" (metadata.name.getD ""))
    "\x7b\x7bnamespace\x7d\x7d" (metadata.namespaceName.getD "")

/-- The template of an ingress gives a host. -/
def checkIngress (spec : IngressSpec) (metadata : Metadata) : Verdict :=
  match spec.template with
  | none => .ok (some .noIngressTemplate)
  | some template =>
    if isBlankText template then .ok (some .noIngressTemplate)
    else match Host.check (renderTemplate template metadata) with
      | .ok _ => .ok none
      | .error fault => .ok (some (.badIngressTemplate template fault))

/-- A check of a part that may be missing. -/
def checkIfSet {α : Type} (part : Option α) (check : α → Verdict) : Verdict :=
  match part with
  | none => .ok none
  | some a => check a

/-! ## Changes -/

/-- A job runs when it is first deployed. -/
def checkInitialState (d : Deployment) : Verdict :=
  match d.spec.job with
  | none => .ok none
  | some job =>
    rejectIf (d.status.reconciliation.isFirst && job.state ≠ some .running) .notRunningAtFirst

/-- Whether a location is something other than blanks. -/
def isLocated (location : Option Value) : Outcome Bool :=
  match location with
  | none => .ok false
  | some v => if v.isTruthy then (Config.stripped v).map (· ≠ "") else .ok false

/-- An upgrade from the last state needs a running cluster that keeps it. -/
def checkLastStateKept (d : Deployment) (applied : Config) (old new : JobSpec) : Verdict :=
  if old.upgradeMode ≠ .lastState ∧ new.upgradeMode = .lastState ∧ d.status.manager = .ready then
    do rejectIf (!(← applied.isHighlyAvailable)) .lastStateNotKept
  else .ok none

/-- A job that resumes from a savepoint needs one. -/
def checkRestore (d : Deployment) (old new : JobSpec) : Verdict :=
  if old.state = some .suspended ∧ new.state = some .running ∧ new.upgradeMode = .savepoint then
    match d.status.job.savepoints.lastSavepoint with
    | none => .ok (some .noSavepointToRestore)
    | some savepoint => do rejectIf (!(← isLocated savepoint.location)) .noSavepointToRestore
  else .ok none

/-- The rules for a change from one specification to another. -/
def checkChangeFrom (defaults : Config) (d : Deployment) (applied : DeploymentSpec) : Verdict :=
  match applied.job, d.spec.job with
  | some _, none => .ok (some .jobToSession)
  | none, some _ => .ok (some .sessionToJob)
  | none, none => .ok none
  | some old, some new =>
    firstViolation [
      checkLastStateKept d (Config.overlay defaults applied.flinkConfiguration) old new,
      checkRestore d old new]

/-- The rules for a change of what was last applied, if anything was. -/
def checkChange (defaults : Config) (d : Deployment) : Verdict := do
  match ← (d.status.reconciliation.lastReconciled : Outcome (Option DeploymentSpec)) with
  | none => return none
  | some applied => checkChangeFrom defaults d applied

/-! ## Resources -/

/-- The rules for a cluster, under the operator's defaults. -/
def validateDeployment (defaults : Config) (d : Deployment) : Verdict :=
  let conf := Config.overlay defaults d.spec.flinkConfiguration
  firstViolation [
    checkVersion d.spec,
    checkConfiguration d.spec.flinkConfiguration,
    checkLogging d.spec.logConfiguration,
    checkIfSet d.spec.job fun job => checkJob job conf,
    checkIfSet d.spec.jobManager fun spec => checkJobManager spec conf,
    checkIfSet d.spec.taskManager checkTaskManager,
    checkIfSet d.spec.ingress fun spec => checkIngress spec d.metadata,
    checkInitialState d,
    checkChange defaults d]

/-- A session job has a job, which is not upgraded from its last state. -/
def checkSessionJobSpec (spec : SessionJobSpec) (conf : Config) : Verdict :=
  match spec.job with
  | none => .ok (some .noJob)
  | some job =>
    firstViolation [rejectIf (job.upgradeMode = .lastState) .lastStateOnSession, checkJob job conf]

/-- A session job stays on its cluster. -/
def checkSessionJobChange (j : SessionJob) : Verdict := do
  match ← (j.status.reconciliation.lastReconciled : Outcome (Option SessionJobSpec)) with
  | none => return none
  | some applied => rejectIf (applied.clusterId ≠ j.spec.clusterId) .clusterIdChanged

/-- The configuration of a job on a session cluster, which may be missing. -/
def sessionJobConfig (defaults : Config) (j : SessionJob) (session : Option Deployment) : Config :=
  let conf := match session with
    | none => defaults
    | some d => Config.overlay defaults d.spec.flinkConfiguration
  Config.overlay conf j.spec.flinkConfiguration

/-- The rules for a job on a session cluster, which may be missing. -/
def validateSessionJob (defaults : Config) (j : SessionJob) (session : Option Deployment) :
    Verdict :=
  firstViolation [
    checkSessionJobSpec j.spec (sessionJobConfig defaults j session),
    checkSessionJobChange j,
    checkIfSet session fun d => rejectIf d.spec.job.isSome .applicationCluster,
    checkIfSet session fun d =>
      rejectIf (j.spec.clusterId ≠ d.metadata.name) .clusterIdMismatch]

end Validation

end FlinkSteward
