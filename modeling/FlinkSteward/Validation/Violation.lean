import FlinkSteward.Config.Basic

/-!
# Violations

The rules that a resource can violate, each with the message that users are given.

- `Violation.message`: the message
- `Verdict`: the outcome of a check: a violation, none, or a failure of the check itself
- `firstViolation`: several checks, of which the first that objects or fails decides
-/

namespace FlinkSteward

/-- A rule that a resource violates. -/
inductive Violation where
  /-- No version of Flink is given. -/
  | noFlinkVersion
  /-- A configuration entry is reserved. -/
  | forbiddenKey (key : String)
  /-- A logging configuration has a name that is not known. -/
  | unknownLogFile (name : String)
  /-- No program is given. -/
  | noJar
  /-- The parallelism is not positive. -/
  | noParallelism
  /-- The job is to be upgraded from its last state, which nothing keeps. -/
  | lastStateWithoutAvailability
  /-- The job is to be upgraded with a savepoint, which has no place to go. -/
  | savepointWithoutDirectory
  /-- A savepoint is asked for, which has no place to go. -/
  | manualSavepointWithoutDirectory
  /-- There are no JobManager replicas. -/
  | noReplicas
  /-- There are standby JobManagers, which could not take over. -/
  | standbyWithoutAvailability
  /-- A process has no memory size. -/
  | noMemory (component : String)
  /-- A process has a memory size that cannot be read. -/
  | badMemory (component : String) (fault : Memory.Fault)
  /-- An ingress has no template. -/
  | noIngressTemplate
  /-- An ingress has a template that gives no host. -/
  | badIngressTemplate (template : String) (fault : Host.Fault)
  /-- A job is not meant to run when it is first deployed. -/
  | notRunningAtFirst
  /-- An application cluster is to become a session cluster. -/
  | jobToSession
  /-- A session cluster is to become an application cluster. -/
  | sessionToJob
  /-- The running cluster does not keep what an upgrade from the last state needs. -/
  | lastStateNotKept
  /-- A job is to resume from a savepoint, and there is none. -/
  | noSavepointToRestore
  /-- A session job has no job. -/
  | noJob
  /-- A session job is to be upgraded from its last state. -/
  | lastStateOnSession
  /-- A session job is to move to another cluster. -/
  | clusterIdChanged
  /-- A session job is meant for an application cluster. -/
  | applicationCluster
  /-- A session job is meant for another cluster than the given one. -/
  | clusterIdMismatch
deriving DecidableEq, Inhabited

namespace Violation

/-- The message of a violation. -/
def message : Violation → String
  | noFlinkVersion => "Flink Version must be defined."
  | forbiddenKey key => "Forbidden Flink config key: " ++ key
  | unknownLogFile name =>
    "Invalid log config key: " ++ name ++ ". Allowed keys are " ++
      (Value.list (Config.logFiles.map .text)).shown
  | noJar => "Jar URI must be defined"
  | noParallelism => "Job parallelism must be larger than 0"
  | lastStateWithoutAvailability =>
    "Job could not be upgraded with last-state while Kubernetes HA disabled"
  | savepointWithoutDirectory =>
    "Job could not be upgraded with savepoint while config key[" ++ Config.savepointDirectoryKey ++
      "] is not set"
  | manualSavepointWithoutDirectory =>
    "Savepoint could not be manually triggered for the running job while config key[" ++
      Config.savepointDirectoryKey ++ "] is not set"
  | noReplicas => "JobManager replicas should not be configured less than one."
  | standbyWithoutAvailability =>
    "Kubernetes High availability should be enabled when starting standby JobManagers."
  | noMemory component => component ++ " resource memory must be defined."
  | badMemory component fault => component ++ " resource memory parse error: " ++ fault.message
  | noIngressTemplate => "Ingress template must be defined"
  | badIngressTemplate template fault =>
    "Unable to process the Ingress template(" ++ template ++ "). Error: " ++ fault.message
  | notRunningAtFirst => "Job must start in running state"
  | jobToSession => "Cannot switch from job to session cluster"
  | sessionToJob => "Cannot switch from session to job cluster"
  | lastStateNotKept =>
    "Job could not be upgraded to last-state while config key[" ++ Config.savepointDirectoryKey ++
      "] is not set"
  | noSavepointToRestore => "Cannot perform savepoint restore without a valid savepoint"
  | noJob => "The job spec should not be empty"
  | lastStateOnSession => "The LAST_STATE upgrade mode is not supported in session job now."
  | clusterIdChanged => "The session job's cluster id can not be changed"
  | applicationCluster => "Can not submit to application cluster"
  | clusterIdMismatch => "The session job's cluster id is not match with the session cluster"

end Violation

/-- The outcome of a check. -/
abbrev Verdict := Outcome (Option Violation)

/-- A rule that is violated when `bad` holds. -/
def rejectIf (bad : Bool) (v : Violation) : Verdict :=
  .ok (if bad then some v else none)

/-- The first verdict that is not an acceptance; later checks do not count. -/
def firstViolation : List Verdict → Verdict
  | [] => .ok none
  | v :: rest =>
    match v with
    | .ok none => firstViolation rest
    | v => v

@[simp] theorem firstViolation_nil : firstViolation [] = .ok none := rfl

/-- `firstViolation` accepts exactly when each of the checks does. -/
theorem firstViolation_eq_accept_iff (vs : List Verdict) :
    firstViolation vs = .ok none ↔ ∀ v ∈ vs, v = .ok none := by
  induction vs with
  | nil => simp
  | cons v rest ih =>
    match v with
    | .ok none => simp [firstViolation, ih]
    | .ok (some x) => simp [firstViolation]
    | .error e => simp [firstViolation]

end FlinkSteward
