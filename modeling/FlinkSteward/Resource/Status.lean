import FlinkSteward.Json.Read
import FlinkSteward.Json.Write
import FlinkSteward.Resource.Savepoint
import FlinkSteward.Resource.Spec

/-!
# Statuses

What was observed of a resource and what was last applied to the cluster. The specification that was
last applied is kept as a JSON text.

- `JobStatus`, `ReconciliationStatus`, `DeploymentStatus`, `SessionJobStatus`: the records
- `ReconciliationStatus.lastReconciled`: the specification that was last applied
-/

namespace FlinkSteward

open Record

/-- What was observed of a job. -/
structure JobStatus where
  /-- The id of the tracked job. -/
  jobId : Option String := none
  /-- The state, as the cluster reported it. -/
  state : Option Value := none
  /-- The name, as the cluster reported it. -/
  jobName : Option Value := none
  /-- When the job started. -/
  startTime : Option String := none
  /-- When the job was last observed. -/
  updateTime : Option String := none
  /-- The savepoints of the job. -/
  savepoints : SavepointInfo := {}
deriving DecidableEq, Inhabited

namespace JobStatus

/-- Reads what was observed of a job. -/
def decode (v : Value) : Outcome JobStatus :=
  match v with
  | .null => .ok {}
  | v => do
    let r ← entriesOf v
    return {
      jobId := ← optional r "jobId" text
      state := ← optional r "state" fun v => (text v).map .text
      jobName := ← optional r "jobName" fun v => (text v).map .text
      startTime := ← optional r "startTime" text
      updateTime := ← optional r "updateTime" text
      savepoints := ← required r "savepointInfo" {} SavepointInfo.decode }

/-- Writes what was observed of a job. -/
def encode (s : JobStatus) : Value :=
  build [
    field "jobId" (s.jobId.map .text),
    field "state" s.state,
    field "jobName" s.jobName,
    field "startTime" (s.startTime.map .text),
    field "updateTime" (s.updateTime.map .text),
    field "savepointInfo" s.savepoints.encode]

/-- Whether a job is tracked; an empty id tracks none. -/
def isTracked (s : JobStatus) : Bool :=
  s.jobId.any (· ≠ "")

/-- The id of the tracked job as a value, null when there is none. -/
def jobIdValue (s : JobStatus) : Value :=
  Value.ofText? s.jobId

end JobStatus

/-- What was last applied to the cluster. -/
structure ReconciliationStatus where
  /-- When it was applied. -/
  timestamp : Value := .int 0
  /-- The specification that was last applied, as JSON. -/
  lastReconciledSpec : Option String := none
  /-- The last specification that was seen to run, as JSON. -/
  lastStableSpec : Option String := none
deriving DecidableEq, Inhabited

/-- A specification that is kept as JSON text. -/
class Spec (σ : Type) where
  /-- Reads a specification. -/
  decode : Value → Outcome σ
  /-- Writes a specification. -/
  encode : σ → Value

instance : Spec DeploymentSpec := ⟨DeploymentSpec.decode, DeploymentSpec.encode⟩

instance : Spec SessionJobSpec := ⟨SessionJobSpec.decode, SessionJobSpec.encode⟩

/-- A specification as JSON text. -/
def Spec.serialize {σ : Type} [Spec σ] (s : σ) : String :=
  Json.write (Spec.encode s)

/-- The specification of a JSON text. -/
def Spec.deserialize {σ : Type} [Spec σ] (text : String) : Outcome σ := do
  Spec.decode (← Outcome.ofExcept .json (Json.read text))

/-- The specification of a JSON text that may be missing. -/
def Spec.deserialize? {σ : Type} [Spec σ] : Option String → Outcome (Option σ)
  | none => .ok none
  | some text => (Spec.deserialize text).map some

namespace ReconciliationStatus

/-- Reads what was last applied. -/
def decode (v : Value) : Outcome ReconciliationStatus :=
  match v with
  | .null => .ok {}
  | v => do
    let r ← entriesOf v
    return {
      timestamp := ← required r "reconciliationTimestamp" (.int 0) integer
      lastReconciledSpec := ← optional r "lastReconciledSpec" text
      lastStableSpec := ← optional r "lastStableSpec" text }

/-- Writes what was last applied. -/
def encode (s : ReconciliationStatus) : Value :=
  build [
    field "reconciliationTimestamp" s.timestamp,
    field "lastReconciledSpec" (s.lastReconciledSpec.map .text),
    field "lastStableSpec" (s.lastStableSpec.map .text)]

/-- Whether nothing was applied yet. -/
def isFirst (s : ReconciliationStatus) : Bool :=
  s.lastReconciledSpec.isNone

/-- The specification that was last applied. -/
def lastReconciled {σ : Type} [Spec σ] (s : ReconciliationStatus) : Outcome (Option σ) :=
  Spec.deserialize? s.lastReconciledSpec

/-- The last specification that was seen to run. -/
def lastStable {σ : Type} [Spec σ] (s : ReconciliationStatus) : Outcome (Option σ) :=
  Spec.deserialize? s.lastStableSpec

/-- Records that a specification was applied. -/
def record {σ : Type} [Spec σ] (s : ReconciliationStatus) (spec : σ) : ReconciliationStatus :=
  { s with lastReconciledSpec := some (Spec.serialize spec) }

/-- Records that the specification that was last applied runs. -/
def markStable (s : ReconciliationStatus) : ReconciliationStatus :=
  { s with lastStableSpec := s.lastReconciledSpec }

end ReconciliationStatus

/-- What was observed of a cluster. -/
structure DeploymentStatus where
  /-- The JobManager's deployment. -/
  manager : ManagerStatus := .missing
  /-- The job of an application cluster. -/
  job : JobStatus := {}
  /-- What was last applied. -/
  reconciliation : ReconciliationStatus := {}
  /-- The last error. -/
  error : Option String := none
deriving DecidableEq, Inhabited

namespace DeploymentStatus

/-- Reads what was observed of a cluster. -/
def decode (v : Value) : Outcome DeploymentStatus :=
  match v with
  | .null => .ok {}
  | v => do
    let r ← entriesOf v
    return {
      manager := ← required r "jobManagerDeploymentStatus" .missing Enumeration.parse
      job := ← required r "jobStatus" {} JobStatus.decode
      reconciliation := ← required r "reconciliationStatus" {} ReconciliationStatus.decode
      error := ← optional r "error" text }

/-- Writes what was observed of a cluster. -/
def encode (s : DeploymentStatus) : Value :=
  build [
    field "jobManagerDeploymentStatus" (Enumeration.encode s.manager),
    field "jobStatus" s.job.encode,
    field "reconciliationStatus" s.reconciliation.encode,
    field "error" (s.error.map .text)]

end DeploymentStatus

/-- What was observed of a job on a session cluster. -/
structure SessionJobStatus where
  /-- The job. -/
  job : JobStatus := {}
  /-- What was last applied. -/
  reconciliation : ReconciliationStatus := {}
  /-- The last error. -/
  error : Option String := none
deriving DecidableEq, Inhabited

namespace SessionJobStatus

/-- Reads what was observed of a job on a session cluster. -/
def decode (v : Value) : Outcome SessionJobStatus :=
  match v with
  | .null => .ok {}
  | v => do
    let r ← entriesOf v
    return {
      job := ← required r "jobStatus" {} JobStatus.decode
      reconciliation := ← required r "reconciliationStatus" {} ReconciliationStatus.decode
      error := ← optional r "error" text }

/-- Writes what was observed of a job on a session cluster. -/
def encode (s : SessionJobStatus) : Value :=
  build [
    field "jobStatus" s.job.encode,
    field "reconciliationStatus" s.reconciliation.encode,
    field "error" (s.error.map .text)]

end SessionJobStatus

end FlinkSteward
