import FlinkSteward.Resource.Status

/-!
# Resources

The two custom resources: clusters, and jobs on session clusters. Both have metadata, what users ask
for, and what was observed, and are read from manifests and written as such.

- `Deployment`, `SessionJob`: the resources
- `Resource`: what the two have in common
-/

namespace FlinkSteward

open Record

/-- The group and version of the custom resources. -/
def apiVersion : String := "flink.apache.org/v1beta1"

/-- The group of the custom resources. -/
def apiGroup : String := "flink.apache.org"

/-- The version of the custom resources within their group. -/
def apiRevision : String := "v1beta1"

/-- A Flink cluster: with a job an application cluster, without one a session cluster. -/
structure Deployment where
  /-- Its identity. -/
  metadata : Metadata := {}
  /-- What is asked for. -/
  spec : DeploymentSpec := {}
  /-- What was observed. -/
  status : DeploymentStatus := {}
deriving DecidableEq, Inhabited

/-- A job on a session cluster. -/
structure SessionJob where
  /-- Its identity. -/
  metadata : Metadata := {}
  /-- What is asked for. -/
  spec : SessionJobSpec := {}
  /-- What was observed. -/
  status : SessionJobStatus := {}
deriving DecidableEq, Inhabited

/-- The part of a manifest under a key, null when it is missing. -/
def manifestPart (r : Entries Value) (key : String) : Value :=
  (r.get? key).getD .null

/-- A manifest from its parts. -/
def manifestOf (kind : String) (metadata spec status : Value) : Value :=
  .map [("apiVersion", .text apiVersion), ("kind", .text kind), ("metadata", metadata),
    ("spec", spec), ("status", status)]

namespace Deployment

/-- The kind in manifests. -/
def kind : String := "FlinkDeployment"

/-- The name of the collection that Kubernetes keeps clusters in. -/
def plural : String := "flinkdeployments"

/-- Reads a manifest. -/
def decode (manifest : Value) : Outcome Deployment := do
  let r ← entriesOf manifest
  return {
    metadata := ← Metadata.decode (manifestPart r "metadata")
    spec := ← DeploymentSpec.decode (manifestPart r "spec")
    status := ← DeploymentStatus.decode (manifestPart r "status") }

/-- Writes a manifest. -/
def encode (d : Deployment) : Value :=
  manifestOf kind d.metadata.encode d.spec.encode d.status.encode

end Deployment

namespace SessionJob

/-- The kind in manifests. -/
def kind : String := "FlinkSessionJob"

/-- The name of the collection that Kubernetes keeps jobs in. -/
def plural : String := "flinksessionjobs"

/-- Reads a manifest. -/
def decode (manifest : Value) : Outcome SessionJob := do
  let r ← entriesOf manifest
  return {
    metadata := ← Metadata.decode (manifestPart r "metadata")
    spec := ← SessionJobSpec.decode (manifestPart r "spec")
    status := ← SessionJobStatus.decode (manifestPart r "status") }

/-- Writes a manifest. -/
def encode (j : SessionJob) : Value :=
  manifestOf kind j.metadata.encode j.spec.encode j.status.encode

end SessionJob

/-- A resource that runs a job, with what both kinds have in common. -/
class Resource (ρ : Type) where
  /-- The specification of the resource. -/
  Spec : Type
  /-- How the specification is kept as text. -/
  [text : FlinkSteward.Spec Spec]
  /-- The collection that Kubernetes keeps the resource in. -/
  plural : String
  /-- Its identity. -/
  metadata : ρ → Metadata
  /-- What is asked for. -/
  spec : ρ → Spec
  /-- The job that a specification asks for. -/
  jobSpec : Spec → Option JobSpec
  /-- A specification with another job. -/
  withJobSpec : Spec → JobSpec → Spec
  /-- The status as it is written. -/
  encodeStatus : ρ → Value
  /-- What was observed of its job. -/
  job : ρ → JobStatus
  /-- What was last applied. -/
  reconciliation : ρ → ReconciliationStatus
  /-- The resource with another observation of its job. -/
  withJob : ρ → JobStatus → ρ
  /-- The resource with another record of what was last applied. -/
  withReconciliation : ρ → ReconciliationStatus → ρ
  /-- The resource with another last error. -/
  withError : ρ → Option String → ρ

instance : Resource Deployment where
  Spec := DeploymentSpec
  plural := Deployment.plural
  metadata := Deployment.metadata
  spec := Deployment.spec
  jobSpec := DeploymentSpec.job
  withJobSpec s j := { s with job := some j }
  encodeStatus d := d.status.encode
  job d := d.status.job
  reconciliation d := d.status.reconciliation
  withJob d j := { d with status := { d.status with job := j } }
  withReconciliation d r := { d with status := { d.status with reconciliation := r } }
  withError d e := { d with status := { d.status with error := e } }

instance : Resource SessionJob where
  Spec := SessionJobSpec
  plural := SessionJob.plural
  metadata := SessionJob.metadata
  spec := SessionJob.spec
  jobSpec := SessionJobSpec.job
  withJobSpec s j := { s with job := some j }
  encodeStatus j := j.status.encode
  job j := j.status.job
  reconciliation j := j.status.reconciliation
  withJob j s := { j with status := { j.status with job := s } }
  withReconciliation j r := { j with status := { j.status with reconciliation := r } }
  withError j e := { j with status := { j.status with error := e } }

instance {ρ : Type} [Resource ρ] : Spec (Resource.Spec ρ) := Resource.text

end FlinkSteward
