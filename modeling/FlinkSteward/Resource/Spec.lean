import FlinkSteward.Resource.Enumeration
import FlinkSteward.Resource.Record

/-!
# Specifications

What users ask for: the metadata of a resource, and the specifications of clusters and jobs. Every
record has a reader `decode` and a writer `encode`; null reads as the record with all its defaults.

Fields that are numbers in a manifest hold whatever the manifest says, since only texts are turned
into numbers; the code that compares them reports values that have no order.

- `Metadata`, `JobSpec`, `DeploymentSpec`, `SessionJobSpec`: the records
-/

namespace FlinkSteward

open Record

/-- The identity of a resource. -/
structure Metadata where
  /-- The name. -/
  name : Option String := none
  /-- The namespace that the name is in. -/
  namespaceName : Option String := none
  /-- The unique id. -/
  uid : Option String := none
  /-- How often the specification changed. -/
  generation : Option Value := none
  /-- Labels. -/
  labels : Option (Entries (Option String)) := none
deriving DecidableEq, Inhabited

namespace Metadata

/-- Reads metadata. -/
def decode (v : Value) : Outcome Metadata :=
  match v with
  | .null => .ok {}
  | v => do
    let r ← entriesOf v
    return {
      name := ← optional r "name" text
      namespaceName := ← optional r "namespace" text
      uid := ← optional r "uid" text
      generation := ← optional r "generation" integer
      labels := ← optional r "labels" texts }

/-- Writes metadata. -/
def encode (m : Metadata) : Value :=
  build [
    field "name" (m.name.map .text),
    field "namespace" (m.namespaceName.map .text),
    field "uid" (m.uid.map .text),
    field "generation" m.generation,
    field "labels" (m.labels.map ofTexts)]

end Metadata

/-- What a process gets of the machine. -/
structure ResourceSpec where
  /-- Processors. -/
  cpu : Option Value := none
  /-- The memory size. -/
  memory : Option String := none
deriving DecidableEq, Inhabited

namespace ResourceSpec

/-- Reads what a process gets. -/
def decode (v : Value) : Outcome ResourceSpec :=
  match v with
  | .null => .ok {}
  | v => do
    let r ← entriesOf v
    return {
      cpu := ← optional r "cpu" any
      memory := ← optional r "memory" text }

/-- Writes what a process gets. -/
def encode (s : ResourceSpec) : Value :=
  build [field "cpu" s.cpu, field "memory" (s.memory.map .text)]

end ResourceSpec

/-- How the JobManager runs. -/
structure JobManagerSpec where
  /-- What each replica gets. -/
  resource : Option ResourceSpec := some {}
  /-- The number of replicas. -/
  replicas : Value := .int 1
  /-- The pod template of the JobManager. -/
  podTemplate : Option (Entries Value) := none
deriving DecidableEq, Inhabited

namespace JobManagerSpec

/-- Reads how the JobManager runs. -/
def decode (v : Value) : Outcome JobManagerSpec :=
  match v with
  | .null => .ok {}
  | v => do
    let r ← entriesOf v
    return {
      resource := some (← required r "resource" {} ResourceSpec.decode)
      replicas := ← required r "replicas" (.int 1) integer
      podTemplate := ← optional r "podTemplate" entries }

/-- Writes how the JobManager runs. -/
def encode (s : JobManagerSpec) : Value :=
  build [
    field "resource" (s.resource.map ResourceSpec.encode),
    field "replicas" s.replicas,
    field "podTemplate" (s.podTemplate.map .map)]

end JobManagerSpec

/-- How TaskManagers run. -/
structure TaskManagerSpec where
  /-- What each TaskManager gets. -/
  resource : Option ResourceSpec := some {}
  /-- The pod template of TaskManagers. -/
  podTemplate : Option (Entries Value) := none
deriving DecidableEq, Inhabited

namespace TaskManagerSpec

/-- Reads how TaskManagers run. -/
def decode (v : Value) : Outcome TaskManagerSpec :=
  match v with
  | .null => .ok {}
  | v => do
    let r ← entriesOf v
    return {
      resource := some (← required r "resource" {} ResourceSpec.decode)
      podTemplate := ← optional r "podTemplate" entries }

/-- Writes how TaskManagers run. -/
def encode (s : TaskManagerSpec) : Value :=
  build [
    field "resource" (s.resource.map ResourceSpec.encode),
    field "podTemplate" (s.podTemplate.map .map)]

end TaskManagerSpec

/-- How a cluster is reached from outside. -/
structure IngressSpec where
  /-- The template of the address. -/
  template : Option String := none
  /-- The class of the ingress. -/
  className : Option String := none
  /-- Annotations of the ingress. -/
  annotations : Option (Entries (Option String)) := none
deriving DecidableEq, Inhabited

namespace IngressSpec

/-- Reads how a cluster is reached. -/
def decode (v : Value) : Outcome IngressSpec :=
  match v with
  | .null => .ok {}
  | v => do
    let r ← entriesOf v
    return {
      template := ← optional r "template" text
      className := ← optional r "className" text
      annotations := ← optional r "annotations" texts }

/-- Writes how a cluster is reached. -/
def encode (s : IngressSpec) : Value :=
  build [
    field "template" (s.template.map .text),
    field "className" (s.className.map .text),
    field "annotations" (s.annotations.map ofTexts)]

end IngressSpec

/-- A job. -/
structure JobSpec where
  /-- Where the program is. -/
  jarUri : Option String := none
  /-- How many subtasks run at a time. -/
  parallelism : Option Value := none
  /-- The class to start. -/
  entryClass : Option String := none
  /-- The arguments of the program. -/
  args : List (Option String) := []
  /-- The state the job should be in. -/
  state : Option JobState := some .running
  /-- A number whose change asks for a savepoint. -/
  savepointTriggerNonce : Option Value := none
  /-- The savepoint to start from. -/
  initialSavepointPath : Option String := none
  /-- How the job is stopped before an upgrade. -/
  upgradeMode : UpgradeMode := .stateless
  /-- Whether state of the savepoint may be left over. -/
  allowNonRestoredState : Option Value := none
deriving DecidableEq, Inhabited

namespace JobSpec

/-- Reads a job. -/
def decode (v : Value) : Outcome JobSpec :=
  match v with
  | .null => .ok {}
  | v => do
    let r ← entriesOf v
    return {
      jarUri := ← optional r "jarURI" text
      parallelism := ← optional r "parallelism" integer
      entryClass := ← optional r "entryClass" text
      args := ← required r "args" [] textList
      state := some (← required r "state" .running Enumeration.parse)
      savepointTriggerNonce := ← optional r "savepointTriggerNonce" integer
      initialSavepointPath := ← optional r "initialSavepointPath" text
      upgradeMode := ← required r "upgradeMode" .stateless Enumeration.parse
      allowNonRestoredState := ← optional r "allowNonRestoredState" any }

/-- Writes a job. -/
def encode (s : JobSpec) : Value :=
  build [
    field "jarURI" (s.jarUri.map .text),
    field "parallelism" s.parallelism,
    field "entryClass" (s.entryClass.map .text),
    field "args" (ofTextList s.args),
    field "state" (s.state.map Enumeration.encode),
    field "savepointTriggerNonce" s.savepointTriggerNonce,
    field "initialSavepointPath" (s.initialSavepointPath.map .text),
    field "upgradeMode" (Enumeration.encode s.upgradeMode),
    field "allowNonRestoredState" s.allowNonRestoredState]

/-- The nonce of a job, null when there is none. -/
def nonce (job : JobSpec) : Value :=
  Value.ofOption job.savepointTriggerNonce

end JobSpec

/-- A cluster, with the job of an application cluster or without one. -/
structure DeploymentSpec where
  /-- The container image. -/
  image : Option String := none
  /-- When the image is pulled. -/
  imagePullPolicy : Option String := none
  /-- The account the pods run under. -/
  serviceAccount : Option String := none
  /-- The version of Flink. -/
  flinkVersion : Option FlinkVersion := none
  /-- The user's configuration entries. -/
  flinkConfiguration : Entries (Option String) := []
  /-- Logging configurations by file name. -/
  logConfiguration : Option (Entries (Option String)) := none
  /-- The pod template of all processes. -/
  podTemplate : Option (Entries Value) := none
  /-- How the cluster is reached. -/
  ingress : Option IngressSpec := none
  /-- How the JobManager runs. -/
  jobManager : Option JobManagerSpec := none
  /-- How TaskManagers run. -/
  taskManager : Option TaskManagerSpec := none
  /-- The job of an application cluster. -/
  job : Option JobSpec := none
deriving DecidableEq, Inhabited

namespace DeploymentSpec

/-- Reads a cluster. -/
def decode (v : Value) : Outcome DeploymentSpec :=
  match v with
  | .null => .ok {}
  | v => do
    let r ← entriesOf v
    return {
      image := ← optional r "image" text
      imagePullPolicy := ← optional r "imagePullPolicy" text
      serviceAccount := ← optional r "serviceAccount" text
      flinkVersion := ← optional r "flinkVersion" Enumeration.parse
      flinkConfiguration := ← required r "flinkConfiguration" [] texts
      logConfiguration := ← optional r "logConfiguration" texts
      podTemplate := ← optional r "podTemplate" entries
      ingress := ← optional r "ingress" IngressSpec.decode
      jobManager := ← optional r "jobManager" JobManagerSpec.decode
      taskManager := ← optional r "taskManager" TaskManagerSpec.decode
      job := ← optional r "job" JobSpec.decode }

/-- Writes a cluster. -/
def encode (s : DeploymentSpec) : Value :=
  build [
    field "image" (s.image.map .text),
    field "imagePullPolicy" (s.imagePullPolicy.map .text),
    field "serviceAccount" (s.serviceAccount.map .text),
    field "flinkVersion" (s.flinkVersion.map Enumeration.encode),
    field "flinkConfiguration" (ofTexts s.flinkConfiguration),
    field "logConfiguration" (s.logConfiguration.map ofTexts),
    field "podTemplate" (s.podTemplate.map .map),
    field "ingress" (s.ingress.map IngressSpec.encode),
    field "jobManager" (s.jobManager.map JobManagerSpec.encode),
    field "taskManager" (s.taskManager.map TaskManagerSpec.encode),
    field "job" (s.job.map JobSpec.encode)]

end DeploymentSpec

/-- A job on a session cluster. -/
structure SessionJobSpec where
  /-- The name of the session cluster. -/
  clusterId : Option String := none
  /-- The job. -/
  job : Option JobSpec := none
  /-- The user's configuration entries. -/
  flinkConfiguration : Entries (Option String) := []
deriving DecidableEq, Inhabited

namespace SessionJobSpec

/-- Reads a job on a session cluster. -/
def decode (v : Value) : Outcome SessionJobSpec :=
  match v with
  | .null => .ok {}
  | v => do
    let r ← entriesOf v
    return {
      clusterId := ← optional r "clusterId" text
      job := ← optional r "job" JobSpec.decode
      flinkConfiguration := ← required r "flinkConfiguration" [] texts }

/-- Writes a job on a session cluster. -/
def encode (s : SessionJobSpec) : Value :=
  build [
    field "clusterId" (s.clusterId.map .text),
    field "job" (s.job.map JobSpec.encode),
    field "flinkConfiguration" (ofTexts s.flinkConfiguration)]

end SessionJobSpec

end FlinkSteward
