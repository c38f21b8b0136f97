import FlinkSteward.Failure

/-!
# Configurations

A configuration is a flat map from option names to values. Values are texts as a rule, but entries
of a manifest may be null, and defaults may be data of any kind.

- `Config.overlay`: defaults with a user's entries on top
- `Config.isHighlyAvailable`, `Config.savepointDirectory`, `Config.duration`: what entries mean
-/

namespace FlinkSteward

open FlinkSteward.Text

/-- Option names with their values, in order. -/
abbrev Config := Entries Value

namespace Config

/-! ## Option names -/

/-- The namespace of the cluster. -/
def namespaceKey : String := "kubernetes.namespace"

/-- The name of the cluster. -/
def clusterIdKey : String := "kubernetes.cluster-id"

/-- The container image. -/
def imageKey : String := "kubernetes.container.image"

/-- When the image is pulled. -/
def imagePullPolicyKey : String := "kubernetes.container.image.pull-policy"

/-- The account of the pods. -/
def serviceAccountKey : String := "kubernetes.service-account"

/-- The file of the pod template of all processes. -/
def podTemplateKey : String := "kubernetes.pod-template-file"

/-- The file of the JobManager's pod template. -/
def jobManagerPodTemplateKey : String := "kubernetes.pod-template-file.jobmanager"

/-- The file of the TaskManagers' pod template. -/
def taskManagerPodTemplateKey : String := "kubernetes.pod-template-file.taskmanager"

/-- The number of JobManager replicas. -/
def jobManagerReplicasKey : String := "kubernetes.jobmanager.replicas"

/-- The processors of the JobManager. -/
def jobManagerCpuKey : String := "kubernetes.jobmanager.cpu"

/-- The processors of a TaskManager. -/
def taskManagerCpuKey : String := "kubernetes.taskmanager.cpu"

/-- How the REST service is exposed. -/
def restServiceTypeKey : String := "kubernetes.rest-service.exposed.type"

/-- The mode of high availability. -/
def highAvailabilityKey : String := "high-availability"

/-- The value that makes a cluster highly available, in full. -/
def highAvailabilityFactory : String :=
  "org.apache.flink.kubernetes.highavailability.KubernetesHaServicesFactory"

/-- Where savepoints go. -/
def savepointDirectoryKey : String := "state.savepoints.dir"

/-- The time between checkpoints. -/
def checkpointingIntervalKey : String := "execution.checkpointing.interval"

/-- The memory of the JobManager. -/
def jobManagerMemoryKey : String := "jobmanager.memory.process.size"

/-- The memory of a TaskManager. -/
def taskManagerMemoryKey : String := "taskmanager.memory.process.size"

/-- The kind of cluster that a program runs on. -/
def deploymentTargetKey : String := "execution.target"

/-- The jars of the program. -/
def jarsKey : String := "pipeline.jars"

/-- How many subtasks run at a time. -/
def parallelismKey : String := "parallelism.default"

/-- Whether jobs can be cancelled on the web page. -/
def cancelEnabledKey : String := "web.cancel.enable"

/-- The directory of the logging configuration. -/
def directoryKey : String := "$internal.deployment.config-dir"

/-- The address of the REST service. -/
def restAddressKey : String := "rest.address"

/-- The port of the REST service. -/
def restPortKey : String := "rest.port"

/-- The time between reconciliations. -/
def reconcileIntervalKey : String := "kubernetes.operator.reconciler.reschedule.interval"

/-- How long a call to the cluster may take. -/
def clientTimeoutKey : String := "kubernetes.operator.flink.client.timeout"

/-- How long stopping a job may take. -/
def cancelTimeoutKey : String := "kubernetes.operator.flink.client.cancel.timeout"

/-- How long a savepoint may be pending. -/
def savepointTimeoutKey : String := "kubernetes.operator.savepoint.trigger.timeout"

/-- How many savepoints are remembered. -/
def savepointHistoryKey : String := "kubernetes.operator.savepoint.history.max.count"

/-- The time between periodic savepoints. -/
def savepointIntervalKey : String := "kubernetes.operator.periodic.savepoint.interval"

/-- Options that users may not set. -/
def forbiddenKeys : List String := [namespaceKey, clusterIdKey]

/-- The files that a logging configuration may have. -/
def logFiles : List String := ["log4j-console.properties", "logback-console.xml"]

/-! ## What entries mean -/

/-- Entries of a manifest as a configuration. -/
def ofTexts (entries : Entries (Option String)) : Config :=
  entries.mapValues Value.ofText?

/-- Defaults with a user's entries on top. -/
def overlay (defaults : Config) (entries : Entries (Option String)) : Config :=
  defaults.update (ofTexts entries)

/-- The value of an option, null when it is missing. -/
def value (c : Config) (key : String) : Value :=
  (c.get? key).getD .null

/-- A value without the blanks around it, which only texts have. -/
def stripped (v : Value) : Outcome String :=
  match v with
  | .text s => .ok (strip s)
  | v => .error (.lacks v "strip")

/-- Whether Kubernetes keeps the metadata that a cluster recovers from. -/
def isHighlyAvailable (c : Config) : Outcome Bool := do
  let v := c.value highAvailabilityKey
  let mode ← if v.isTruthy then stripped v else .ok ""
  return lower mode = "kubernetes" || lower mode = lower highAvailabilityFactory

/-- Where savepoints go, if anywhere. -/
def savepointDirectory (c : Config) : Outcome (Option String) :=
  match c.value savepointDirectoryKey with
  | .null => .ok none
  | v => (stripped v).map fun s => if s = "" then none else some s

/-- The address of the REST service of the cluster. -/
def restUrl (c : Config) : String :=
  let port := c.value restPortKey
  let address := c.value restAddressKey
  let host := if address.isTruthy then address.shown
    else (c.value clusterIdKey).shown ++ "-rest." ++
      ((c.get? namespaceKey).getD (.text "default")).shown
  "http://" ++ host ++ ":" ++ (if port.isTruthy then port.shown else "8081")

/-- The duration of an option, or the default when the option is missing or blank. -/
def duration (c : Config) (key : String) (default : Duration) : Outcome Duration :=
  match c.value key with
  | .null => .ok default
  | v =>
    if isBlankText v.shown then .ok default
    else Outcome.ofExcept .duration (Duration.ofValue v)

end Config

end FlinkSteward
