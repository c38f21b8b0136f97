import FlinkSteward.Operator

/-!
# Jobs of a cluster

Stopping jobs and asking for savepoints. A connection to the cluster is made for each call and closed
after it. How a job is stopped depends on its upgrade mode: it is cancelled, or stopped with a
savepoint, or the JobManager is deleted and the job left to be recovered.

- `Operator.stopJob`, `Operator.deleteCluster`: ends of jobs and clusters
- `Operator.listJobs`, `Operator.requestSavepoint`, `Operator.pollSavepoint`: single questions
-/

namespace FlinkSteward

/-- The upgrade mode of this name. -/
def UpgradeMode.ofValue (v : Value) : Outcome UpgradeMode :=
  match [UpgradeMode.stateless, .savepoint, .lastState].find? fun m =>
      v = .text (Enumeration.written m) with
  | some m => .ok m
  | none => .error (.unknownUpgradeMode v.shown)

namespace Operator

variable {σ : Type}

/-- The jobs of a cluster. -/
def listJobs (o : Operator σ) (conf : Config) : Action σ (List JobReport) :=
  Client.use (o.connect conf) Client.listJobs

/-- Asks for a savepoint of a job, and gives the id of the request. -/
def requestSavepoint (o : Operator σ) (conf : Config) (job : Value) : Action σ Value :=
  Client.use (o.connect conf) fun c => do
    let directory ← .ofOutcome conf.savepointDirectory
    c.triggerSavepoint job directory false

/-- What became of a savepoint that was asked for. -/
def pollSavepoint (o : Operator σ) (conf : Config) (job trigger : Value) : Action σ SavepointPoll :=
  Client.use (o.connect conf) fun c => c.savepointStatus job trigger

/-- Deletes the JobManager of a cluster, and with it what the cluster recovers from if that is asked
for. -/
def deleteCluster (o : Operator σ) (space clusterId : Value) (withRecoveryData : Bool) :
    Action σ Unit := do
  o.kubernetes.deleteDeployment clusterId space
  if withRecoveryData then o.kubernetes.deleteRecoveryData clusterId space

/-- The failure to delete a cluster that has no id. -/
def noClusterId : Failure :=
  .invariant "Cluster id must be set to delete the cluster"

/-- Stops a job as its upgrade mode says. The result is the place of the savepoint, if one was taken. -/
def stopJob (o : Operator σ) (job : Value) (mode : UpgradeMode) (conf : Config) :
    Action σ Value :=
  match mode with
  | .stateless => do
    Client.use (o.connect conf) fun c => c.cancel job
    return .null
  | .savepoint => do
    let directory ← .ofOutcome conf.savepointDirectory
    Client.use (o.connect conf) fun c => c.stopWithSavepoint job false directory
  | .lastState =>
    match conf.value Config.clusterIdKey with
    | .null => .fail noClusterId
    | clusterId => do
      -- what the cluster recovers from stays, so that a new JobManager finds the job
      o.deleteCluster (conf.value Config.namespaceKey) clusterId false
      return .null

end Operator

end FlinkSteward
