import FlinkSteward.Control.Reconcile
import FlinkSteward.Observe.Job
import FlinkSteward.Observe.Savepoint

/-!
# Observing clusters

A pass over a cluster looks at the deployment of its JobManager first. Once that is ready, the job is
looked up and its pending savepoint settled; what was last applied is stable as soon as its job runs.
When the cluster does not answer in time, the deployment is looked at again.

- `ManagerStatus.next`: what a look at a deployment says
- `Operator.observeDeployment`: a pass over a cluster
- `Operator.observeSessionJob`: a pass over a job on a session cluster
-/

namespace FlinkSteward

/-- Whether as many replicas are available as are asked for, which is at least one. -/
def ManagerDeployment.isAvailable (d : ManagerDeployment) : Bool :=
  let desired := (d.replicas.filter (· ≠ 0)).getD 1
  desired ≤ d.available.getD 0

/-- The status of a JobManager after a look at its deployment. Its REST service may still be starting
when all replicas are available for the first time. -/
def ManagerStatus.next (previous : ManagerStatus) : Option ManagerDeployment → ManagerStatus
  | none => .missing
  | some d =>
    if !d.isAvailable then .deploying
    else if previous = .deploying ∨ previous = .missing then .deployedNotReady
    else .ready

namespace Operator

variable {ρ σ : Type}

/-- Looks at the deployment of the JobManager. -/
def observeManager (o : Operator σ) (conf : Config) : Action (Deployment × σ) Unit := do
  let found ← Subject.outside (o.kubernetes.readDeployment (conf.value Config.clusterIdKey)
    (conf.value Config.namespaceKey))
  Subject.modify fun d => { d with status := { d.status with manager := d.status.manager.next found } }

/-- Settles the pending savepoint of the observed job, and records what went wrong with it. -/
def settleSavepoint [Resource ρ] (o : Operator σ) (conf : Config) : Action (ρ × σ) Unit := do
  match ← o.observeSavepoint (← Subject.job).jobIdValue conf with
  | some message => Subject.recordError message
  | none => pure ()

/-- Records that what was last applied runs. -/
def markStable [Resource ρ] : Action (ρ × σ) Unit :=
  Subject.modifyReconciliation ReconciliationStatus.markStable

/-- Looks at the job of a cluster whose JobManager is ready. -/
def observeApplication (o : Operator σ) (conf : Config) : Action (Deployment × σ) Unit := do
  if ← o.observeJob conf (some o.settings.clientTimeout) (o.observeManager conf) then
    o.settleSavepoint conf
    if (← Subject.job).state = some (.text "RUNNING") then markStable

/-- Looks at a cluster whose JobManager is ready: without a job there is nothing more to wait for, and
a suspended job is left alone. -/
def observeReady (o : Operator σ) (conf : Config) (applied : DeploymentSpec) :
    Action (Deployment × σ) Unit :=
  match applied.job with
  | none => markStable
  | some job => if job.state = some .suspended then pure () else o.observeApplication conf

/-- A pass over a cluster. -/
def observeDeployment (o : Operator σ) : Action (Deployment × σ) Unit := do
  match ← Subject.outside (o.deployedConfig (← Subject.get)) with
  | none => pure ()
  | some conf =>
    o.observeManager conf
    let d ← Subject.get
    if d.status.manager = .ready then
      match ← .ofOutcome d.status.reconciliation.lastReconciled with
      | none => pure ()
      | some applied => o.observeReady conf applied

/-- A pass over a job on a session cluster, whose own pass takes care of a cluster that does not
answer. -/
def observeSessionJob (o : Operator σ) (session : Option Deployment) :
    Action (SessionJob × σ) Unit := do
  if (← Subject.get).status.reconciliation.isFirst then return ()
  match session with
  | none => pure ()
  | some d =>
    if d.status.manager = .ready then
      let conf ← Subject.outside (o.currentConfig d)
      if ← o.observeJob conf none (pure ()) then o.settleSavepoint conf

end Operator

end FlinkSteward
