import FlinkSteward.Kubernetes.Client
import FlinkSteward.Manage.Override
import FlinkSteward.Validation.Registry
import FlinkSteward.Value.Merge

/-!
# Managing clusters

Changes of clusters on behalf of users. Every change is checked by the validators before it is sent:
what is checked is the manifest as it will be after the change.

- `Manager.deploy`: creates a cluster
- `Manager.suspend`, `Manager.resume`, `Manager.requestSavepoint`, `Manager.setUpgradeMode`: changes
- `Manager.await`, `Manager.delete`: waiting for a cluster, and its end
-/

namespace FlinkSteward

/-- What changes of clusters need. -/
structure Manager (σ : Type) where
  /-- The connection to Kubernetes. -/
  kubernetes : Kubernetes σ
  /-- The validators. -/
  registry : Registry
  /-- The clock that waits go by. -/
  clock : Clock σ

namespace Manager

variable {σ : Type}

/-- Fails if the validators refuse the cluster of a manifest. -/
def check (m : Manager σ) (manifest : Value) : Outcome Unit := do
  match ← m.registry.validateDeployment (← Deployment.decode manifest) with
  | some reason => .error (.rejected reason)
  | none => return ()

/-- The name in a manifest. -/
def nameIn (manifest : Value) : Outcome Value := do
  (← manifest.item "metadata").item "name"

/-- Creates a cluster from a manifest with overrides, and gives its name. -/
def deploy (m : Manager σ) (manifest : Manifest) (overrides : Entries Value) : Action σ Value := do
  let manifest ← .ofOutcome (manifest.override overrides)
  .ofOutcome (m.check manifest)
  let created ← m.kubernetes.create manifest
  .ofOutcome (nameIn created)

/-- The manifest of a cluster, which has to be there. -/
def manifestOf (m : Manager σ) (name : String) : Action σ Value := do
  match ← m.kubernetes.get Deployment.plural (.text name) .null with
  | some manifest => return manifest
  | none => .fail (.noSuchDeployment name)

/-- A change of the job that a cluster runs. -/
def jobChange (key : String) (x : Value) : Value :=
  .map [("spec", .map [("job", .map [(key, x)])])]

/-- Makes a change of a cluster. -/
def change (m : Manager σ) (name : String) (patch : Value) : Action σ Unit := do
  let manifest ← m.manifestOf name
  .ofOutcome (m.check (manifest.patch patch))
  let _ ← m.kubernetes.patch (.text name) patch .null

/-- Suspends the job of a cluster. -/
def suspend (m : Manager σ) (name : String) : Action σ Unit :=
  m.change name (jobChange "state" (.text (Enumeration.written JobState.suspended)))

/-- Resumes the job of a cluster. -/
def resume (m : Manager σ) (name : String) : Action σ Unit :=
  m.change name (jobChange "state" (.text (Enumeration.written JobState.running)))

/-- The nonce after one that may be missing. -/
def nonceAfter (nonce : Value) : Outcome Value :=
  if !nonce.isTruthy then .ok (.int 1)
  else match nonce.number? with
    | some n =>
      match n.add? (.int 1) with
      | some next => .ok (Value.ofNumber next)
      | none => .error .outOfDoubleRange
    | none => .error (.mismatch (.notCombinable "+" nonce.kind "int"))

/-- The nonce that asks the job of a cluster for a savepoint. -/
def nextNonce (d : Deployment) : Outcome Value :=
  match d.spec.job with
  | some job => nonceAfter job.nonce
  | none => .ok (.int 1)

/-- Asks for a savepoint of the job of a cluster, and gives the nonce that does so. -/
def requestSavepoint (m : Manager σ) (name : String) : Action σ Value := do
  let manifest ← m.manifestOf name
  let nonce ← .ofOutcome (Deployment.decode manifest >>= nextNonce)
  m.change name (jobChange "savepointTriggerNonce" nonce)
  return nonce

/-- Sets how the job of a cluster is stopped before upgrades. -/
def setUpgradeMode (m : Manager σ) (name : String) (mode : UpgradeMode) : Action σ Unit :=
  m.change name (jobChange "upgradeMode" (.text (Enumeration.written mode)))

/-- Waits until the job of a cluster is in a state, for a number of seconds; gives whether it is. -/
def await (m : Manager σ) (name : String) (state timeout : Value) : Action σ Bool :=
  m.kubernetes.awaitState m.clock (.text name) state .null timeout

/-- Deletes a cluster, if it is there. -/
def delete (m : Manager σ) (name : String) : Action σ Unit :=
  m.kubernetes.delete (.text name) .null

end Manager

end FlinkSteward
