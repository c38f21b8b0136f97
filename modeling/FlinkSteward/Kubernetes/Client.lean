import FlinkSteward.Kubernetes.Request
import FlinkSteward.Resource.Basic
import FlinkSteward.Value.Access
import FlinkSteward.Value.Same

/-!
# Using Kubernetes

The operations that the operator and its users need. A resource that is not there is no failure when
it is looked up or deleted; other failures are passed on, except that pods that cannot be listed count
as none.

- `Kubernetes.get`, `Kubernetes.readDeployment`: look-ups, with `orMissing` for what is not there
- `Kubernetes.create`, `Kubernetes.patch`, `Kubernetes.writeStatus`, `Kubernetes.delete`: changes
- `Kubernetes.awaitState`: waits for the job of a cluster, by a `Clock`
-/

namespace FlinkSteward

/-- A clock that shows the time, and on which one can wait, in milliseconds. -/
structure Clock (σ : Type) where
  /-- The time. -/
  now : Action σ Int
  /-- Lets time pass. -/
  sleep : Int → Action σ Unit

namespace Kubernetes

variable {σ α : Type}

/-- Whether Kubernetes answered that there is no such thing. -/
def isMissing : Failure → Bool
  | .api status => status = 404
  | _ => false

/-- The result of an action, or nothing if what it asks for is not there. -/
def orMissing (a : Action σ α) : Action σ (Option α) :=
  .ofRun fun s =>
    match a.runOn s with
    | (.ok x, s) => (.ok (some x), s)
    | (.error f, s) => (if isMissing f then .ok none else .error f, s)

/-- The namespace of a request. -/
def spaceOf (k : Kubernetes σ) (space : Value) : Value :=
  if space.isTruthy then space else k.space

/-! ## Custom resources -/

/-- The manifest of a custom resource, if there is one. -/
def get (k : Kubernetes σ) (plural : String) (name space : Value) : Action σ (Option Value) :=
  orMissing (k.send (.get (k.spaceOf space) plural name))

/-- The manifests of all clusters. -/
def listDeployments (k : Kubernetes σ) (space : Value) : Action σ (List Value) :=
  k.send (.list (k.spaceOf space) Deployment.plural)

/-- The namespace that a manifest says it belongs to. -/
def spaceOfManifest (manifest : Value) : Outcome Value := do
  (← manifest.entry "metadata" (.map [])).entry "namespace" .null

/-- Creates a cluster from its manifest. -/
def create (k : Kubernetes σ) (manifest : Value) : Action σ Value := do
  let space ← .ofOutcome (spaceOfManifest manifest)
  k.send (.create (k.spaceOf space) Deployment.plural manifest)

/-- Deletes a cluster, if it is there. -/
def delete (k : Kubernetes σ) (name space : Value) : Action σ Unit := do
  let _ ← orMissing (k.send (.delete (k.spaceOf space) Deployment.plural name))

/-- Changes the manifest of a cluster. -/
def patch (k : Kubernetes σ) (name change space : Value) : Action σ Value :=
  k.send (.patch (k.spaceOf space) Deployment.plural name change)

/-- Writes the whole status of a custom resource. -/
def writeStatus (k : Kubernetes σ) (plural : String) (name status space : Value) : Action σ Value :=
  k.send (.patchStatus (k.spaceOf space) plural name (.map [("status", status)]))

/-! ## JobManagers -/

/-- The deployment of a JobManager, if there is one. -/
def readDeployment (k : Kubernetes σ) (name space : Value) : Action σ (Option ManagerDeployment) :=
  orMissing (k.send (.readDeployment (k.spaceOf space) name))

/-- Deletes the deployment of a JobManager, if it is there, together with its pods. -/
def deleteDeployment (k : Kubernetes σ) (name space : Value) : Action σ Unit := do
  let _ ← orMissing (k.send (.deleteDeployment (k.spaceOf space) name))

/-- The labels of the config maps that a cluster recovers from. -/
def recoveryLabels (clusterId : Value) : String :=
  "app=" ++ clusterId.shown ++ ",configmap-type=high-availability"

/-- Deletes what a cluster recovers from. -/
def deleteRecoveryData (k : Kubernetes σ) (clusterId space : Value) : Action σ Unit :=
  k.send (.deleteConfigMaps (k.spaceOf space) (recoveryLabels clusterId))

/-- The pods with certain labels, none of them when they cannot be listed. -/
def listPods (k : Kubernetes σ) (labels space : Value) : Action σ (List Value) :=
  .ofRun fun s =>
    match (k.send (.listPods (k.spaceOf space) labels)).runOn s with
    | (.error (.api _), s) => (.ok [], s)
    | r => r

/-! ## Waiting -/

/-- The milliseconds between two looks. -/
def pollMillis : Nat := 5000

/-- Whether so many milliseconds are less than a timeout, which has to be a number of seconds. -/
def isWithin (millis : Int) (timeout : Value) : Outcome Bool :=
  match timeout.number? with
  | some (.int seconds) => .ok (millis < 1000 * seconds)
  | some (.real .nan) => .ok false
  | some (.real (.infinity negative)) => .ok !negative
  | some (.real seconds) => .ok (millis * Double.unitsPerOne < 1000 * seconds.units)
  | none => .error (.mismatch (.unordered "<" "float" timeout.kind))

/-- Enough steps for a wait that takes some seconds in each of them: one for each second of the timeout,
and two more. -/
def stepsWithin (timeout : Value) : Nat :=
  match timeout.number? with
  | some (.int seconds) => seconds.toNat + 2
  | some (.real seconds) => seconds.truncate.toNat + 2
  | none => 2

/-- Whether the status in a manifest shows the job in a state. -/
def showsState (manifest : Option Value) (state : Value) : Outcome Bool :=
  match manifest with
  | none => .ok false
  | some m =>
    if !m.isTruthy then .ok false
    else do
      let status ← m.entry "status" .null
      if !status.isTruthy then return false
      let job ← status.entry "jobStatus" (.map [])
      return (← job.entry "state" .null).same state

/-- Goes on with a wait that began at `start`: looks at a cluster while there is time, with a pause
after each look, until its job is in a state; gives whether it is. What does not end within so many
steps is broken off. -/
def awaitSince (k : Kubernetes σ) (clock : Clock σ) (name state space timeout : Value)
    (start : Int) : Nat → Action σ Bool
  | 0 => .fail .interrupted
  | steps + 1 => do
    let now ← clock.now
    if ← .ofOutcome (isWithin (now - start) timeout) then
      let manifest ← k.get Deployment.plural name space
      if ← .ofOutcome (showsState manifest state) then return true
      clock.sleep pollMillis
      k.awaitSince clock name state space timeout start steps
    else return false

/-- Waits until the job of a cluster is in a state, for a number of seconds; gives whether it is. -/
def awaitState (k : Kubernetes σ) (clock : Clock σ) (name state space timeout : Value) :
    Action σ Bool := do
  let start ← clock.now
  k.awaitSince clock name state space timeout start (stepsWithin timeout)

end Kubernetes

end FlinkSteward
