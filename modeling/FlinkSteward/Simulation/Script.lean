import FlinkSteward.Operator
import FlinkSteward.Simulation.Server

/-!
# Clusters that follow a script

A world in memory: a Kubernetes server, a directory of generated files, a clock that nobody sets, and
a cluster that answers as its script says and records what reaches it.

- `Simulation.Script`: the state of the cluster
- `Simulation.World`: the whole
- `Simulation.World.operator`: an operator in it
-/

namespace FlinkSteward.Simulation

/-- What reaches a cluster. -/
inductive Call where
  /-- A connection is made to the cluster of this namespace and id. -/
  | connect (space clusterId : Value)
  /-- The jobs are listed. -/
  | listJobs
  /-- A job is cancelled. -/
  | cancel (job : Value)
  /-- A job is stopped with a savepoint. -/
  | stop (job : Value) (drain : Bool) (directory : Option String)
  /-- A savepoint is asked for. -/
  | trigger (job : Value) (directory : Option String) (cancel : Bool)
  /-- A savepoint that was asked for is looked at. -/
  | poll (job trigger : Value)
  /-- The connection ends. -/
  | close
deriving DecidableEq, Inhabited

/-- What happens while the jobs are listed. -/
structure Delay where
  /-- How many milliseconds it takes. -/
  millis : Int := 0
  /-- The namespace and the name of a deployment that goes away. -/
  removes : Option (Value × Value) := none
deriving DecidableEq, Inhabited

/-- The script of a cluster, and what has reached it so far. -/
structure Script where
  /-- The jobs that it lists. -/
  jobs : List JobReport := []
  /-- What happens while it lists them. -/
  delay : Delay := {}
  /-- The failures of calls, by the word for the call. -/
  failures : Entries Failure := []
  /-- What became of the savepoints that were asked for, by the id of the request. -/
  savepoints : List (Value × SavepointPoll) := []
  /-- The place of the savepoint of a stop. -/
  stopPlace : Value := .text "file:///sp/stop-1"
  /-- How many savepoints were asked for. -/
  triggers : Nat := 0
  /-- What has reached the cluster. -/
  calls : List Call := []

/-- A world in memory. -/
structure World where
  /-- Kubernetes, with the clock that tells the time. -/
  server : Server := {}
  /-- The clock that nobody sets, in milliseconds. -/
  uptime : Int := 0
  /-- The generated files. -/
  files : Files
  /-- The cluster. -/
  cluster : Script := {}

namespace World

/-- Kubernetes as a part of the world. -/
def serverPart : Part World Server :=
  ⟨server, fun s w => { w with server := s }⟩

/-- The generated files as a part of the world. -/
def filesPart : Part World Files :=
  ⟨files, fun f w => { w with files := f }⟩

/-- Lets time pass on both clocks. -/
def advance (w : World) (millis : Int) : World :=
  { w with server := w.server.advance millis, uptime := w.uptime + millis }

/-- The world after what happens while jobs are listed. -/
def delayed (w : World) : World :=
  let w := w.advance w.cluster.delay.millis
  match w.cluster.delay.removes with
  | none => w
  | some (space, name) => { w with server := w.server.removeDeployment space name }

/-- Records what reaches the cluster. -/
def record (call : Call) : Action World Unit :=
  .change fun w => { w with cluster := { w.cluster with calls := w.cluster.calls ++ [call] } }

/-- Records a call, which fails if the script says so. -/
def receive (word : String) (call : Call) : Action World Unit := do
  record call
  match ← .read fun w => w.cluster.failures.get? word with
  | some f => .fail f
  | none => pure ()

/-- The id of the next savepoint that is asked for. -/
def nextTrigger : Action World Value :=
  .ofRun fun w =>
    let n := w.cluster.triggers + 1
    (.ok (.text ("trigger-" ++ toString n)), { w with cluster := { w.cluster with triggers := n } })

/-- The client of the scripted cluster. -/
def client : Client World where
  listJobs := do
    .change delayed
    receive "list_jobs" .listJobs
    .read fun w => w.cluster.jobs
  cancel job := receive "cancel" (.cancel job)
  stopWithSavepoint job drain directory := do
    receive "stop_with_savepoint" (.stop job drain directory)
    .read fun w => w.cluster.stopPlace
  triggerSavepoint job directory cancel := do
    receive "trigger_savepoint" (.trigger job directory cancel)
    nextTrigger
  savepointStatus job trigger := do
    receive "get_savepoint_status" (.poll job trigger)
    .read fun w => (w.cluster.savepoints.lookup trigger).getD .pending
  close := record .close

/-- Connects to the scripted cluster. -/
def connect (conf : Config) : Action World (Client World) := do
  record (.connect (conf.value Config.namespaceKey) (conf.value Config.clusterIdKey))
  return client

/-- An operator in this world, whose requests go to a namespace unless they name one. -/
def operator (space : Value) (settings : OperatorConfig) (defaults : Config) : Operator World where
  settings := settings
  defaults := defaults
  kubernetes := ⟨space, fun r => .onPart serverPart (Server.answer r)⟩
  connect := connect
  now := .read fun w => w.server.now
  uptime := .read fun w => .ofRatio w.uptime 1000
  files := filesPart

end World

end FlinkSteward.Simulation
