import FlinkSteward.Kubernetes.Client
import FlinkSteward.Value.Merge

/-!
# Kubernetes in memory

A server that keeps custom resources and deployments in lists, and on which whole programs can be run
without a network. It records every request, fails those that it is told to fail, and has a clock that
only pauses move. At set times the states of jobs change by themselves.

A change of a status is answered and not kept, since nothing that runs on the server reads it back.

- `Simulation.Server`: the state of the server
- `Simulation.Server.answer`: what it does with a request
- `Simulation.Server.advance`: lets time pass
-/

namespace FlinkSteward.Simulation

open FlinkSteward.Kubernetes

/-- A custom resource that is kept. -/
structure Stored where
  /-- The collection. -/
  plural : String
  /-- The namespace. -/
  space : Value
  /-- The name. -/
  name : Value
  /-- The manifest. -/
  manifest : Value
deriving DecidableEq, Inhabited

/-- A deployment that is kept. -/
structure StoredDeployment where
  /-- The namespace. -/
  space : Value
  /-- The name. -/
  name : Value
  /-- What is known of it. -/
  deployment : ManagerDeployment
deriving DecidableEq, Inhabited

/-- What becomes of a request that the server was told about. -/
inductive Fate where
  /-- It is served. -/
  | served
  /-- It is answered with a status that tells of a failure. -/
  | refused (status : Int)
  /-- The user gives up on it. -/
  | interrupted
deriving DecidableEq, Inhabited

/-- A state that a job takes by itself. -/
structure Event where
  /-- When it does. -/
  time : Int
  /-- The namespace of the cluster. -/
  space : Value
  /-- The name of the cluster. -/
  name : Value
  /-- The state. -/
  state : Value
deriving DecidableEq, Inhabited

/-- The state of a server. -/
structure Server where
  /-- The custom resources, in the order in which they were created. -/
  resources : List Stored := []
  /-- The deployments. -/
  deployments : List StoredDeployment := []
  /-- All pods. -/
  pods : List Value := []
  /-- What becomes of the next requests, by the word for the request. -/
  fates : Entries (List Fate) := []
  /-- What has not happened yet. -/
  events : List Event := []
  /-- The requests so far, also those that failed. -/
  sent : List Request := []
  /-- The time, in milliseconds. -/
  now : Int := 0

/-- The word for a request. -/
def wordFor : Request → String
  | .get .. => "get"
  | .list .. => "list"
  | .create .. => "create"
  | .delete .. => "delete"
  | .patch .. => "patch"
  | .patchStatus .. => "patch_status"
  | .readDeployment .. => "read_deployment"
  | .deleteDeployment .. => "delete_deployment"
  | .deleteConfigMaps .. => "delete_config_maps"
  | .listPods .. => "list_pods"

namespace Server

/-! ## Custom resources -/

/-- Whether a resource is the one of this collection, namespace and name. -/
def isAt (plural : String) (space name : Value) (s : Stored) : Bool :=
  s.plural = plural && s.space = space && s.name = name

/-- The manifest of a custom resource. -/
def manifest? (s : Server) (plural : String) (space name : Value) : Option Value :=
  (s.resources.find? (isAt plural space name)).map Stored.manifest

/-- Keeps a custom resource, in the place of the one of its name if there is one. -/
def keep (r : Stored) : List Stored → List Stored
  | [] => [r]
  | old :: rest => if isAt r.plural r.space r.name old then r :: rest else old :: keep r rest

/-- The server with a custom resource. -/
def put (s : Server) (r : Stored) : Server :=
  { s with resources := keep r s.resources }

/-- The server without a custom resource. -/
def remove (s : Server) (plural : String) (space name : Value) : Server :=
  { s with resources := s.resources.filter fun r => !isAt plural space name r }

/-- The collection that a manifest belongs to. -/
def pluralOf (manifest : Value) : String :=
  if manifest.field? "kind" = some (.text SessionJob.kind) then SessionJob.plural
  else Deployment.plural

/-- An entry of the metadata of a manifest. -/
def metadataOf (manifest : Value) (key : String) : Value :=
  Value.ofOption ((manifest.field? "metadata").bind (Value.field? key))

/-- The server with a manifest, which without a namespace of its own goes into `space`. -/
def putManifest (s : Server) (space manifest : Value) : Server :=
  let own := metadataOf manifest "namespace"
  s.put {
    plural := pluralOf manifest
    space := if own.isTruthy then own else space
    name := metadataOf manifest "name"
    manifest := manifest }

/-! ## Deployments -/

/-- Whether a deployment is the one of this namespace and name. -/
def isDeployment (space name : Value) (d : StoredDeployment) : Bool :=
  d.space = space && d.name = name

/-- What is known of a deployment. -/
def deployment? (s : Server) (space name : Value) : Option ManagerDeployment :=
  (s.deployments.find? (isDeployment space name)).map StoredDeployment.deployment

/-- The server without a deployment. -/
def removeDeployment (s : Server) (space name : Value) : Server :=
  { s with deployments := s.deployments.filter fun d => !isDeployment space name d }

/-- The server with a deployment. -/
def putDeployment (s : Server) (d : StoredDeployment) : Server :=
  let s := s.removeDeployment d.space d.name
  { s with deployments := d :: s.deployments }

/-! ## Requests -/

/-- The failure of a request for what is not there. -/
def missing : Failure := .api 404

/-- The outcome of a look-up. -/
def found {α : Type} : Option α → Outcome α
  | some a => .ok a
  | none => .error missing

/-- Serves a request. -/
def serve (s : Server) : (r : Request) → Outcome r.Reply × Server
  | .get space plural name => (found (s.manifest? plural space name), s)
  | .list space plural =>
    (.ok ((s.resources.filter fun r => r.plural = plural && r.space = space).map Stored.manifest), s)
  | .create space plural manifest =>
    (.ok manifest, s.put ⟨plural, space, metadataOf manifest "name", manifest⟩)
  | .delete space plural name =>
    ((found (s.manifest? plural space name)).map fun _ => (), s.remove plural space name)
  | .patch space plural name change =>
    match s.manifest? plural space name with
    | none => (.error missing, s)
    | some manifest =>
      (.ok (manifest.patch change), s.put ⟨plural, space, name, manifest.patch change⟩)
  | .patchStatus _ _ _ change => (.ok change, s)
  | .readDeployment space name => (found (s.deployment? space name), s)
  | .deleteDeployment space name =>
    ((found (s.deployment? space name)).map fun _ => (), s.removeDeployment space name)
  | .deleteConfigMaps _ _ => (.ok (), s)
  | .listPods _ _ => (.ok s.pods, s)

/-- The fate of the next request with this word, and the server after it. -/
def nextFate (s : Server) (word : String) : Fate × Server :=
  match s.fates.get? word with
  | some (fate :: rest) => (fate, { s with fates := s.fates.put word rest })
  | _ => (.served, s)

/-- Records a request, and serves it unless it is to fail. -/
def answer (r : Request) : Action Server r.Reply :=
  .ofRun fun s =>
    match nextFate { s with sent := s.sent ++ [r] } (wordFor r) with
    | (.served, s) => s.serve r
    | (.refused status, s) => (.error (.api status), s)
    | (.interrupted, s) => (.error .interrupted, s)

/-- A connection to the server. -/
def connection (space : Value) : Kubernetes Server :=
  ⟨space, answer⟩

/-! ## Time -/

/-- What an event does. -/
def happen (s : Server) (e : Event) : Server :=
  match s.manifest? Deployment.plural e.space e.name with
  | none => s
  | some manifest =>
    let change := Value.map [("status", .map [("jobStatus", .map [("state", e.state)])])]
    s.put ⟨Deployment.plural, e.space, e.name, manifest.patch change⟩

/-- Lets time pass; then everything happens that is due. -/
def advance (s : Server) (millis : Int) : Server :=
  let now := s.now + millis
  (s.events.filter fun e => e.time ≤ now).foldl happen
    { s with now, events := s.events.filter fun e => !(e.time ≤ now) }

/-- The clock of the server, which only pauses move. -/
def clock : Clock Server where
  now := .read Server.now
  sleep millis := .change fun s => s.advance millis

end Server

end FlinkSteward.Simulation
