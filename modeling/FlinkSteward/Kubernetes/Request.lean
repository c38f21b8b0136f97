import FlinkSteward.Action

/-!
# Requests to Kubernetes

What is asked of Kubernetes, and what is answered. Custom resources are data; of the deployments that
run JobManagers only the numbers of their replicas matter. Names and namespaces are kept as they were
given, since a name may be missing.

- `Kubernetes.Request`: the requests
- `Kubernetes.Request.Reply`: what the answer to a request is
- `Kubernetes`: a connection
-/

namespace FlinkSteward

/-- What is known of the deployment that runs a JobManager. -/
structure ManagerDeployment where
  /-- How many replicas are asked for. -/
  replicas : Option Int := none
  /-- How many of them are available. -/
  available : Option Int := none
deriving DecidableEq, Inhabited

/-- A request. -/
inductive Kubernetes.Request where
  /-- The manifest of a custom resource. -/
  | get (space : Value) (plural : String) (name : Value)
  /-- The manifests of all custom resources of a kind. -/
  | list (space : Value) (plural : String)
  /-- A new custom resource. -/
  | create (space : Value) (plural : String) (manifest : Value)
  /-- The end of a custom resource. -/
  | delete (space : Value) (plural : String) (name : Value)
  /-- A change of a custom resource. -/
  | patch (space : Value) (plural : String) (name patch : Value)
  /-- A change of the status of a custom resource. -/
  | patchStatus (space : Value) (plural : String) (name patch : Value)
  /-- The deployment of a JobManager. -/
  | readDeployment (space name : Value)
  /-- The end of a deployment, for which its pods have to be gone. -/
  | deleteDeployment (space name : Value)
  /-- The end of all config maps with certain labels. -/
  | deleteConfigMaps (space : Value) (labels : String)
  /-- The pods with certain labels. -/
  | listPods (space labels : Value)
deriving DecidableEq, Inhabited

/-- What the answer to a request is. -/
@[reducible] def Kubernetes.Request.Reply : Kubernetes.Request → Type
  | get .. | create .. | patch .. | patchStatus .. => Value
  | list .. | listPods .. => List Value
  | readDeployment .. => ManagerDeployment
  | delete .. | deleteDeployment .. | deleteConfigMaps .. => Unit

/-- A connection to Kubernetes. -/
structure Kubernetes (σ : Type) where
  /-- The namespace of requests that name none. -/
  space : Value
  /-- Sends a request. -/
  send : (r : Kubernetes.Request) → Action σ r.Reply

/-- A connection that leads nowhere: every request is answered with the status of a service that is not
available. -/
def Kubernetes.offline {σ : Type} (space : Value) : Kubernetes σ :=
  ⟨space, fun _ => .fail (.api 503)⟩

end FlinkSteward
