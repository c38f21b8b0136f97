import FlinkSteward.Cluster.Client
import FlinkSteward.Config.Effective
import FlinkSteward.Config.Operator
import FlinkSteward.Kubernetes.Client

/-!
# The operator

What the operator works with: its settings, and the ways in which it reaches clusters, Kubernetes and
clocks. The state `σ` is that of the world around it. An action on a resource has the resource beside
the world in its state, so that what it changed before it failed stays changed.

- `Operator`: the parts
- `Subject.outside`, `Subject.get`, `Subject.modify`: steps of actions on a resource
- `Operator.deployedConfig`, `Operator.currentConfig`: configurations of clusters
-/

namespace FlinkSteward

/-- An operator in a world. -/
structure Operator (σ : Type) where
  /-- Its own settings. -/
  settings : OperatorConfig
  /-- What every configuration starts from. -/
  defaults : Config
  /-- The connection to Kubernetes. -/
  kubernetes : Kubernetes σ
  /-- Connects to the cluster of a configuration. -/
  connect : Config → Action σ (Client σ)
  /-- The time in milliseconds. -/
  now : Action σ Int
  /-- The seconds since some moment, on a clock that nobody sets. -/
  uptime : Action σ Double
  /-- The directory of generated files. -/
  files : Part σ Files

namespace Operator

variable {σ τ : Type}

/-- An operator in a part of a world as one in the whole. -/
def onPart (p : Part τ σ) (o : Operator σ) : Operator τ where
  settings := o.settings
  defaults := o.defaults
  kubernetes := ⟨o.kubernetes.space, fun r => .onPart p (o.kubernetes.send r)⟩
  connect conf := do return (← Action.onPart p (o.connect conf)).onPart p
  now := .onPart p o.now
  uptime := .onPart p o.uptime
  files := p.andThen o.files

/-- The configuration that was last deployed for a cluster, if any was. -/
def deployedConfig (o : Operator σ) (d : Deployment) : Action σ (Option Config) :=
  .onPart o.files (Config.deployed o.defaults d)

/-- The configuration that was last deployed for a cluster, or else the one that it asks for. Kubernetes
hands out clusters as texts, so that their pod templates have every list and map in one place. -/
def currentConfig (o : Operator σ) (d : Deployment) : Action σ Config := do
  match ← o.deployedConfig d with
  | some conf => return conf
  | none => .onPart o.files (Config.effective {} o.defaults d.metadata d.spec)

end Operator

/-! ## Actions on a resource -/

namespace Subject

variable {ρ σ α : Type}

/-- A step that does not touch the resource. -/
def outside (a : Action σ α) : Action (ρ × σ) α :=
  .onPart Part.second a

/-- The resource. -/
def get : Action (ρ × σ) ρ :=
  .read Prod.fst

/-- Changes the resource. -/
def modify (f : ρ → ρ) : Action (ρ × σ) Unit :=
  .change fun s => (f s.1, s.2)

variable [Resource ρ]

/-- What was observed of the job. -/
def job : Action (ρ × σ) JobStatus :=
  .read fun s => Resource.job s.1

/-- Changes what was observed of the job. -/
def modifyJob (f : JobStatus → JobStatus) : Action (ρ × σ) Unit :=
  modify fun r => Resource.withJob r (f (Resource.job r))

/-- Changes the savepoints of the job. -/
def modifySavepoints (f : SavepointInfo → SavepointInfo) : Action (ρ × σ) Unit :=
  modifyJob fun s => { s with savepoints := f s.savepoints }

/-- Changes the record of what was last applied. -/
def modifyReconciliation (f : ReconciliationStatus → ReconciliationStatus) :
    Action (ρ × σ) Unit :=
  modify fun r => Resource.withReconciliation r (f (Resource.reconciliation r))

/-- Sets the last error. -/
def setError (error : Option String) : Action (ρ × σ) Unit :=
  modify fun r => Resource.withError r error

end Subject

end FlinkSteward
