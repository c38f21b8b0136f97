import FlinkSteward.Failure

/-!
# Enumerations in manifests

Enumerations whose members have a constant name and a written value. Reading accepts the written
value as it is, and the constant name in any letter case, with blanks around it and with hyphens for
underscores.

- `Enumeration.parse`: the member that a value stands for
- `UpgradeMode`, `JobState`, `FlinkVersion`, `ManagerStatus`, `SavepointTrigger`: the enumerations
-/

namespace FlinkSteward

open FlinkSteward.Text

/-- A type with named members. -/
class Enumeration (α : Type) where
  /-- The members in order. -/
  members : List α
  /-- The constant name of a member. -/
  name : α → String
  /-- The written value of a member. -/
  written : α → String

namespace Enumeration

variable {α : Type} [Enumeration α]

/-- The member of that written value. -/
def ofWritten? (s : String) : Option α :=
  members.find? fun a => written a = s

/-- The member of that constant name. -/
def ofName? (s : String) : Option α :=
  members.find? fun a => name a = s

/-- A text as a constant name: upper case, with underscores for hyphens. -/
def nameOf (s : String) : String :=
  String.ofList ((upper s).toList.map fun c => if c = '-' then '_' else c)

/-- The member that a text stands for once its blanks are off. -/
def ofNameLike (s : String) : Outcome α :=
  match ofName? s with
  | some a => .ok a
  | none =>
    match ofName? (nameOf s) with
    | some a => .ok a
    | none => .error (.noSuchName (nameOf s))

/-- The member that a value stands for. -/
def parse (v : Value) : Outcome α :=
  match v with
  | .text s =>
    match ofWritten? s with
    | some a => .ok a
    | none => ofNameLike (strip s)
  | v => ofNameLike (strip v.shown)

/-- A member as a value. -/
def encode (a : α) : Value :=
  .text (written a)

end Enumeration

/-- How a running job is stopped before an upgrade. -/
inductive UpgradeMode where
  /-- The job is cancelled and loses its state. -/
  | stateless
  /-- The job stops with a savepoint. -/
  | savepoint
  /-- The cluster is removed and recovers the job from its last state. -/
  | lastState
deriving DecidableEq, Inhabited, Repr

/-- The state a job should be in. -/
inductive JobState where
  /-- The job should run. -/
  | running
  /-- The job should be stopped. -/
  | suspended
deriving DecidableEq, Inhabited, Repr

/-- The supported versions of Flink. -/
inductive FlinkVersion where
  /-- Version 1.13. -/
  | v1_13
  /-- Version 1.14. -/
  | v1_14
  /-- Version 1.15. -/
  | v1_15
deriving DecidableEq, Inhabited, Repr

/-- What was observed of the JobManager's deployment. -/
inductive ManagerStatus where
  /-- It answers. -/
  | ready
  /-- All replicas are up, and it may not answer yet. -/
  | deployedNotReady
  /-- Some replicas are not up. -/
  | deploying
  /-- It does not exist. -/
  | missing
  /-- It failed. -/
  | error
deriving DecidableEq, Inhabited, Repr

/-- What caused a savepoint. -/
inductive SavepointTrigger where
  /-- A user asked for it. -/
  | manual
  /-- It was due. -/
  | periodic
  /-- The cause was not recorded. -/
  | unknown
deriving DecidableEq, Inhabited, Repr

instance : Enumeration UpgradeMode where
  members := [.stateless, .savepoint, .lastState]
  name
    | .stateless => "STATELESS"
    | .savepoint => "SAVEPOINT"
    | .lastState => "LAST_STATE"
  written
    | .stateless => "stateless"
    | .savepoint => "savepoint"
    | .lastState => "last-state"

instance : Enumeration JobState where
  members := [.running, .suspended]
  name
    | .running => "RUNNING"
    | .suspended => "SUSPENDED"
  written
    | .running => "running"
    | .suspended => "suspended"

/-- The name of a version of Flink, which is also its written value. -/
def FlinkVersion.name : FlinkVersion → String
  | v1_13 => "v1_13"
  | v1_14 => "v1_14"
  | v1_15 => "v1_15"

instance : Enumeration FlinkVersion where
  members := [.v1_13, .v1_14, .v1_15]
  name := FlinkVersion.name
  written := FlinkVersion.name

/-- The name of a JobManager status, which is also its written value. -/
def ManagerStatus.name : ManagerStatus → String
  | ready => "READY"
  | deployedNotReady => "DEPLOYED_NOT_READY"
  | deploying => "DEPLOYING"
  | missing => "MISSING"
  | error => "ERROR"

instance : Enumeration ManagerStatus where
  members := [.ready, .deployedNotReady, .deploying, .missing, .error]
  name := ManagerStatus.name
  written := ManagerStatus.name

/-- The name of a savepoint's cause, which is also its written value. -/
def SavepointTrigger.name : SavepointTrigger → String
  | manual => "MANUAL"
  | periodic => "PERIODIC"
  | unknown => "UNKNOWN"

instance : Enumeration SavepointTrigger where
  members := [.manual, .periodic, .unknown]
  name := SavepointTrigger.name
  written := SavepointTrigger.name

example : (Enumeration.parse (.text " Last-State ") : Outcome UpgradeMode) = .ok .lastState := by
  decide +kernel

end FlinkSteward
