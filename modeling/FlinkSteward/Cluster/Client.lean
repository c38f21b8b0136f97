import FlinkSteward.Action

/-!
# Clients of a cluster

What can be asked of a running cluster, whatever carries the questions. Ids and places are kept as
the cluster gave them.

- `JobReport`, `SavepointPoll`: the answers
- `Client`: the questions
- `Client.use`: a use of a client, which is closed afterwards in any case
-/

namespace FlinkSteward

/-- A job as the cluster reports it. -/
structure JobReport where
  /-- The id. -/
  id : Value
  /-- The name. -/
  name : Value
  /-- The state. -/
  state : Value
  /-- When it started. -/
  startTime : Value
deriving DecidableEq, Inhabited

/-- What became of a savepoint that was asked for. -/
inductive SavepointPoll where
  /-- It is not there yet. -/
  | pending
  /-- It failed, for this cause. -/
  | failed (cause : Value)
  /-- It is there, at this place. -/
  | completed (location : Value)
deriving DecidableEq, Inhabited

/-- What can be asked of a cluster; the state `σ` is that of the world it runs in. -/
structure Client (σ : Type) where
  /-- The jobs of the cluster. -/
  listJobs : Action σ (List JobReport)
  /-- Cancels a job. -/
  cancel (job : Value) : Action σ Unit
  /-- Stops a job with a savepoint, and gives its place once it is there. -/
  stopWithSavepoint (job : Value) (drain : Bool) (directory : Option String) : Action σ Value
  /-- Asks for a savepoint, and gives the id of the request without waiting. -/
  triggerSavepoint (job : Value) (directory : Option String) (cancel : Bool) : Action σ Value
  /-- What became of a savepoint that was asked for. -/
  savepointStatus (job trigger : Value) : Action σ SavepointPoll
  /-- Ends the connection. -/
  close : Action σ Unit

namespace Client

variable {σ τ α : Type}

/-- A client of a part of the world as one of the whole. -/
def onPart (p : Part σ τ) (c : Client τ) : Client σ where
  listJobs := .onPart p c.listJobs
  cancel job := .onPart p (c.cancel job)
  stopWithSavepoint job drain directory := .onPart p (c.stopWithSavepoint job drain directory)
  triggerSavepoint job directory cancel := .onPart p (c.triggerSavepoint job directory cancel)
  savepointStatus job trigger := .onPart p (c.savepointStatus job trigger)
  close := .onPart p c.close

/-- Uses a client and closes it, also when the use fails. -/
def use (connect : Action σ (Client σ)) (job : Client σ → Action σ α) : Action σ α := do
  let c ← connect
  (job c).always c.close

end Client

end FlinkSteward
