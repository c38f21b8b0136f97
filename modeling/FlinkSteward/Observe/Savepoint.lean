import FlinkSteward.Control.Due
import FlinkSteward.Control.Jobs

/-!
# Observing a savepoint

A pending savepoint is looked at until it is there, has failed, or has been pending for too long. In
all three cases it is pending no more.

- `Operator.observeSavepoint`: the observation, which gives what went wrong
-/

namespace FlinkSteward

/-- What is told about a savepoint that failed. -/
def savepointFailed (cause : Value) : String :=
  "Savepoint failed: " ++ cause.shown

/-- What is told about a savepoint that has been pending for too long. -/
def savepointTimedOut (trigger job : Value) (budget : Duration) : String :=
  "Savepoint timed out: trigger " ++ trigger.shown ++ " of job " ++ job.shown ++
    " still pending after " ++ budget.text

/-- Whether a savepoint that was asked for at `since` has been pending for longer than a budget. -/
def isOverdue (budget : Duration) (now since : Value) : Outcome Bool :=
  (elapsed now since).map fun past => (Number.real budget.millis).lt past

namespace Operator

variable {ρ σ : Type} [Resource ρ]

/-- Looks at a savepoint that is still pending: the time that it may take starts now if nobody knows
when it was asked for. -/
def observePending (o : Operator σ) (info : SavepointInfo) (trigger job : Value) (conf : Config) :
    Action (ρ × σ) (Option String) := do
  match info.triggerTimestamp with
  | none =>
    let now ← Subject.outside o.now
    Subject.modifySavepoints fun s => { s with triggerTimestamp := some (.int now) }
    return none
  | some since =>
    let budget ← .ofOutcome (conf.duration Config.savepointTimeoutKey o.settings.savepointTimeout)
    let now ← Subject.outside o.now
    if ← .ofOutcome (isOverdue budget (.int now) since) then
      Subject.modifySavepoints SavepointInfo.clear
      return some (savepointTimedOut trigger job budget)
    else return none

/-- Looks at the pending savepoint of a job, if there is one, and gives what went wrong with it. -/
def observeSavepoint (o : Operator σ) (job : Value) (conf : Config) :
    Action (ρ × σ) (Option String) := do
  let info := (← Subject.job).savepoints
  if info.isPending = false then return none
  let trigger := Value.ofOption info.triggerId
  match ← Subject.outside (o.pollSavepoint conf job trigger) with
  | .failed cause =>
    Subject.modifySavepoints SavepointInfo.clear
    return some (savepointFailed cause)
  | .pending => o.observePending info trigger job conf
  | .completed place =>
    let now ← Subject.outside o.now
    let savepoint : Savepoint := {
      timeStamp := .int now
      location := place.nonNull?
      trigger := info.triggerType.getD .unknown }
    Subject.modifySavepoints fun s => s.complete savepoint (some o.settings.historyLimit)
    return none

end Operator

end FlinkSteward
