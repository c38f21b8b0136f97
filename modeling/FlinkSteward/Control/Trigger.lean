import FlinkSteward.Control.Due
import FlinkSteward.Control.Jobs

/-!
# Asking for savepoints

A savepoint of a running job is asked for when one is due and none is pending. After a manual one the
nonce counts as applied, and nothing else does: other changes of the specification are still to come.

- `Operator.triggerSavepoint`: asks for a savepoint and records that it is pending
- `Operator.triggerIfDue`: does so if one is due
-/

namespace FlinkSteward

/-- What makes a savepoint due, if anything does; a changed nonce comes first. -/
def dueTrigger (job applied : Option JobSpec) (info : SavepointInfo) (conf : Config) (now : Value) :
    Outcome (Option SavepointTrigger) := do
  if isManualDue job applied then return some .manual
  return if ← isPeriodicDue info conf now then some .periodic else none

namespace Operator

variable {ρ σ : Type} [Resource ρ]

/-- Asks for a savepoint of a job, and records on the resource that it is pending. -/
def triggerSavepoint (o : Operator σ) (job : Value) (conf : Config) (trigger : SavepointTrigger) :
    Action (ρ × σ) Value := do
  let id ← Subject.outside (o.requestSavepoint conf job)
  let now ← Subject.outside o.now
  Subject.modifySavepoints fun s => s.begin id.nonNull? trigger (.int now)
  return id

/-- The specification that was last applied, with the nonce of another job. -/
def withNonce (applied : Resource.Spec ρ) (appliedJob job : JobSpec) : Resource.Spec ρ :=
  Resource.withJobSpec applied
    { appliedJob with savepointTriggerNonce := job.savepointTriggerNonce }

/-- Asks for a savepoint if the job runs, none is pending and one is due; gives what made it due. -/
def triggerIfDue (o : Operator σ) (conf : Config) : Action (ρ × σ) (Option SavepointTrigger) := do
  let r : ρ ← Subject.get
  let status := Resource.job r
  match Resource.jobSpec (Resource.spec r) with
  | none => return none
  | some job =>
    if job.state ≠ some .running ∨ status.isTracked = false ∨ status.savepoints.isPending then
      return none
    let applied : Option (Resource.Spec ρ) ← .ofOutcome (Resource.reconciliation r).lastReconciled
    let appliedJob := applied.bind Resource.jobSpec
    let now ← Subject.outside o.now
    match ← .ofOutcome (dueTrigger (some job) appliedJob status.savepoints conf (.int now)) with
    | none => return none
    | some trigger =>
      let _ ← triggerSavepoint (ρ := ρ) o status.jobIdValue conf trigger
      match trigger, applied, appliedJob with
      | .manual, some spec, some old =>
        Subject.modifyReconciliation fun s => s.record (withNonce (ρ := ρ) spec old job)
      | _, _, _ => pure ()
      return some trigger

end Operator

end FlinkSteward
