import FlinkSteward.Config.Basic
import FlinkSteward.Resource.Savepoint
import FlinkSteward.Resource.Spec
import FlinkSteward.Value.Same

/-!
# When savepoints are due

A manual savepoint is due when the trigger nonce of the specification has changed since it was last
applied. A periodic one is due when the configured interval has passed since the last one.

- `isManualDue`, `isPeriodicDue`: the decisions
-/

namespace FlinkSteward

/-- The nonce of a job that may be missing. -/
def nonceOf (job : Option JobSpec) : Value :=
  (job.map JobSpec.nonce).getD .null

/-- Whether a manual savepoint is due: the nonce is set, not zero, and not the applied one. -/
def isManualDue (job applied : Option JobSpec) : Bool :=
  (nonceOf job).isTruthy && !(nonceOf job).same (nonceOf applied)

/-- How much later one moment is than another. -/
def elapsed (now since : Value) : Outcome Number :=
  match now.number?, since.number? with
  | some a, some b =>
    match a.sub? b with
    | some n => .ok n
    | none => .error .outOfDoubleRange
  | _, _ => .error (.mismatch (.notCombinable "-" now.kind since.kind))

/-- Whether a periodic savepoint is due. -/
def isPeriodicDue (info : SavepointInfo) (conf : Config) (now : Value) : Outcome Bool := do
  let interval ← conf.duration Config.savepointIntervalKey ⟨0⟩
  if interval.micros ≤ 0 then return false
  let past ← elapsed now info.lastPeriodicTimestamp
  return (Number.real interval.millis).le past

end FlinkSteward
