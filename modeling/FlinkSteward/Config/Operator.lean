import FlinkSteward.Config.Basic
import FlinkSteward.Number.Integer

/-!
# The operator's own settings

How often resources are reconciled, how long calls may take, and how savepoints are kept.

- `OperatorConfig.read`: the settings of a configuration, each with a default
-/

namespace FlinkSteward

/-- The settings of the operator. -/
structure OperatorConfig where
  /-- The time between reconciliations. -/
  reconcileInterval : Duration := ⟨60 * 1000000⟩
  /-- How long a call to the cluster may take. -/
  clientTimeout : Duration := ⟨10 * 1000000⟩
  /-- How long stopping a job may take. -/
  cancelTimeout : Duration := ⟨60 * 1000000⟩
  /-- How long a savepoint may be pending. -/
  savepointTimeout : Duration := ⟨600 * 1000000⟩
  /-- How many savepoints are remembered. -/
  historyLimit : Int := 10
  /-- The time between periodic savepoints; none are taken when it is zero. -/
  savepointInterval : Duration := ⟨0⟩
deriving DecidableEq, Inhabited

/-- The integer that a value stands for; a double loses its fraction. -/
def Value.toInteger (v : Value) : Outcome Int :=
  match v with
  | .text s =>
    match Integer.ofText? s with
    | some i => .ok i
    | none => .error (.notAnInteger s)
  | v =>
    match v.number? with
    | some (.int i) => .ok i
    | some (.real .nan) => .error .integerOfNan
    | some (.real (.infinity _)) => .error .integerOfInfinity
    | some (.real x) => .ok x.truncate
    | none => .error (.mismatch (.notIntegral v.kind))

namespace OperatorConfig

/-- The settings of a configuration. -/
def read (c : Config) : Outcome OperatorConfig := do
  let defaults : OperatorConfig := {}
  return {
    reconcileInterval := ← c.duration Config.reconcileIntervalKey defaults.reconcileInterval
    clientTimeout := ← c.duration Config.clientTimeoutKey defaults.clientTimeout
    cancelTimeout := ← c.duration Config.cancelTimeoutKey defaults.cancelTimeout
    savepointTimeout := ← c.duration Config.savepointTimeoutKey defaults.savepointTimeout
    historyLimit := ← match c.get? Config.savepointHistoryKey with
      | none => .ok defaults.historyLimit
      | some v => v.toInteger
    savepointInterval := ← c.duration Config.savepointIntervalKey defaults.savepointInterval }

end OperatorConfig

end FlinkSteward
