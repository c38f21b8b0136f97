import FlinkSteward.Resource.Enumeration
import FlinkSteward.Resource.Record

/-!
# Savepoints of a job

The savepoints that were taken of a job, and the one that was asked for and is not there yet. A
location and the id of a pending savepoint are kept as the cluster reported them.

- `SavepointInfo.begin`, `SavepointInfo.clear`: the pending savepoint
- `SavepointInfo.complete`: records a savepoint and settles the pending one
-/

namespace FlinkSteward

open Record

/-- A savepoint. -/
structure Savepoint where
  /-- When it was recorded, in milliseconds. -/
  timeStamp : Value := .int 0
  /-- Where it is. -/
  location : Option Value := none
  /-- What caused it. -/
  trigger : SavepointTrigger := .unknown
deriving DecidableEq, Inhabited

namespace Savepoint

/-- Reads a savepoint. -/
def decode (v : Value) : Outcome Savepoint :=
  match v with
  | .null => .ok {}
  | v => do
    let r ← entriesOf v
    return {
      timeStamp := ← required r "timeStamp" (.int 0) integer
      location := ← optional r "location" fun v => (text v).map .text
      trigger := ← required r "triggerType" .unknown Enumeration.parse }

/-- Writes a savepoint. -/
def encode (s : Savepoint) : Value :=
  build [
    field "timeStamp" s.timeStamp,
    field "location" s.location,
    field "triggerType" (Enumeration.encode s.trigger)]

end Savepoint

/-- The savepoints of a job. -/
structure SavepointInfo where
  /-- The latest savepoint. -/
  lastSavepoint : Option Savepoint := none
  /-- The id of the pending savepoint. -/
  triggerId : Option Value := none
  /-- When the pending savepoint was asked for. -/
  triggerTimestamp : Option Value := none
  /-- What caused the pending savepoint. -/
  triggerType : Option SavepointTrigger := none
  /-- When the latest periodic savepoint was recorded. -/
  lastPeriodicTimestamp : Value := .int 0
  /-- The latest savepoints, oldest first. -/
  history : List (Option Savepoint) := []
deriving DecidableEq, Inhabited

namespace SavepointInfo

/-- Reads the savepoints of a job. -/
def decode (v : Value) : Outcome SavepointInfo :=
  match v with
  | .null => .ok {}
  | v => do
    let r ← entriesOf v
    return {
      lastSavepoint := ← optional r "lastSavepoint" Savepoint.decode
      triggerId := ← optional r "triggerId" fun v => (text v).map .text
      triggerTimestamp := ← optional r "triggerTimestamp" integer
      triggerType := ← optional r "triggerType" Enumeration.parse
      lastPeriodicTimestamp := ← required r "lastPeriodicSavepointTimestamp" (.int 0) integer
      history := ← required r "savepointHistory" [] (listOf Savepoint.decode) }

/-- Writes the savepoints of a job. -/
def encode (s : SavepointInfo) : Value :=
  build [
    field "lastSavepoint" (s.lastSavepoint.map Savepoint.encode),
    field "triggerId" s.triggerId,
    field "triggerTimestamp" s.triggerTimestamp,
    field "triggerType" (s.triggerType.map Enumeration.encode),
    field "lastPeriodicSavepointTimestamp" s.lastPeriodicTimestamp,
    field "savepointHistory"
      (Value.list (s.history.map fun h => Value.ofOption (h.map Savepoint.encode)))]

/-- Whether a savepoint was asked for and is not there yet. -/
def isPending (s : SavepointInfo) : Bool :=
  match s.triggerId with
  | some id => id.isTruthy
  | none => false

/-- Records that a savepoint was asked for. -/
def begin (s : SavepointInfo) (id : Option Value) (trigger : SavepointTrigger) (time : Value) :
    SavepointInfo :=
  { s with triggerId := id, triggerTimestamp := some time, triggerType := some trigger }

/-- Forgets the pending savepoint. -/
def clear (s : SavepointInfo) : SavepointInfo :=
  { s with triggerId := none, triggerTimestamp := none, triggerType := none }

/-- The last `limit` items of a list, all of it without a limit, and none for a limit below one. -/
def lastItems {α : Type} (limit : Option Int) (items : List α) : List α :=
  match limit with
  | none => items
  | some k => items.drop (items.length - k.toNat)

/-- Records a savepoint, keeps at most `limit` of them, and settles the pending one. -/
def complete (s : SavepointInfo) (savepoint : Savepoint) (limit : Option Int) : SavepointInfo :=
  { s with
    lastSavepoint := some savepoint
    history := lastItems limit (s.history ++ [some savepoint])
    lastPeriodicTimestamp :=
      if savepoint.trigger = .periodic then savepoint.timeStamp else s.lastPeriodicTimestamp
    triggerId := none
    triggerTimestamp := none
    triggerType := none }

@[simp] theorem isPending_clear (s : SavepointInfo) : s.clear.isPending = false := rfl

@[simp] theorem isPending_complete (s : SavepointInfo) (p : Savepoint) (limit : Option Int) :
    (s.complete p limit).isPending = false := rfl

/-- A limit bounds what `lastItems` keeps. -/
theorem length_lastItems_le {α : Type} (k : Int) (items : List α) :
    (lastItems (some k) items).length ≤ k.toNat := by
  simp only [lastItems, List.length_drop]; omega

end SavepointInfo

end FlinkSteward
