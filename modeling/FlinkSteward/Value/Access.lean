import FlinkSteward.Failure

/-!
# Looking into values

Entries of data whose shape nobody has checked. A value that is no map has no entries, and the
failure says what it is instead.

- `Value.entry`: an entry that may be missing
- `Value.item`: an entry that has to be there
-/

namespace FlinkSteward.Value

/-- An entry that may be missing. -/
def entry (v : Value) (key : String) (default : Value) : Outcome Value :=
  match v with
  | map fields => .ok ((Entries.get? fields key).getD default)
  | v => .error (.lacks v "get")

/-- An entry that has to be there. -/
def item (v : Value) (key : String) : Outcome Value :=
  match v with
  | map fields =>
    match Entries.get? fields key with
    | some x => .ok x
    | none => .error (.noSuchName key)
  | list _ => .error (.mismatch .listKey)
  | text _ => .error (.mismatch .textKey)
  | v => .error (.mismatch (.notSubscriptable v.kind))

@[simp] theorem entry_map (fields : Entries Value) (key : String) (default : Value) :
    entry (map fields) key default = .ok ((Entries.get? fields key).getD default) := rfl

end FlinkSteward.Value
