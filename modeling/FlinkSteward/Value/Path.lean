import FlinkSteward.Value.Basic

/-!
# Paths into values

A path leads into a value by the keys of maps and the places of lists.

- `Value.Step`: one step of a path, with `Value.child?` for what it leads to
- `Value.atPath?`: what stands at a path
-/

namespace FlinkSteward.Value

/-- One step into a value. -/
inductive Step where
  /-- To the value of a key of a map. -/
  | key (name : String)
  /-- To an item of a list, counted from zero. -/
  | item (index : Nat)
deriving DecidableEq

/-- What one step leads to. -/
def child? : Value → Step → Option Value
  | map fields, .key name => Entries.get? fields name
  | list items, .item i => items[i]?
  | _, _ => none

/-- What stands at a path. -/
def atPath? (v : Value) : List Step → Option Value
  | [] => some v
  | s :: path => (v.child? s).bind fun w => w.atPath? path

theorem atPath?_cons (v : Value) (s : Step) (path : List Step) :
    v.atPath? (s :: path) = (v.child? s).bind fun w => w.atPath? path := rfl

end FlinkSteward.Value
