import FlinkSteward.Failure
import FlinkSteward.Manage.Manifest
import FlinkSteward.Text.Split

/-!
# Overrides

Values that are put into a manifest at paths of keys with dots between them, one after the other.
Maps that are missing on the way are created. What is put into a map that is shared is in all of the
places where that map stands. The values of overrides are data of their own: no two of them have a map
or a list in common, and none has one in common with the manifest.

- `Value.putAt`: a value with another one put into it
- `Manifest.overrideOne`: a manifest after one override, with `Manifest.written` for its places
- `Manifest.override`: what a manifest says after all overrides
-/

namespace FlinkSteward

open FlinkSteward.Text

namespace Value

/-- A value with the entry of a key set. -/
def putField (v : Value) (key : String) (x : Value) : Outcome Value :=
  match v with
  | map fields => .ok (map (Entries.put fields key x))
  | list _ => .error (.mismatch .listKey)
  | v => .error (.mismatch (.noAssignment v.kind))

/-- What a step leads to, which is an empty map where a map has nothing. -/
def enter (v : Value) (s : Step) : Outcome Value :=
  match v, s with
  | map fields, .key name => .ok ((Entries.get? fields name).getD (map []))
  | list items, .item i => (items[i]?).elim (.error (.lacks v "setdefault")) .ok
  | _, _ => .error (.lacks v "setdefault")

/-- A value with another one where a step leads to. -/
def setChild (v : Value) (s : Step) (w : Value) : Value :=
  match v, s with
  | map fields, .key name => map (Entries.put fields name w)
  | list items, .item i => list (items.set i w)
  | v, _ => v

/-- A value with the entry of a key set in the map at a path. -/
def putAt (v : Value) (front : List Step) (key : String) (x : Value) : Outcome Value :=
  match front with
  | [] => v.putField key x
  | s :: rest => do
    let inner ← (← v.enter s).putAt rest key x
    return v.setChild s inner

end Value

namespace Manifest

/-- The keys of a path. -/
def keysOf (path : String) : List String :=
  (splitAt '.' path.toList).map String.ofList

/-- The places that an override of a path puts its value into. -/
def written (m : Manifest) (path : String) : List (List Value.Step) :=
  match (keysOf path).reverse with
  | [] => []
  | key :: back => (m.placesOf (back.map .key)).map (· ++ [.key key])

/-- A manifest after one override. What was shared with other places and stood where the value is now
is shared no more. -/
def overrideOne (m : Manifest) (path : String) (x : Value) : Outcome Manifest :=
  match (keysOf path).reverse with
  | [] => .ok m
  | key :: back => do
    let value ← (m.placesOf (back.map .key)).foldlM (fun v front => v.putAt front key x) m.value
    return { value, shared := m.shared.map (·.outside (m.written path)) }

/-- A manifest after overrides, in their order. -/
def overridden (m : Manifest) (overrides : Entries Value) : Outcome Manifest :=
  overrides.foldlM (fun m e => m.overrideOne e.1 e.2) m

/-- What a manifest says after overrides, the values of which are data of their own. -/
def override (m : Manifest) (overrides : Entries Value) : Outcome Value :=
  (m.overridden overrides).map value

theorem keysOf_ne_nil (path : String) : keysOf path ≠ [] := by
  simp [keysOf, splitAt_ne_nil]

end Manifest

end FlinkSteward
