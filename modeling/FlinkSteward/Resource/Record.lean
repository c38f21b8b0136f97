import FlinkSteward.Failure
import FlinkSteward.Number.Integer

/-!
# Records in manifests

The pieces that records are read from and written with. A record is read from a map, entry by entry
in the order of its fields; an entry that is missing or null leaves the field at its default, and
entries that belong to no field are passed over. Fields that are not set are not written.

- `Record.required`, `Record.optional`: the fields
- `Record.text`, `Record.integer`, `Record.texts`, `Record.entries`: what fields hold
- `Record.build`: a value from written fields
-/

namespace FlinkSteward.Record

/-- The entries of the map that a record is read from. -/
def entriesOf (v : Value) : Outcome (Entries Value) :=
  match v with
  | .map fields => .ok fields
  | v => .error (.lacks v "get")

/-- The entry of a key, when it is there and not null. -/
def lookup (r : Entries Value) (key : String) : Option Value :=
  (r.get? key).bind Value.nonNull?

/-- A field that may be unset. -/
def optional {α : Type} (r : Entries Value) (key : String) (read : Value → Outcome α) :
    Outcome (Option α) :=
  match lookup r key with
  | none => .ok none
  | some v => (read v).map some

/-- A field with a default. -/
def required {α : Type} (r : Entries Value) (key : String) (default : α)
    (read : Value → Outcome α) : Outcome α :=
  match lookup r key with
  | none => .ok default
  | some v => read v

/-- Any value at all. -/
def any (v : Value) : Outcome Value :=
  .ok v

/-- A text; other values give their written form. -/
def text (v : Value) : Outcome String :=
  .ok v.asEntry

/-- A number, which may be written as a text. Values of other kinds stay as they are. -/
def integer (v : Value) : Outcome Value :=
  match v with
  | .text s =>
    match Integer.ofText? s with
    | some i => .ok (.int i)
    | none => .error (.notAnInteger s)
  | v => .ok v

/-- An item of a list of texts, or a value of a map of texts; null stays null. -/
def textOrNull (v : Value) : Option String :=
  v.nonNull?.map Value.asEntry

/-- The items that a value gives when one goes through it. -/
def itemsOf (v : Value) : Outcome (List Value) :=
  match v with
  | .list items => .ok items
  | .map fields => .ok (fields.map fun e => .text e.1)
  | .text s => .ok (s.toList.map fun c => .text (String.singleton c))
  | v => .error (.mismatch (.notIterable v.kind))

/-- A list of texts. -/
def textList (v : Value) : Outcome (List (Option String)) :=
  (itemsOf v).map fun items => items.map textOrNull

/-- A list of records, in which null stays null. -/
def listOf {α : Type} (read : Value → Outcome α) (v : Value) : Outcome (List (Option α)) := do
  (← itemsOf v).mapM fun item =>
    match item with
    | .null => .ok none
    | item => (read item).map some

/-- A map of any values. -/
def entries (v : Value) : Outcome (Entries Value) :=
  match v with
  | .map fields => .ok fields
  | v => .error (.lacks v "items")

/-- A map of texts. -/
def texts (v : Value) : Outcome (Entries (Option String)) :=
  (entries v).map (Entries.mapValues textOrNull)

/-- A field as an entry, if it is set. -/
def field (key : String) : Option Value → Entries Value
  | none => []
  | some v => [(key, v)]

/-- A map of texts as a value. -/
def ofTexts (m : Entries (Option String)) : Value :=
  .map (m.mapValues Value.ofText?)

/-- A list of texts as a value. -/
def ofTextList (items : List (Option String)) : Value :=
  .list (items.map Value.ofText?)

/-- Written fields as one value. -/
def build (fields : List (Entries Value)) : Value :=
  .map fields.flatten

end FlinkSteward.Record
