import FlinkSteward.Text.Base64
import FlinkSteward.Value.Text
import FlinkSteward.Yaml.Calendar

/-!
# The data of a document

What the nodes of a YAML document stand for. Beside the kinds of data that manifests have there are
bytes, dates, lists of pairs and sets, and keys may be of any kind that has no parts.

- `Data`: the type
- `Data.shown`: data as text, with `Data.literal` for the form inside of collections
- `Data.toValue`, `Data.toRecord`: data as a value of a manifest that is sent, and of one that is read
-/

namespace FlinkSteward.Yaml

open FlinkSteward.Text

/-- The data of a document. -/
inductive Data where
  /-- Nothing. -/
  | null
  /-- A truth value. -/
  | bool (b : Bool)
  /-- An integer. -/
  | int (i : Int)
  /-- A double. -/
  | real (x : Double)
  /-- A text. -/
  | text (s : String)
  /-- Bytes. -/
  | bytes (bs : List Nat)
  /-- A day. -/
  | date (d : Date)
  /-- A moment. -/
  | time (t : DateTime)
  /-- Items in order. -/
  | list (items : List Data)
  /-- Pairs in order. -/
  | pairs (items : List (Data × Data))
  /-- Keys without values. -/
  | set (keys : List Data)
  /-- Keys with values. -/
  | map (entries : List (Data × Data))
  /-- The list or map that this place is inside of. -/
  | cycle (isMap : Bool)
deriving Inhabited

namespace Data

/-! ## Keys -/

/-- The number that data stands for; a truth value stands for one or zero. -/
def number? : Data → Option Number
  | bool b => some (.int (if b then 1 else 0))
  | int i => some (.int i)
  | real x => some (.real x)
  | _ => none

/-- Whether two keys are one: numbers are compared by value. -/
def sameKey (a b : Data) : Bool :=
  match a, b with
  | null, null => true
  | text a, text b => a = b
  | bytes a, bytes b => a = b
  | date a, date b => a = b
  | time a, time b => a = b
  | a, b =>
    match a.number?, b.number? with
    | some m, some n => m.same n
    | _, _ => false

/-- Entries with the value of a key set, at its place if it has one and at the end if not. -/
def putEntry {β : Type} (key : Data) (value : β) : List (Data × β) → List (Data × β)
  | [] => [(key, value)]
  | e :: rest => if e.1.sameKey key then (e.1, value) :: rest else e :: putEntry key value rest

/-- The entries that pairs, put one after the other, make. -/
def entriesOf {β : Type} (pairs : List (Data × β)) : List (Data × β) :=
  pairs.foldl (fun m e => putEntry e.1 e.2 m) []

/-- Whether data counts as something: not null, false, zero or empty. -/
def isTruthy : Data → Bool
  | null => false
  | bool b => b
  | int i => i ≠ 0
  | real x => x.isNonzero
  | text s => s ≠ ""
  | bytes bs => !bs.isEmpty
  | list items => !items.isEmpty
  | pairs items => !items.isEmpty
  | set keys => !keys.isEmpty
  | map entries => !entries.isEmpty
  | date _ | time _ | cycle _ => true

/-- The name of the kind of data in messages. -/
def kind : Data → String
  | null => "NoneType"
  | bool _ => "bool"
  | int _ => "int"
  | real _ => "float"
  | text _ => "str"
  | bytes _ => "bytes"
  | date _ => "datetime.date"
  | time _ => "datetime.datetime"
  | list _ | pairs _ => "list"
  | set _ => "set"
  | map _ => "dict"
  | cycle isMap => if isMap then "dict" else "list"

/-! ## Data as text -/

mutual

/-- The form of data inside of collections: texts are quoted. -/
def literal : Data → List Char
  | null => "None".toList
  | bool b => (if b then "True" else "False").toList
  | int i => (toString i).toList
  | real x => x.text.toList
  | text s => (quoted s).toList
  | bytes bs => bytesLiteral bs
  | date d => d.literal.toList
  | time t => t.literal.toList
  | list items => '[' :: literalItems items ++ [']']
  | pairs items => '[' :: literalPairs items ++ [']']
  | set keys => if keys.isEmpty then "set()".toList else '{' :: literalItems keys ++ ['}']
  | map entries => '{' :: literalEntries entries ++ ['}']
  | cycle isMap => if isMap then ['{', '.', '.', '.', '}'] else ['[', '.', '.', '.', ']']

/-- Items with a comma and a blank between two. -/
def literalItems : List Data → List Char
  | [] => []
  | v :: rest => literal v ++ (if rest.isEmpty then [] else [',', ' ']) ++ literalItems rest

/-- Pairs with a comma and a blank between two. -/
def literalPairs : List (Data × Data) → List Char
  | [] => []
  | (k, v) :: rest =>
    '(' :: literal k ++ ',' :: ' ' :: literal v ++ ')' ::
      (if rest.isEmpty then [] else [',', ' ']) ++ literalPairs rest

/-- Entries with a comma and a blank between two. -/
def literalEntries : List (Data × Data) → List Char
  | [] => []
  | (k, v) :: rest =>
    literal k ++ ':' :: ' ' :: literal v ++
      (if rest.isEmpty then [] else [',', ' ']) ++ literalEntries rest

end

/-- Data as text; a text is its own. -/
def shown : Data → String
  | text s => s
  | date d => d.text
  | time t => t.text
  | v => String.ofList (literal v)

/-- Data as a configuration entry: truth values are in lower case. -/
def asEntry : Data → String
  | bool b => if b then "true" else "false"
  | v => v.shown

/-! ## Data as values -/

/-- A key as what is sent spells it. -/
def keyText : Data → String
  | null => "null"
  | bool b => if b then "true" else "false"
  | v => v.shown

mutual

/-- Data as a value of a manifest, with a spelling for keys; what manifests do not have is a text
there. -/
def toValueBy (key : Data → String) : Data → Value
  | null => .null
  | bool b => .bool b
  | int i => .int i
  | real x => .real x
  | text s => .text s
  | list items => .list (toValues key items)
  | set keys => .list (toValues key keys)
  | pairs items => .list (toPairs key items)
  | map entries => .map (toFields key [] entries)
  | bytes bs => .text (String.ofList (bytesLiteral bs))
  | date d => .text d.text
  | time t => .text t.text
  | cycle isMap => .text (if isMap then "\x7b...\x7d" else "[...]")

/-- Items as values. -/
def toValues (key : Data → String) : List Data → List Value
  | [] => []
  | v :: rest => toValueBy key v :: toValues key rest

/-- Pairs as lists of two values. -/
def toPairs (key : Data → String) : List (Data × Data) → List Value
  | [] => []
  | (k, v) :: rest => .list [toValueBy key k, toValueBy key v] :: toPairs key rest

/-- Entries as fields, behind those that are there. -/
def toFields (key : Data → String) (fields : Entries Value) : List (Data × Data) → Entries Value
  | [] => fields
  | (k, v) :: rest => toFields key (fields.put (key k) (toValueBy key v)) rest

end

/-- Data as the value that is sent for it. -/
def toValue (d : Data) : Value :=
  d.toValueBy keyText

/-- Data as the value that is read from it, where keys are spelled as texts are. -/
def toRecord (d : Data) : Value :=
  d.toValueBy shown

end Data

end FlinkSteward.Yaml
