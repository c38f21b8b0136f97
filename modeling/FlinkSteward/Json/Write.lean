import FlinkSteward.Value.Basic

/-!
# Writing JSON

A value as a JSON text in ASCII. The compact form sorts the entries of maps by key, so that it does
not depend on their order; the indented form keeps their order. Integers of any length are written out.

- `Json.write`: one line, sorted
- `Json.writeIndented`: a line for each item, two blanks deeper for each level
-/

namespace FlinkSteward.Json

open FlinkSteward.Text

/-- A code unit as an escape. -/
def unitEscape (n : Nat) : List Char :=
  '\\' :: 'u' :: padded 16 4 n

/-- One character inside a string. -/
def stringChar (c : Char) : List Char :=
  if c = '"' then ['\\', '"']
  else if c = '\\' then ['\\', '\\']
  else if c = '\n' then ['\\', 'n']
  else if c = '\r' then ['\\', 'r']
  else if c = '\t' then ['\\', 't']
  else if c = '\x0c' then ['\\', 'f']
  else if c = '\x08' then ['\\', 'b']
  else if ' ' ≤ c ∧ c ≤ '~' then [c]
  else if c.toNat < 0x10000 then unitEscape c.toNat
  else
    let n := c.toNat - 0x10000
    unitEscape (0xd800 + n / 0x400) ++ unitEscape (0xdc00 + n % 0x400)

/-- A text as a string. -/
def stringText (s : String) : List Char :=
  '"' :: s.toList.flatMap stringChar ++ ['"']

/-- A double as a number. -/
def doubleText : Double → List Char
  | .nan => "NaN".toList
  | .infinity n => (if n then "-Infinity" else "Infinity").toList
  | x => x.text.toList

mutual

/-- A value with the entries of every map sorted by key. -/
def sorted : Value → Value
  | .list items => .list (sortedItems items)
  | .map fields => .map (Entries.sorted (sortedFields fields))
  | v => v

/-- Items with the entries of every map in them sorted. -/
def sortedItems : List Value → List Value
  | [] => []
  | v :: rest => sorted v :: sortedItems rest

/-- Fields with the entries of every map in their values sorted. -/
def sortedFields : List (String × Value) → List (String × Value)
  | [] => []
  | (k, v) :: rest => (k, sorted v) :: sortedFields rest

end

mutual

/-- A value on one line, with the entries of maps in their order. -/
def compact : Value → List Char
  | .null => "null".toList
  | .bool b => (if b then "true" else "false").toList
  | .int i => (toString i).toList
  | .real x => doubleText x
  | .text s => stringText s
  | .list items => '[' :: compactItems items ++ [']']
  | .map fields => '{' :: compactFields fields ++ ['}']

/-- Items with a comma and a blank between two. -/
def compactItems : List Value → List Char
  | [] => []
  | v :: rest => compact v ++ (if rest.isEmpty then [] else [',', ' ']) ++ compactItems rest

/-- Fields with a comma and a blank between two. -/
def compactFields : List (String × Value) → List Char
  | [] => []
  | (k, v) :: rest =>
    stringText k ++ ':' :: ' ' :: compact v ++ (if rest.isEmpty then [] else [',', ' ']) ++
      compactFields rest

end

/-- A value as JSON on one line, with the entries of maps sorted by key. -/
def write (v : Value) : String :=
  String.ofList (compact (sorted v))

/-- A line break and the blanks that start a line at this depth. -/
def newLine (depth : Nat) : List Char :=
  '\n' :: List.replicate (2 * depth) ' '

mutual

/-- A value with a line for each item, at this depth. -/
def indented (depth : Nat) : Value → List Char
  | .list items =>
    if items.isEmpty then ['[', ']']
    else '[' :: indentedItems (depth + 1) items ++ newLine depth ++ [']']
  | .map fields =>
    if fields.isEmpty then ['{', '}']
    else '{' :: indentedFields (depth + 1) fields ++ newLine depth ++ ['}']
  | v => compact v

/-- Items on lines of their own. -/
def indentedItems (depth : Nat) : List Value → List Char
  | [] => []
  | v :: rest =>
    newLine depth ++ indented depth v ++ (if rest.isEmpty then [] else [',']) ++
      indentedItems depth rest

/-- Fields on lines of their own. -/
def indentedFields (depth : Nat) : List (String × Value) → List Char
  | [] => []
  | (k, v) :: rest =>
    newLine depth ++ stringText k ++ ':' :: ' ' :: indented depth v ++
      (if rest.isEmpty then [] else [',']) ++ indentedFields depth rest

end

/-- A value as JSON with a line for each item, in the order of its entries. -/
def writeIndented (v : Value) : String :=
  String.ofList (indented 0 v)

example : write (.map [("b", .int 1), ("a", .text "é")]) =
    "\x7b\"a\": \"\\u00e9\", \"b\": 1\x7d" := by decide +kernel

end FlinkSteward.Json
