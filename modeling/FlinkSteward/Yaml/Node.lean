import FlinkSteward.Yaml.Plain
import FlinkSteward.Yaml.Token

/-!
# Nodes of YAML

The tree of a YAML document: scalars, sequences and mappings, each with a tag that says what it stands
for. What refers to a node that was given elsewhere is that node.

- `Node`: a node and where it starts
- `Node.resolved`: the tag of a scalar that has none
-/

namespace FlinkSteward.Yaml

/-- A node. -/
inductive Node where
  /-- A text. -/
  | scalar (tag text : String) (start : Mark)
  /-- Items in order. -/
  | sequence (tag : String) (items : List Node) (start : Mark)
  /-- Entries in order. -/
  | mapping (tag : String) (entries : List (Node × Node)) (start : Mark)
  /-- The sequence or mapping that this place is inside of. -/
  | cycle (isMapping : Bool) (start : Mark)
deriving Inhabited

namespace Node

/-- Where a node starts. -/
def start : Node → Mark
  | scalar _ _ m | sequence _ _ m | mapping _ _ m | cycle _ m => m

/-- What a node is called in messages. -/
def word : Node → String
  | scalar .. => "scalar"
  | sequence .. => "sequence"
  | mapping .. => "mapping"
  | cycle isMapping _ => if isMapping then "mapping" else "sequence"

/-- The address that the tags of the language start with. -/
def tagBase : String := "tag:yaml.org,2002:"

/-- The tag of the language with this name. -/
def tagNamed (name : String) : String :=
  tagBase ++ name

/-- The tag of sequences that have none. -/
def sequenceTag : String := tagNamed "seq"

/-- The tag of mappings that have none. -/
def mappingTag : String := tagNamed "map"

/-- The tag of texts. -/
def textTag : String := tagNamed "str"

/-- The tag of a kind of scalars. -/
def kindTag : PlainKind → String
  | .bool => tagNamed "bool"
  | .float => tagNamed "float"
  | .int => tagNamed "int"
  | .merge => tagNamed "merge"
  | .null => tagNamed "null"
  | .timestamp => tagNamed "timestamp"
  | .value => tagNamed "value"
  | .indicator => tagNamed "yaml"
  | .text => textTag

/-- The tag of a scalar that has none: without quotes, its form decides. -/
def resolved (text : String) (isPlain : Bool) : String :=
  if isPlain then kindTag (Plain.kindOf text.toList) else textTag

/-- The scalar of a place where nothing stands. -/
def empty (start : Mark) : Node :=
  scalar (resolved "" true) "" start

end Node

end FlinkSteward.Yaml
