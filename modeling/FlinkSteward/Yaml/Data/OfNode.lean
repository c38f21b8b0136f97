import FlinkSteward.Yaml.Data.Scalar

/-!
# Nodes as data

What the nodes of a document stand for. Entries of a mapping with the key `<<` stand for the entries of
other mappings, which come before its own. A fault in one of the outer nodes is found before one
further in.

- `Node.merged`: a node with the entries of other mappings put in
- `Node.sound`: a node without faults, with `Node.check` for the first fault, level by level
- `Data.ofSound`: the data of a node without faults
-/

namespace FlinkSteward.Yaml

open FlinkSteward.Text

namespace Node

/-- The tag of a node; what refers back has none. -/
def tag : Node → String
  | scalar t _ _ | sequence t _ _ | mapping t _ _ => t
  | cycle _ _ => ""

/-! ## Merging -/

/-- Whether an entry stands for the entries of other mappings. -/
def isMerge (e : Node × Node) : Bool :=
  e.1.tag = tagNamed "merge"

/-- The entries of a mapping. -/
def entries? : Node → Option (List (Node × Node))
  | mapping _ es _ => some es
  | _ => none

/-- The entries that a node stands for behind the key `<<`: those of a mapping, or those of several
with the last of them first. -/
def mergedEntries? : Node → Option (List (Node × Node))
  | mapping _ es _ => some es
  | sequence _ items _ => (items.mapM entries?).map fun parts => parts.reverse.flatten
  | _ => none

/-- The entries that one entry stands for, if it stands for those of other mappings. -/
def sources? (e : Node × Node) : Option (List (Node × Node)) :=
  if isMerge e then mergedEntries? e.2 else none

/-- The entries of other mappings, and then the others. -/
def mergeEntries (es : List (Node × Node)) : List (Node × Node) :=
  es.flatMap (fun e => (sources? e).getD []) ++ es.filter fun e => (sources? e).isNone

mutual

/-- A node with the entries of other mappings put in, at all depths. -/
def merged : Node → Node
  | sequence t items m => sequence t (mergedItems items) m
  | mapping t es m => mapping t (mergeEntries (mergedFields es)) m
  | scalar t s m => scalar t s m
  | cycle b m => cycle b m

/-- Items with the entries of other mappings put in. -/
def mergedItems : List Node → List Node
  | [] => []
  | n :: rest => merged n :: mergedItems rest

/-- Entries with the entries of other mappings put in. -/
def mergedFields : List (Node × Node) → List (Node × Node)
  | [] => []
  | (k, v) :: rest => (merged k, merged v) :: mergedFields rest

end

mutual

/-- How deep a node is. -/
def depth : Node → Nat
  | sequence _ items _ => depthItems items + 1
  | mapping _ es _ => depthFields es + 1
  | scalar .. | cycle .. => 1

/-- How deep the deepest item is. -/
def depthItems : List Node → Nat
  | [] => 0
  | n :: rest => max (depth n) (depthItems rest)

/-- How deep the deepest key or value is. -/
def depthFields : List (Node × Node) → Nat
  | [] => 0
  | (k, v) :: rest => max (max (depth k) (depth v)) (depthFields rest)

end

/-! ## Faults -/

/-- A fault in the data of the text `name`. -/
def fault {α : Type} (name : String) (context : Option (String × Node)) (problem : String)
    (n : Node) : Outcome α :=
  .error (.yaml name
    ⟨.data, context.map Prod.fst, context.map fun c => c.2.start, problem, some n.start⟩)

mutual

/-- The text of a node that stands for data without parts. A mapping may say it behind the key `=`. -/
def scalarText? : Node → Option String
  | scalar _ s _ => some s
  | mapping _ es _ => valueText? es
  | sequence .. | cycle .. => none

/-- The text behind the key `=`. -/
def valueText? : List (Node × Node) → Option String
  | [] => none
  | (k, v) :: rest => if k.tag = tagNamed "value" then scalarText? v else valueText? rest

end

/-- Looks at a node without what is in it; gives the node if there is more to look at. -/
def visit (name : String) (n : Node) : Outcome (List Node) :=
  match n with
  | cycle _ _ => .ok []
  | n =>
    match Meaning.ofTag? n.tag with
    | none => fault name none ("could not determine a constructor for the tag " ++ quoted n.tag) n
    | some m =>
      if m.hasParts then .ok [n]
      else match scalarText? n with
        | none => fault name none ("expected a scalar node, but found " ++ n.word) n
        | some s => (Data.ofScalar name n.start m s).map fun _ => []

/-- A key, which may be `=` as a text. -/
def asKey : Node → Node
  | scalar t s m => scalar (if t = tagNamed "value" then textTag else t) s m
  | n => n

/-- Looks at the entries of a mapping. -/
def visitEntries (name : String) (n : Node) (es : List (Node × Node)) : Outcome (List Node) := do
  let context := some ("while constructing a mapping", n)
  es.forM fun e =>
    if isMerge e then
      match e.2 with
      | sequence _ items _ =>
        match items.find? fun i => (entries? i).isNone with
        | some i => fault name context ("expected a mapping for merging, but found " ++ i.word) i
        | none => .ok ()
      | v =>
        fault name context
          ("expected a mapping or list of mappings for merging, but found " ++ v.word) v
    else .ok ()
  let parts ← es.mapM fun e => do
    let key ← visit name (asKey e.1)
    if !key.isEmpty || e.1.tag = "" then fault name context "found unhashable key" e.1
    visit name e.2
  return parts.flatten

/-- Looks at the pairs of a list, each of which is a mapping with a single entry. -/
def visitPairs (name context : String) (n : Node) (items : List Node) : Outcome (List Node) := do
  let parts ← items.mapM fun i =>
    match i with
    | mapping _ [(k, v)] _ => do return (← visit name k) ++ (← visit name v)
    | mapping _ es _ =>
      fault name (some (context, n))
        ("expected a single mapping item, but found " ++ toString es.length ++ " items") i
    | i => fault name (some (context, n)) ("expected a mapping of length 1, but found " ++ i.word) i
  return parts.flatten

/-- Looks at what is in a node; gives the nodes in it that there is more to look at. -/
def visitParts (name : String) (n : Node) : Outcome (List Node) :=
  let pairs (context : String) :=
    match n with
    | sequence _ items _ => visitPairs name context n items
    | n => fault name (some (context, n)) ("expected a sequence, but found " ++ n.word) n
  match Meaning.ofTag? n.tag with
  | some .orderedMap => pairs "while constructing an ordered map"
  | some .pairs => pairs "while constructing pairs"
  | some .sequence =>
    match n with
    | sequence _ items _ => (items.mapM (visit name)).map List.flatten
    | n => fault name none ("expected a sequence node, but found " ++ n.word) n
  | _ =>
    match n with
    | mapping _ es _ => visitEntries name n es
    | n => fault name none ("expected a mapping node, but found " ++ n.word) n

/-- Looks at nodes and at what is in them, level by level. -/
def checkLevels (name : String) : Nat → List Node → Outcome Unit
  | 0, _ => .ok ()
  | _, [] => .ok ()
  | fuel + 1, level => do
    let inner ← level.mapM (visitParts name)
    checkLevels name fuel inner.flatten

/-- The first fault of a node. -/
def check (name : String) (n : Node) : Outcome Unit := do
  checkLevels name n.depth (← visit name n)

/-- A node of the text `name` with the entries of other mappings put in, if it has no faults. -/
def sound (name : String) (n : Node) : Outcome Node := do
  let n := n.merged
  n.check name
  return n

end Node

namespace Data

/-- The data of a scalar, null if it is none. -/
def scalarOrNull (tag : String) (text : Option String) : Data :=
  match Meaning.ofTag? tag, text with
  | some m, some s => ((ofScalar "" default m s).toOption).getD .null
  | none, some s => .text s
  | _, none => .null

mutual

/-- The data of a node without faults. -/
def ofSound : Node → Data
  | .scalar tag s _ => scalarOrNull tag (some s)
  | .sequence tag items _ =>
    match Meaning.ofTag? tag with
    | some .orderedMap | some .pairs => .pairs (ofPairs items)
    | _ => .list (ofItems items)
  | .mapping tag es _ =>
    match Meaning.ofTag? tag with
    | some .set => .set ((entriesOf (ofFields es)).map Prod.fst)
    | some .mapping => .map (entriesOf (ofFields es))
    | _ => scalarOrNull tag (Node.valueText? es)
  | .cycle isMapping _ => .cycle isMapping

/-- The data of items. -/
def ofItems : List Node → List Data
  | [] => []
  | n :: rest => ofSound n :: ofItems rest

/-- The data of pairs. -/
def ofPairs : List Node → List (Data × Data)
  | [] => []
  | .mapping _ ((k, v) :: _) _ :: rest => (ofSound k, ofSound v) :: ofPairs rest
  | _ :: rest => ofPairs rest

/-- The data of keys and values. -/
def ofFields : List (Node × Node) → List (Data × Data)
  | [] => []
  | (k, v) :: rest => (ofSound k, ofSound v) :: ofFields rest

end

end Data

end FlinkSteward.Yaml
