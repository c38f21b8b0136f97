import FlinkSteward.Value.Object

/-!
# Anchors

A YAML document writes an object out once, at the first of its places. There it gets an anchor, which
the other places refer to. Anchors are numbered in the order in which they are first referred to.

- `Yaml.visit`: the places of objects in the order of a document
- `Yaml.labelOf`: the anchor of a place, or the one that it refers to
-/

namespace FlinkSteward.Yaml

open Value (Step)

/-- Places that a document came by. -/
structure Visited where
  /-- Those of the lists and maps that are written out, in order. -/
  opened : List (List Step) := []
  /-- Those that refer to one that is written out, in order, each with that one. -/
  referred : List (List Step × List Step) := []

section

variable (isOne : List Step → List Step → Bool)

mutual

/-- Goes through a value at the place `here`. What was written out before is only referred to. -/
def visit (here : List Step) (seen : Visited) : Value → Visited
  | .list items =>
    match seen.opened.find? (isOne here) with
    | some first => { seen with referred := seen.referred ++ [(here, first)] }
    | none => visitItems here 0 { seen with opened := seen.opened ++ [here] } items
  | .map fields =>
    match seen.opened.find? (isOne here) with
    | some first => { seen with referred := seen.referred ++ [(here, first)] }
    | none => visitFields here { seen with opened := seen.opened ++ [here] } fields
  | _ => seen

/-- Goes through items, the first of which has the number `i`. -/
def visitItems (here : List Step) (i : Nat) (seen : Visited) : List Value → Visited
  | [] => seen
  | v :: rest => visitItems here (i + 1) (visit (here ++ [.item i]) seen v) rest

/-- Goes through the values of fields. -/
def visitFields (here : List Step) (seen : Visited) : List (String × Value) → Visited
  | [] => seen
  | (k, v) :: rest => visitFields here (visit (here ++ [.key k]) seen v) rest

end

end

/-- What is written before a list or a map, or in its place. -/
inductive Label where
  /-- Nothing. -/
  | nothing
  /-- An anchor before it. -/
  | anchor (number : Nat)
  /-- A reference in its place. -/
  | alias (number : Nat)
deriving DecidableEq

/-- The label of a place. -/
def labelOf (seen : Visited) (here : List Step) : Label :=
  let anchors := (seen.referred.map Prod.snd).eraseDups
  match seen.referred.lookup here with
  | some first => .alias (anchors.idxOf first + 1)
  | none => if here ∈ anchors then .anchor (anchors.idxOf here + 1) else .nothing

end FlinkSteward.Yaml
