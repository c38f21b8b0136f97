import FlinkSteward.Value.Path
import FlinkSteward.Yaml.Data.OfNode

/-!
# Maps that are shared

A mapping that other places of a document refer to is a single map, which stands in all of them. Two
places have the same map when the node that it was read from starts at the same mark.

- `Node.maps`: the maps in the data of a node
- `Node.sharedPlaces`: the places of those that stand in several
-/

namespace FlinkSteward.Yaml.Node

open Value (Step)

/-- Places in a value, each with the mark of what stands there. -/
abbrev Places := List (List Step × Mark)

/-- Places that are one step further in. -/
def deeper (s : Step) (places : Places) : Places :=
  places.map fun p => (s :: p.1, p.2)

mutual

/-- The places of the maps in the data of a node without faults. -/
def maps : Node → Places
  | .sequence tag items _ =>
    match Meaning.ofTag? tag with
    | some .orderedMap | some .pairs => mapsOfPairs 0 items
    | _ => mapsOfItems 0 items
  | .mapping tag es start =>
    match Meaning.ofTag? tag with
    | some .mapping =>
      -- of several entries with one key, the last one counts
      let fields := (Data.entriesOf (mapsOfFields es)).map fun e => (e.1.keyText, e.2)
      ([], start) :: (Entries.ofPairs fields).flatMap fun e => deeper (.key e.1) e.2
    | _ => []
  | .scalar .. | .cycle .. => []

/-- The places of the maps in items, the first of which has the number `i`. -/
def mapsOfItems (i : Nat) : List Node → Places
  | [] => []
  | n :: rest => deeper (.item i) (maps n) ++ mapsOfItems (i + 1) rest

/-- The places of the maps in pairs, which are lists of two. -/
def mapsOfPairs (i : Nat) : List Node → Places
  | [] => []
  | .mapping _ ((k, v) :: _) _ :: rest =>
    deeper (.item i) (deeper (.item 0) (maps k) ++ deeper (.item 1) (maps v)) ++
      mapsOfPairs (i + 1) rest
  | _ :: rest => mapsOfPairs i rest

/-- The places of the maps in the values of a mapping, by their keys. -/
def mapsOfFields : List (Node × Node) → List (Data × Places)
  | [] => []
  | (k, v) :: rest => (Data.ofSound k, maps v) :: mapsOfFields rest

end

/-- The places of each map that stands in more than one. -/
def sharedPlaces (n : Node) : List (List (List Step)) :=
  let maps := n.maps
  let groups := (maps.map Prod.snd).eraseDups.map fun start =>
    (maps.filter fun m => m.2 = start).map Prod.fst
  groups.filter fun places => 1 < places.length

end FlinkSteward.Yaml.Node
