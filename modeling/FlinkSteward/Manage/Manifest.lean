import FlinkSteward.Yaml.Read
import FlinkSteward.Yaml.Shared

/-!
# Manifests of files

What a file says, and which of its maps are one: a change of one of them is a change of the others.

- `SharedMap`: a map that stands in several places
- `Manifest`: a manifest with the maps that are shared in it
-/

namespace FlinkSteward

open Value (Step)

/-- A map that stands in several places. -/
structure SharedMap where
  /-- The places. -/
  places : List (List Step)
  /-- A map does not stand inside of itself. -/
  apart : ∀ p ∈ places, ∀ q ∈ places, p <+: q → p = q

namespace SharedMap

/-- The map that stands in certain places, unless they say that it stands inside of itself. -/
def ofPlaces? (places : List (List Step)) : Option SharedMap :=
  if h : ∀ p ∈ places, ∀ q ∈ places, p <+: q → p = q then some ⟨places, h⟩ else none

/-- The map in those of its places that are outside of certain others. -/
def outside (m : SharedMap) (others : List (List Step)) : SharedMap where
  places := m.places.filter fun p => ∀ other ∈ others, ¬ other <+: p
  apart p hp q hq := m.apart p (List.mem_filter.1 hp).1 q (List.mem_filter.1 hq).1

end SharedMap

/-- A manifest that was read from a file. -/
structure Manifest where
  /-- What it says. -/
  value : Value
  /-- The maps in it that stand in several places. -/
  shared : List SharedMap := []

namespace Manifest

/-- The manifest of a text with this root. -/
def ofRoot (root : Option Yaml.Node) : Manifest where
  value := (Yaml.Data.ofRoot root).toValue
  shared := (root.elim [] Yaml.Node.sharedPlaces).filterMap SharedMap.ofPlaces?

/-- The places of what stands at a path, the steps of which are given from the last one on: those of a
shared map, and for everything else those in the places of what is around it. -/
def placesOf (m : Manifest) : List Step → List (List Step)
  | [] => [[]]
  | s :: back =>
    match m.shared.find? fun shared => shared.places.contains (s :: back).reverse with
    | some shared => shared.places
    | none => (m.placesOf back).map (· ++ [s])

end Manifest

end FlinkSteward
