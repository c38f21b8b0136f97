import FlinkSteward.Value.Merge
import FlinkSteward.Value.Path

/-!
# Objects

Data in memory. Lists and maps are objects, and one object may stand in several places of a value, as
it does where a document refers to a node that was given before. The value is the same as with a copy
in each place, but not everything that is made of it.

- `Object`: a value, with marks that tell which places hold one object
- `Object.isOne`: whether two places do
- `Object.overlay`: a template laid over another, which makes new objects where both merge
-/

namespace FlinkSteward

open Value (Step)

/-- Marks of the lists and maps of a value, by their places. Places with one mark hold one object; what
has no mark stands nowhere else. -/
abbrev Marks := List Step → Option Nat

namespace Marks

/-- Every list and every map stands in one place. -/
def apart : Marks := fun _ => none

/-- The marks of what stands one step further in. -/
def below (marks : Marks) (s : Step) : Marks := fun path => marks (s :: path)

end Marks

/-- A value in memory. -/
structure Object where
  /-- The data. -/
  value : Value
  /-- Which places hold one list or map. -/
  marks : Marks := .apart

namespace Object

/-- The mark of the list or map at a place. -/
def markAt? (o : Object) (path : List Step) : Option Nat :=
  match o.value.atPath? path with
  | some (.list _) | some (.map _) => o.marks path
  | _ => none

/-- Whether two places hold one list or map. -/
def isOne (o : Object) (p q : List Step) : Bool :=
  p ≠ q && ((o.markAt? p).isSome && o.markAt? p = o.markAt? q)

/-- What one step leads to. -/
def child? (o : Object) (s : Step) : Option Object :=
  (o.value.child? s).map fun v => ⟨v, o.marks.below s⟩

/-- Whether one value merges into another: both are maps, or both are lists. -/
def merges : Value → Value → Bool
  | .map _, .map _ => true
  | .list _, .list _ => true
  | _, _ => false

/-- The marks of a template with another laid over it. What merges is a new object; all else is an
object of one of the two templates. -/
def overlayMarks (lower upper : Object) : Marks
  | [] => if merges lower.value upper.value then none else upper.marks []
  | s :: path =>
    if merges lower.value upper.value then
      match lower.child? s, upper.child? s with
      | some l, some u => overlayMarks l u path
      | some l, none => l.marks path
      | none, some u => u.marks path
      | none, none => none
    else upper.marks (s :: path)

/-- The template `lower` with another laid over it. -/
def overlay (lower upper : Object) : Object :=
  ⟨lower.value.overlay upper.value, overlayMarks lower upper⟩

/-- Two templates, either of which may be missing, in one. -/
def overlay? : Option Object → Option Object → Option Object
  | none, upper => upper
  | lower, none => lower
  | some lower, some upper => some (overlay lower upper)

end Object

end FlinkSteward
