/-!
# Tables of code points

Sets and maps of characters are written as short tables over code points. A set is a list of closed
ranges, a map a list of evenly spaced runs that are moved by one distance.

- `inRanges`: membership in a set
- `Run.image?`: the image of a code point under one run
-/

namespace FlinkSteward.Text

/-- Whether the code point `n` lies in one of the closed ranges of `table`. -/
def inRanges (table : List (Nat × Nat)) (n : Nat) : Bool :=
  table.any fun r => r.1 ≤ n && n ≤ r.2

/-- Code points `first`, `first + step`, … up to `last`, each moved by `shift`. -/
structure Run where
  /-- The first code point of the run. -/
  first : Nat
  /-- The last code point of the run. -/
  last : Nat
  /-- The distance between neighbours. -/
  step : Nat
  /-- How far each member is moved. -/
  shift : Int

/-- The image of `n` when `n` belongs to the run. -/
def Run.image? (r : Run) (n : Nat) : Option Nat :=
  if r.first ≤ n ∧ n ≤ r.last ∧ (n - r.first) % r.step = 0 then
    some ((n : Int) + r.shift).toNat
  else none

/-- The image of `n` under the first run that has it, and `n` itself when none has. -/
def moveBy (runs : List Run) (n : Nat) : Nat :=
  (runs.findSome? (Run.image? · n)).getD n

end FlinkSteward.Text
