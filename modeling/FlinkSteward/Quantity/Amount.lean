import FlinkSteward.Text.Blank
import FlinkSteward.Text.CaseMap
import FlinkSteward.Text.Digit

/-!
# Amounts

A number with an optional unit behind it, as in `512 mb`: decimal digits of any script, blanks, and
a unit of ASCII letters. Letter case does not count, and no unit is the empty unit.

- `Amount.read?`: the amount that characters without blanks at their ends stand for
- `Amount.scale?`: its value by a table of units
-/

namespace FlinkSteward

open FlinkSteward.Text

/-- A number as it is written, with a unit in lower case. -/
structure Amount where
  /-- The digits of the number. -/
  digits : List Char
  /-- Of what; empty when nothing is said. -/
  unit : String
deriving DecidableEq, Inhabited

namespace Amount

/-- Whether a character can be part of a unit. -/
def isUnitLetter (c : Char) : Bool :=
  ('a' ≤ c && c ≤ 'z') || ('A' ≤ c && c ≤ 'Z')

/-- The amount that characters stand for. -/
def read? (cs : List Char) : Option Amount :=
  let digits := cs.takeWhile isDecimal
  let unit := (cs.dropWhile isDecimal).dropWhile isBlank
  if digits.isEmpty || !unit.all isUnitLetter then none
  else some ⟨digits, String.ofList (unit.map lowerAsciiChar)⟩

/-- Whether the number has more digits than a number may be read from. -/
def isTooLong (a : Amount) : Bool :=
  maxDigits < a.digits.length

/-- How many. -/
def count (a : Amount) : Nat :=
  digitsValue a.digits

/-- The value of an amount by a table of units, in which no unit counts once. -/
def scale? (units : List (String × Nat)) (a : Amount) : Option Nat :=
  if a.unit = "" then some a.count else (units.lookup a.unit).map (a.count * ·)

example : read? "512 MB".toList = some ⟨"512".toList, "mb"⟩ := by decide
example : read? "1.5 s".toList = none := by decide

end Amount

end FlinkSteward
