import FlinkSteward.Text.Blank
import FlinkSteward.Text.Digit

/-!
# Integers in texts

An integer as people write it: blanks around it, a sign, decimal digits of any script, and single
`_` between two digits. It may have any number of digits: `maxDigits` bounds those of amounts alone.

- `Integer.ofText?`: the integer a text stands for
-/

namespace FlinkSteward.Integer

open FlinkSteward.Text

/-- Digits with single `_` between two of them; `afterDigit` says whether a digit came just before. -/
def digitsOf? (afterDigit : Bool) : List Char → Option (List Char)
  | [] => if afterDigit then some [] else none
  | c :: rest =>
    if isDecimal c then (digitsOf? true rest).map (c :: ·)
    else if c = '_' ∧ afterDigit then digitsOf? false rest
    else none

/-- The natural number that digits stand for. -/
def naturalOf? (cs : List Char) : Option Nat :=
  (digitsOf? false cs).map digitsValue

/-- The integer a text stands for. -/
def ofText? (s : String) : Option Int :=
  match dropMargins s.toList with
  | '-' :: cs => (naturalOf? cs).map fun n => -(n : Int)
  | '+' :: cs => (naturalOf? cs).map Int.ofNat
  | cs => (naturalOf? cs).map Int.ofNat

example : ofText? " -1_0 " = some (-10) := by decide
example : ofText? "٣" = some 3 := by decide
example : ofText? "1__0" = none ∧ ofText? "" = none ∧ ofText? "_1" = none := by decide

end FlinkSteward.Integer
