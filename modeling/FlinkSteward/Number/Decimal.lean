import FlinkSteward.Number.Double
import FlinkSteward.Text.Blank
import FlinkSteward.Text.CaseMap
import FlinkSteward.Text.Digit

/-!
# Decimal texts of doubles

Writing uses the fewest significant digits that read back as the same double, and of those the
nearest to it. Numbers from 10⁻⁴ up to 10¹⁶ are positional, with at least one digit after the point;
the others have an exponent of at least two digits.

- `Double.shortest`: the digits and the place of the first one
- `Double.text`: the written form
- `Double.ofText?`: a number as people write it, with any decimal digits and `_` between digits
-/

namespace FlinkSteward.Double

open FlinkSteward.Text

/-- Whether a decimal reads back as this double. -/
def readsBack (x : Double) (mantissa : Nat) (exponent : Int) : Bool :=
  ofDecimal x.isNegative mantissa exponent = x

/-- The place of the first significant digit of `num / den`: 0 for 1 to 9, -1 for tenths. -/
def leadingPlace (num den : Nat) : Int :=
  if den ≤ num then ((Nat.toDigits 10 (num / den)).length : Int) - 1
  else match (List.range 400).find? fun k => den ≤ num * Nat.pow 10 (k + 1) with
    | some k => -((k : Int) + 1)
    | none => 0

/-- Of the two decimals with step `10 ^ exponent` beside the magnitude, the nearest that reads back. -/
def nearestOnGrid? (x : Double) (exponent : Int) : Option Nat :=
  let num := if exponent < 0 then x.magnitude * Nat.pow 10 exponent.natAbs else x.magnitude
  let den := if exponent < 0 then unitsPerOne else unitsPerOne * Nat.pow 10 exponent.toNat
  let q := num / den
  let r := num % den
  let below := readsBack x q exponent
  let above := readsBack x (q + 1) exponent
  let preferBelow := 2 * r < den ∨ (2 * r = den ∧ q % 2 = 0)
  if below ∧ (preferBelow ∨ !above) then some q
  else if above then some (q + 1)
  else none

/-- The shortest decimal of a positive magnitude: its mantissa and the power of ten of its last digit. -/
def shortestDecimal (x : Double) : Nat × Int :=
  let place := leadingPlace x.magnitude unitsPerOne
  let grids := (List.range 17).map fun (n : Nat) => place - n
  match grids.findSome? fun e => (nearestOnGrid? x e).map (·, e) with
  | some d => d
  | none => (x.magnitude * Nat.pow 5 1074, -1074)

/-- A mantissa without the zeros at its end, which move into the exponent. -/
def dropZeros : Nat → Nat × Int → Nat × Int
  | 0, d => d
  | fuel + 1, (m, e) => if m ≠ 0 ∧ m % 10 = 0 then dropZeros fuel (m / 10, e + 1) else (m, e)

/-- The significant digits of the shortest decimal, and the place of the first. -/
def shortest (x : Double) : List Char × Int :=
  let (m, e) := dropZeros 400 (shortestDecimal x)
  let ds := digitsOf 10 m
  (ds, e + ds.length - 1)

/-- Digits whose first stands at `place`, with a point. -/
def positional (ds : List Char) (place : Int) : List Char :=
  if place < 0 then
    '0' :: '.' :: List.replicate (place.natAbs - 1) '0' ++ ds
  else
    let whole := place.toNat + 1
    let after := ds.drop whole
    ds.take whole ++ List.replicate (whole - ds.length) '0' ++ '.' ::
      (if after.isEmpty then ['0'] else after)

/-- Digits whose first stands at `place`, as one digit before the point and an exponent. -/
def scientific (ds : List Char) (place : Int) : List Char :=
  let after := ds.drop 1
  ds.take 1 ++ (if after.isEmpty then [] else '.' :: after) ++
    'e' :: (if place < 0 then '-' else '+') :: padded 10 2 place.natAbs

/-- The written form of the magnitude of a finite double. -/
def magnitudeText (x : Double) : List Char :=
  if x.magnitude = 0 then ['0', '.', '0']
  else
    let (ds, place) := shortest x
    if -4 ≤ place ∧ place < 16 then positional ds place else scientific ds place

/-- The written form of a double. -/
def text : Double → String
  | nan => "nan"
  | infinity n => if n then "-inf" else "inf"
  | x => String.ofList ((if x.isNegative then ['-'] else []) ++ x.magnitudeText)

/-- A run of digits that may have single `_` between digits: the digits, and the rest. -/
def digitRun : List Char → List Char × List Char
  | [] => ([], [])
  | '_' :: rest =>
    match rest with
    | c :: _ =>
      if isAsciiDigit c then digitRun rest else ([], '_' :: rest)
    | [] => ([], ['_'])
  | c :: rest =>
    if isAsciiDigit c then ((c :: (digitRun rest).1), (digitRun rest).2) else ([], c :: rest)

/-- A run that starts with a digit. -/
def digitRunStrict (cs : List Char) : List Char × List Char :=
  match cs with
  | '_' :: _ => ([], cs)
  | _ => digitRun cs

/-- The exponent at the end of a number: none at all, or `e`, a sign and digits. -/
def exponentOf? : List Char → Option Int
  | [] => some 0
  | c :: rest =>
    if c = 'e' ∨ c = 'E' then
      let (negative, digits) := match rest with
        | '-' :: ds => (true, ds)
        | '+' :: ds => (false, ds)
        | ds => (false, ds)
      match digitRunStrict digits with
      | ([], _) => none
      | (ds, []) => some (if negative then -(digitsValue ds : Int) else digitsValue ds)
      | (_, _ :: _) => none
    else none

/-- A number without its sign, in ASCII characters. -/
def magnitudeOf? (negative : Bool) (cs : List Char) : Option Double :=
  match String.ofList (cs.map lowerAsciiChar) with
  | "inf" | "infinity" => some (infinity negative)
  | "nan" => some nan
  | _ =>
    let (whole, rest) := digitRunStrict cs
    let (part, tail) := match rest with
      | '.' :: r => digitRunStrict r
      | r => ([], r)
    if whole.isEmpty && part.isEmpty then none
    else (exponentOf? tail).map fun e =>
      ofDecimal negative (digitsValue (whole ++ part)) (e - part.length)

/-- A number as people write it: blanks around it, decimal digits of any script, `_` between digits. -/
def ofText? (s : String) : Option Double :=
  let cs := (dropMargins s.toList).map fun c =>
    match digitValue? c with
    | some d => Char.ofNat ('0'.toNat + d)
    | none => c
  match cs with
  | '-' :: r => magnitudeOf? true r
  | '+' :: r => magnitudeOf? false r
  | r => magnitudeOf? false r

example : (ofDecimal false 1 (-1)).text = "0.1" := by decide +kernel
example : (ofDecimal false 1 16).text = "1e+16" := by decide +kernel
example : (ofDecimal true 123456 (-2)).text = "-1234.56" := by decide +kernel
example : (ofDecimal false 1 (-5)).text = "1e-05" := by decide +kernel
example : ((ofText? "1_0.5e1").map text) = some "105.0" := by decide +kernel

end FlinkSteward.Double
