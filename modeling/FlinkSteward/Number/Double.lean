/-!
# Double precision numbers

A double is NaN, an infinity, or a sign with a magnitude that is a whole number of *units* of
2⁻¹⁰⁷⁴. The magnitude is kept as `significand * 2 ^ exponent`, and `Canonical` leaves one such form
for each magnitude. Every operation computes the exact result as a quotient of naturals and rounds
it once, to the nearest double and of two nearest to the one with the even significand.

- `Double.round`: the double nearest to a quotient of units
- `Double.add`, `sub`, `mul`, `ofInt?`: rounded arithmetic
- `Double.units`: the exact value of a finite double, in units
-/

namespace FlinkSteward

/-- The form in which a magnitude is kept: 53 bits, all of them in use unless the exponent is least. -/
def Double.Canonical (significand exponent : Nat) : Prop :=
  significand < Nat.pow 2 53 ∧ exponent ≤ 2045 ∧ (Nat.pow 2 52 ≤ significand ∨ exponent = 0)

instance (s e : Nat) : Decidable (Double.Canonical s e) :=
  inferInstanceAs (Decidable (_ ∧ _ ∧ _))

/-- A double precision number; all NaNs are one. -/
inductive Double where
  /-- Not a number. -/
  | nan
  /-- An infinity with its sign. -/
  | infinity (negative : Bool)
  /-- `± significand * 2 ^ exponent` units of 2⁻¹⁰⁷⁴. -/
  | finite (negative : Bool) (significand exponent : Nat)
      (canonical : Double.Canonical significand exponent)
deriving DecidableEq

namespace Double

/-- The double with this magnitude, or the infinity when there is none. -/
def make (negative : Bool) (significand exponent : Nat) : Double :=
  if h : Canonical significand exponent then finite negative significand exponent h
  else infinity negative

/-- Zero with a sign. -/
def zero (negative : Bool) : Double :=
  finite negative 0 0 (by decide)

instance : Inhabited Double := ⟨zero false⟩

/-- The double nearest to `num / den` units; halfway, the one with the even significand. -/
def round (negative : Bool) (num den : Nat) : Double :=
  let e := (num / den).log2 - 52
  let d := den * Nat.pow 2 e
  let q := num / d
  let r := num % d
  let s := if 2 * r < d ∨ (2 * r = d ∧ q % 2 = 0) then q else q + 1
  if s = Nat.pow 2 53 then make negative (Nat.pow 2 52) (e + 1) else make negative s e

/-- How many units make one. -/
def unitsPerOne : Nat := Nat.pow 2 1074

/-- The magnitude in units, and zero for what is not finite. -/
def magnitude : Double → Nat
  | finite _ s e _ => s * Nat.pow 2 e
  | _ => 0

/-- Whether the sign is set. -/
def isNegative : Double → Bool
  | finite n _ _ _ => n
  | infinity n => n
  | nan => false

/-- Whether the double stands for a number. -/
def isFinite : Double → Bool
  | finite .. => true
  | _ => false

/-- The exact value of a finite double in units, and zero for the others. -/
def units (x : Double) : Int :=
  if x.isNegative then -(x.magnitude : Int) else x.magnitude

/-- The double nearest to a whole number of units; `negativeZero` is the sign of a zero. -/
def ofUnits (z : Int) (negativeZero : Bool) : Double :=
  if z = 0 then zero negativeZero else round (z < 0) z.natAbs 1

/-- The double nearest to an integer, unless that is out of range. -/
def ofInt? (z : Int) : Option Double :=
  let x := round (z < 0) (z.natAbs * unitsPerOne) 1
  if x.isFinite then some x else none

/-- The double nearest to the quotient of an integer and a positive natural. -/
def ofRatio (num : Int) (den : Nat) : Double :=
  round (num < 0) (num.natAbs * unitsPerOne) den

/-- The double nearest to `± mantissa * 10 ^ exponent`. -/
def ofDecimal (negative : Bool) (mantissa : Nat) (exponent : Int) : Double :=
  let size := (Nat.toDigits 10 mantissa).length + exponent
  if mantissa = 0 ∨ size < -400 then zero negative
  else if 400 < size then infinity negative
  else if 0 ≤ exponent then round negative (mantissa * Nat.pow 10 exponent.toNat * unitsPerOne) 1
  else round negative (mantissa * unitsPerOne) (Nat.pow 10 exponent.natAbs)

/-- The opposite number. -/
def neg : Double → Double
  | nan => nan
  | infinity n => infinity !n
  | finite n s e h => finite (!n) s e h

/-- The rounded sum. -/
def add : Double → Double → Double
  | nan, _ => nan
  | _, nan => nan
  | infinity a, infinity b => if a = b then infinity a else nan
  | infinity a, _ => infinity a
  | _, infinity b => infinity b
  | x, y => ofUnits (x.units + y.units) (x.isNegative && y.isNegative)

/-- The rounded difference. -/
def sub (x y : Double) : Double :=
  x.add y.neg

/-- The rounded product. -/
def mul : Double → Double → Double
  | nan, _ => nan
  | _, nan => nan
  | infinity a, y => if y.isFinite ∧ y.magnitude = 0 then nan else infinity (a ^^ y.isNegative)
  | x, infinity b => if x.magnitude = 0 then nan else infinity (x.isNegative ^^ b)
  | x, y => round (x.isNegative ^^ y.isNegative) (x.magnitude * y.magnitude) unitsPerOne

/-- The integer part of a finite double, toward zero. -/
def truncate (x : Double) : Int :=
  let n := x.magnitude / unitsPerOne
  if x.isNegative then -(n : Int) else n

/-- The part of a finite double after the point, exact and with the sign of the whole. -/
def fraction (x : Double) : Double :=
  round x.isNegative (x.magnitude % unitsPerOne) 1

/-- Whether a double is not zero. -/
def isNonzero : Double → Bool
  | finite _ s _ _ => s ≠ 0
  | _ => true

/-- The order of two doubles by value, and nothing when one is NaN. -/
def compare? : Double → Double → Option Ordering
  | nan, _ => none
  | _, nan => none
  | infinity a, infinity b => some (compare b a)
  | infinity a, _ => some (if a then .lt else .gt)
  | _, infinity b => some (if b then .gt else .lt)
  | x, y => some (compare x.units y.units)

/-- The order of a double and an integer, both taken exactly. -/
def compareInt? : Double → Int → Option Ordering
  | nan, _ => none
  | infinity a, _ => some (if a then .lt else .gt)
  | x, z => some (compare x.units (z * unitsPerOne))

end Double

example : Double.ofInt? 3 = some (Double.ofDecimal false 30 (-1)) := by decide +kernel
example : (Double.ofDecimal false 1 (-1)).add (Double.ofDecimal false 2 (-1))
    = Double.ofDecimal false 30000000000000004 (-17) := by decide +kernel

end FlinkSteward
