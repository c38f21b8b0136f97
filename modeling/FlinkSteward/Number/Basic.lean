import FlinkSteward.Number.Decimal

/-!
# Numbers

Integers of any size beside doubles. Two integers are combined exactly; an integer meets a double in
double arithmetic, where it has to be in range, but the two are compared by their exact values.

- `Number.add?`, `Number.sub?`: sums and differences
- `Number.compare?`: the order by value
-/

namespace FlinkSteward

/-- An integer or a double. -/
inductive Number where
  /-- An integer of any size. -/
  | int (i : Int)
  /-- A double. -/
  | real (x : Double)
deriving DecidableEq

namespace Number

/-- The number as a double, unless it is an integer out of range. -/
def toDouble? : Number → Option Double
  | int i => Double.ofInt? i
  | real x => some x

/-- An exact operation on integers beside a rounded one on doubles. -/
def combine? (exact : Int → Int → Int) (rounded : Double → Double → Double) :
    Number → Number → Option Number
  | int a, int b => some (int (exact a b))
  | a, b => do
    let x ← a.toDouble?
    let y ← b.toDouble?
    return real (rounded x y)

/-- The sum, unless an integer that meets a double is out of range. -/
def add? : Number → Number → Option Number :=
  combine? (· + ·) Double.add

/-- The difference, unless an integer that meets a double is out of range. -/
def sub? : Number → Number → Option Number :=
  combine? (· - ·) Double.sub

/-- The order by exact value, and nothing when one of the two is NaN. -/
def compare? : Number → Number → Option Ordering
  | int a, int b => some (compare a b)
  | int a, real y => (y.compareInt? a).map Ordering.swap
  | real x, int b => x.compareInt? b
  | real x, real y => x.compare? y

/-- Whether the two stand for the same number. -/
def same (a b : Number) : Bool :=
  a.compare? b = some .eq

/-- Whether the first is less. -/
def lt (a b : Number) : Bool :=
  a.compare? b = some .lt

/-- Whether the first is less or the two are the same. -/
def le (a b : Number) : Bool :=
  a.lt b || a.same b

/-- Whether the number is not zero. -/
def isNonzero : Number → Bool
  | int i => i ≠ 0
  | real x => x.isNonzero

/-- The written form. -/
def text : Number → String
  | int i => toString i
  | real x => x.text

@[simp] theorem add?_int (a b : Int) : (int a).add? (int b) = some (int (a + b)) := rfl

@[simp] theorem compare?_int (a b : Int) : (int a).compare? (int b) = some (compare a b) := rfl

end Number

end FlinkSteward
