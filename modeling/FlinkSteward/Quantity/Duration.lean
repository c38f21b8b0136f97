import FlinkSteward.Quantity.Amount
import FlinkSteward.Value.Text

/-!
# Durations

A span of time in whole microseconds, of either sign, up to 999,999,999 days and a day less a
microsecond. A text such as `5 min` is read by its unit, and milliseconds are meant without one; a
number counts milliseconds, with fractions of a microsecond rounded half to even.

- `Duration.ofMicros?`: the duration of that length, when it is in range
- `Duration.ofValue`: the duration that a configuration entry stands for
- `Duration.text`: the written form, `1 day, 2:03:04.000005`
- `Duration.seconds`, `Duration.millis`: the length as a double
-/

namespace FlinkSteward

open FlinkSteward.Text

/-- A span of time in microseconds. -/
structure Duration where
  /-- The length in microseconds. -/
  micros : Int
deriving DecidableEq, Inhabited

namespace Duration

/-- What can be wrong with a duration. -/
inductive Fault where
  /-- The text is no amount. -/
  | unreadable (text : String)
  /-- The number has too many digits to be read. -/
  | tooLong (digits : Nat)
  /-- The unit is not one of time. -/
  | unknownUnit (unit : String)
  /-- The number of milliseconds is NaN. -/
  | notANumber
  /-- The duration is too long. -/
  | outOfRange
deriving DecidableEq, Inhabited

/-- The message of a fault. -/
def Fault.message : Fault → String
  | unreadable text => "Could not parse duration '" ++ text ++ "'"
  | tooLong digits => tooManyDigits digits
  | unknownUnit unit =>
    "Time interval unit label '" ++ unit ++ "' does not match any of the recognized units"
  | notANumber => "cannot convert float NaN to integer"
  | outOfRange => "duration out of range"

/-- How many milliseconds a unit has. -/
def units : List (String × Nat) :=
  [("ms", 1), ("milli", 1), ("millis", 1), ("millisecond", 1), ("milliseconds", 1),
    ("s", 1000), ("sec", 1000), ("secs", 1000), ("second", 1000), ("seconds", 1000),
    ("m", 60000), ("min", 60000), ("mins", 60000), ("minute", 60000), ("minutes", 60000),
    ("h", 3600000), ("hour", 3600000), ("hours", 3600000),
    ("d", 86400000), ("day", 86400000), ("days", 86400000)]

/-- Microseconds in a day. -/
def microsPerDay : Nat := 86400000000

/-- The duration of this length, if it is in range. -/
def ofMicros? (n : Int) : Except Fault Duration :=
  if -(999999999 * microsPerDay : Int) ≤ n ∧ n < 1000000000 * microsPerDay then .ok ⟨n⟩
  else .error .outOfRange

/-- The duration of whole milliseconds. -/
def ofMillis? (n : Int) : Except Fault Duration :=
  ofMicros? (1000 * n)

/-- Whole microseconds nearest to `whole` and a part of one; halfway, the even ones. -/
def roundMicros (whole : Int) (part : Double) : Int :=
  let one : Int := Double.unitsPerOne
  let exact := whole * one + part.units
  let below := exact / one
  let twice := 2 * (exact % one)
  if twice < one ∨ (twice = one ∧ below % 2 = 0) then below else below + 1

/-- The duration of milliseconds with a fraction, of which the microseconds are taken in doubles. -/
def ofDouble (x : Double) : Except Fault Duration :=
  match x with
  | .nan => .error .notANumber
  | .infinity _ => .error .outOfRange
  | x =>
    let part := (Double.ofRatio 1000 1).mul x.fraction
    ofMicros? (roundMicros (1000 * x.truncate + part.truncate) part.fraction)

/-- The duration that a text stands for. -/
def ofText (text : String) : Except Fault Duration :=
  match Amount.read? (stripChars text.toList) with
  | none => .error (.unreadable text)
  | some a =>
    if a.isTooLong then .error (.tooLong a.digits.length)
    else match a.scale? units with
      | some millis => ofMillis? millis
      | none => .error (.unknownUnit a.unit)

/-- The duration that a configuration entry stands for; what is no number is read as text. -/
def ofValue (v : Value) : Except Fault Duration :=
  match v.number? with
  | some (.int n) => ofMillis? n
  | some (.real x) => ofDouble x
  | none => ofText v.shown

/-- The length in seconds, as the nearest double. -/
def seconds (d : Duration) : Double :=
  Double.ofRatio d.micros 1000000

/-- The length in milliseconds, by way of the nearest double in seconds. -/
def millis (d : Duration) : Double :=
  d.seconds.mul (Double.ofRatio 1000 1)

/-- The written form: days if any, hours, minutes, seconds, and microseconds if any. -/
def text (d : Duration) : String :=
  let days := d.micros / microsPerDay
  let rest := (d.micros % microsPerDay).toNat
  let secs := rest / 1000000
  let micros := rest % 1000000
  let clock := digitsOf 10 (secs / 3600) ++ ':' :: padded 10 2 (secs / 60 % 60) ++
    ':' :: padded 10 2 (secs % 60) ++ (if micros = 0 then [] else '.' :: padded 10 6 micros)
  let dayText := if days = 0 then "" else
    toString days ++ (if days.natAbs = 1 then " day, " else " days, ")
  dayText ++ String.ofList clock

example : (ofText "5 min").toOption = some ⟨300000000⟩ := by decide
example : (⟨-1000⟩ : Duration).text = "-1 day, 23:59:59.999000" := by decide +kernel

end Duration

end FlinkSteward
