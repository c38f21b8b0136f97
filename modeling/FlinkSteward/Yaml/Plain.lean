import FlinkSteward.Json.Read
import FlinkSteward.Text.Digit
import FlinkSteward.Text.Split

/-!
# Plain scalars

What a YAML scalar without quotes stands for, by its form. A form that belongs to no other kind is a
text.

- `Plain.kindOf`: the kind of a scalar
-/

namespace FlinkSteward.Yaml

open FlinkSteward.Text

/-- The kinds of scalars without quotes. -/
inductive PlainKind where
  /-- A truth value. -/
  | bool
  /-- A double. -/
  | float
  /-- An integer. -/
  | int
  /-- The key that merges another map. -/
  | merge
  /-- Nothing. -/
  | null
  /-- A date, or a date with a time. -/
  | timestamp
  /-- The key that stands for a default value. -/
  | value
  /-- An indicator on its own, which stands for nothing known. -/
  | indicator
  /-- A text. -/
  | text
deriving DecidableEq, Inhabited

namespace Plain

/-- Whether characters are digits or `_`. -/
def areDigits (cs : List Char) : Bool :=
  cs.all fun c => isAsciiDigit c || c = '_'

/-- Whether characters start with a digit that digits or `_` follow. -/
def isDigitRun (cs : List Char) : Bool :=
  match cs with
  | [] => false
  | c :: rest => isAsciiDigit c && areDigits rest

/-- Characters without a sign in front. -/
def unsigned : List Char → List Char
  | '-' :: cs => cs
  | '+' :: cs => cs
  | cs => cs

/-- Whether characters are a number of minutes or seconds: one digit, or two below sixty. -/
def isSixtieth : List Char → Bool
  | [a] => isAsciiDigit a
  | [a, b] => '0' ≤ a && a ≤ '5' && isAsciiDigit b
  | _ => false

/-- Whether characters are an exponent with a sign, or nothing. -/
def isSignedExponent : List Char → Bool
  | [] => true
  | c :: s :: digits =>
    (c = 'e' || c = 'E') && (s = '-' || s = '+') && !digits.isEmpty && digits.all isAsciiDigit
  | _ => false

/-- Whether characters are digits or `_` with an optional exponent behind them. -/
def isFraction (cs : List Char) : Bool :=
  isSignedExponent (cs.dropWhile fun c => isAsciiDigit c || c = '_')

/-- Whether characters are one of these words. -/
def isOneOf (words : List String) (cs : List Char) : Bool :=
  words.any fun w => w.toList = cs

/-- Whether characters are a truth value. -/
def isBool (cs : List Char) : Bool :=
  isOneOf ["yes", "Yes", "YES", "no", "No", "NO", "true", "True", "TRUE", "false", "False", "FALSE",
    "on", "On", "ON", "off", "Off", "OFF"] cs

/-- Whether characters are digits with a point among them. -/
def isPointed (cs : List Char) : Bool :=
  match breakAt? '.' cs with
  | some (whole, part) => isDigitRun whole && isFraction part
  | none => false

/-- Whether characters are a point with digits behind it. -/
def isPart : List Char → Bool
  | '.' :: c :: rest => isAsciiDigit c && isFraction rest
  | _ => false

/-- Whether characters are numbers to the base sixty with a point behind the last. -/
def isPointedSixty (cs : List Char) : Bool :=
  match breakAt? '.' cs with
  | some (whole, part) =>
    areDigits part && (match splitAt ':' whole with
      | first :: second :: rest => isDigitRun first && (second :: rest).all isSixtieth
      | _ => false)
  | none => false

/-- Whether characters are a double. -/
def isFloat (cs : List Char) : Bool :=
  isPointed (unsigned cs) || isPart cs || isPointedSixty (unsigned cs) ||
    isOneOf [".inf", ".Inf", ".INF"] (unsigned cs) || isOneOf [".nan", ".NaN", ".NAN"] cs

/-- Whether characters are at least one of those that satisfy `p`. -/
def isSome (p : Char → Bool) (cs : List Char) : Bool :=
  !cs.isEmpty && cs.all p

/-- Whether characters are a number with a digit other than zero in front. -/
def isNatural : List Char → Bool
  | c :: rest => '1' ≤ c && c ≤ '9' && areDigits rest
  | [] => false

/-- Whether characters are an integer without a sign. -/
def isUnsignedInt (cs : List Char) : Bool :=
  (match cs with
    | ['0'] => true
    | '0' :: 'b' :: rest => isSome (fun c => c = '0' || c = '1' || c = '_') rest
    | '0' :: 'x' :: rest => isSome (fun c => (Json.hexValue? c).isSome || c = '_') rest
    | '0' :: rest => isSome (fun c => ('0' ≤ c && c ≤ '7') || c = '_') rest
    | _ => false) ||
  (match splitAt ':' cs with
    | [whole] => isNatural whole
    | first :: rest => isNatural first && rest.all isSixtieth
    | [] => false)

/-- Whether characters are an integer. -/
def isInt (cs : List Char) : Bool :=
  isUnsignedInt (unsigned cs)

/-- Whether characters are nothing. -/
def isNull (cs : List Char) : Bool :=
  isOneOf ["", "~", "null", "Null", "NULL"] cs

/-- One or two digits in front, and what follows. -/
def shortNumber? : List Char → Option (List Char × List Char)
  | a :: b :: rest =>
    if isAsciiDigit a then
      if isAsciiDigit b then some ([a, b], rest) else some ([a], b :: rest)
    else none
  | [a] => if isAsciiDigit a then some ([a], []) else none
  | [] => none

/-- Two digits in front, and what follows. -/
def twoDigits? : List Char → Option (List Char × List Char)
  | a :: b :: rest => if isAsciiDigit a && isAsciiDigit b then some ([a, b], rest) else none
  | _ => none

/-- A character in front, and what follows. -/
def expect? (c : Char) : List Char → Option (List Char)
  | d :: rest => if d = c then some rest else none
  | [] => none

/-- The parts of a date with a time, as digits; the zone is its sign, hours and minutes. -/
structure Moment where
  /-- The year. -/
  year : List Char
  /-- The month. -/
  month : List Char
  /-- The day. -/
  day : List Char
  /-- The hour. -/
  hour : List Char
  /-- The minute. -/
  minute : List Char
  /-- The second. -/
  second : List Char
  /-- The digits behind the point of the second. -/
  fraction : List Char
  /-- The zone, with its sign if it is given as a distance. -/
  zone : Option (Option (Char × List Char × List Char))
deriving DecidableEq, Inhabited

/-- The year in front, and what follows. -/
def year? : List Char → Option (List Char × List Char)
  | a :: b :: c :: d :: rest =>
    if [a, b, c, d].all isAsciiDigit then some ([a, b, c, d], rest) else none
  | _ => none

/-- The zone at the end of a time: nothing, `Z`, or a distance with a sign. -/
def zone? (cs : List Char) : Option (Option (Option (Char × List Char × List Char))) :=
  match cs, cs.dropWhile fun c => c = ' ' || c = '\t' with
  | [], _ => some none
  | _, ['Z'] => some (some none)
  | _, s :: rest =>
    if s = '-' || s = '+' then do
      let (hours, rest) ← shortNumber? rest
      match rest with
      | [] => some (some (some (s, hours, [])))
      | ':' :: rest =>
        let (minutes, rest) ← twoDigits? rest
        if rest.isEmpty then some (some (some (s, hours, minutes))) else none
      | _ => none
    else none
  | _, [] => none

/-- What separates a date from a time, left out. -/
def dropSeparator? : List Char → Option (List Char)
  | [] => none
  | c :: rest =>
    if c = 'T' || c = 't' then some rest
    else if c = ' ' || c = '\t' then some (rest.dropWhile fun c => c = ' ' || c = '\t')
    else none

/-- A date with a time. -/
def moment? (cs : List Char) : Option Moment := do
  let (year, cs) ← year? cs
  let cs ← expect? '-' cs
  let (month, cs) ← shortNumber? cs
  let cs ← expect? '-' cs
  let (day, cs) ← shortNumber? cs
  let cs ← dropSeparator? cs
  let (hour, cs) ← shortNumber? cs
  let cs ← expect? ':' cs
  let (minute, cs) ← twoDigits? cs
  let cs ← expect? ':' cs
  let (second, cs) ← twoDigits? cs
  let (fraction, cs) := match cs with
    | '.' :: rest => (rest.takeWhile isAsciiDigit, rest.dropWhile isAsciiDigit)
    | cs => ([], cs)
  let zone ← zone? cs
  return ⟨year, month, day, hour, minute, second, fraction, zone⟩

/-- A date: year, month and day. -/
def date? (cs : List Char) : Option (List Char × List Char × List Char) := do
  let (year, cs) ← year? cs
  let cs ← expect? '-' cs
  let (month, cs) ← twoDigits? cs
  let cs ← expect? '-' cs
  let (day, cs) ← twoDigits? cs
  if cs.isEmpty then some (year, month, day) else none

/-- Whether characters are a date, or a date with a time. -/
def isTimestamp (cs : List Char) : Bool :=
  (date? cs).isSome || (moment? cs).isSome

/-- The kind of a scalar without quotes. -/
def kindOf (cs : List Char) : PlainKind :=
  if isBool cs then .bool
  else if isFloat cs then .float
  else if isInt cs then .int
  else if cs = ['<', '<'] then .merge
  else if isNull cs then .null
  else if isTimestamp cs then .timestamp
  else if cs = ['='] then .value
  else if cs = ['!'] || cs = ['&'] || cs = ['*'] then .indicator
  else .text

example : kindOf "1_000".toList = .int ∧ kindOf "1e3".toList = .text := by decide
example : kindOf "2001-12-14 21:59:43.10 -5".toList = .timestamp := by decide
example : kindOf "190:20:30.15".toList = .float := by decide

end Plain

end FlinkSteward.Yaml
