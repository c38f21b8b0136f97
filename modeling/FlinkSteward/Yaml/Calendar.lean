import FlinkSteward.Yaml.Plain

/-!
# Dates and times

Days of the Gregorian calendar, and moments of a day, which may say how far their zone is from
Greenwich.

- `Date.make`, `DateTime.make`: checked days and moments
- `Date.text`, `DateTime.text`: the written forms, and `literal` the ones inside of collections
-/

namespace FlinkSteward.Yaml

open FlinkSteward.Text

/-- Why numbers are no date or time. -/
inductive CalendarFault where
  /-- There is no such year. -/
  | year (n : Nat)
  /-- There is no such month. -/
  | month
  /-- The month has no such day. -/
  | day
  /-- There is no such hour. -/
  | hour
  /-- There is no such minute. -/
  | minute
  /-- There is no such second. -/
  | second
  /-- A zone cannot be so many minutes away. -/
  | zone (minutes : Int)
deriving DecidableEq, Inhabited

/-- A span of minutes, as days and seconds. -/
def spanLiteral (minutes : Int) : String :=
  let days := minutes / 1440
  let seconds := 60 * (minutes % 1440)
  let parts := (if days = 0 then [] else ["days=" ++ toString days]) ++
    (if seconds = 0 then [] else ["seconds=" ++ toString seconds])
  "datetime.timedelta(" ++ (if parts.isEmpty then "0" else String.intercalate ", " parts) ++ ")"

/-- What is told about numbers that are no date or time. -/
def CalendarFault.message : CalendarFault → String
  | year n => "year " ++ toString n ++ " is out of range"
  | month => "month must be in 1..12"
  | day => "day is out of range for month"
  | hour => "hour must be in 0..23"
  | minute => "minute must be in 0..59"
  | second => "second must be in 0..59"
  | zone minutes =>
    "offset must be a timedelta strictly between -timedelta(hours=24) and timedelta(hours=24), not " ++
      spanLiteral minutes ++ "."

/-- A day. -/
structure Date where
  /-- The year. -/
  year : Nat
  /-- The month, from one. -/
  month : Nat
  /-- The day of the month, from one. -/
  day : Nat
deriving DecidableEq, Inhabited

/-- Whether a year has a day more. -/
def isLeap (year : Nat) : Bool :=
  year % 4 = 0 && (year % 100 ≠ 0 || year % 400 = 0)

/-- How many days a month has. -/
def daysOf (year month : Nat) : Nat :=
  if month = 2 then (if isLeap year then 29 else 28)
  else if [4, 6, 9, 11].contains month then 30
  else 31

/-- Digits as a number. -/
def numberOf (digits : List Char) : Nat :=
  digitsValue digits

namespace Date

/-- The day of these numbers. -/
def make (year month day : Nat) : Except CalendarFault Date :=
  if year = 0 then .error (.year year)
  else if month = 0 ∨ 12 < month then .error .month
  else if day = 0 ∨ daysOf year month < day then .error .day
  else .ok ⟨year, month, day⟩

/-- The numbers of a day between dashes. -/
def chars (d : Date) : List Char :=
  padded 10 4 d.year ++ '-' :: padded 10 2 d.month ++ '-' :: padded 10 2 d.day

/-- The written form of a day. -/
def text (d : Date) : String :=
  String.ofList d.chars

/-- The numbers of a day, with commas. -/
def numbers (d : Date) : List String :=
  [toString d.year, toString d.month, toString d.day]

/-- The written form of a day inside of a collection. -/
def literal (d : Date) : String :=
  "datetime.date(" ++ String.intercalate ", " d.numbers ++ ")"

end Date

/-- A moment of a day. -/
structure DateTime where
  /-- The day. -/
  date : Date
  /-- The hour. -/
  hour : Nat
  /-- The minute. -/
  minute : Nat
  /-- The second. -/
  second : Nat
  /-- The millionths of a second. -/
  micros : Nat
  /-- How many minutes ahead of Greenwich the zone is, if there is one. -/
  zone : Option Int
deriving DecidableEq, Inhabited

namespace DateTime

/-- The millionths of a second that the digits behind its point stand for; further ones do not count. -/
def microsOf (digits : List Char) : Nat :=
  let ds := digits.take 6
  numberOf (ds ++ List.replicate (6 - ds.length) '0')

/-- How far a zone is from Greenwich. -/
def zoneOf : Option (Option (Char × List Char × List Char)) → Except CalendarFault (Option Int)
  | none => .ok none
  | some none => .ok (some 0)
  | some (some (sign, hours, minutes)) =>
    let n : Int := 60 * numberOf hours + numberOf minutes
    let n := if sign = '-' then -n else n
    if n.natAbs < 1440 then .ok (some n) else .error (.zone n)

/-- The moment that its parts stand for. -/
def make (m : Plain.Moment) : Except CalendarFault DateTime := do
  let zone ← zoneOf m.zone
  let date ← Date.make (numberOf m.year) (numberOf m.month) (numberOf m.day)
  let t : DateTime :=
    ⟨date, numberOf m.hour, numberOf m.minute, numberOf m.second, microsOf m.fraction, zone⟩
  if 23 < t.hour then .error .hour
  else if 59 < t.minute then .error .minute
  else if 59 < t.second then .error .second
  else .ok t

/-- The written form of a zone. -/
def zoneChars (minutes : Int) : List Char :=
  (if minutes < 0 then '-' else '+') :: padded 10 2 (minutes.natAbs / 60) ++
    ':' :: padded 10 2 (minutes.natAbs % 60)

/-- The written form of a moment. -/
def text (t : DateTime) : String :=
  String.ofList (t.date.chars ++ ' ' :: padded 10 2 t.hour ++ ':' :: padded 10 2 t.minute ++
    ':' :: padded 10 2 t.second ++
    (if t.micros = 0 then [] else '.' :: padded 10 6 t.micros) ++
    (t.zone.map zoneChars).getD [])

/-- The written form of a zone inside of a collection. -/
def zoneLiteral (minutes : Int) : String :=
  "tzinfo=" ++ if minutes = 0 then "datetime.timezone.utc"
    else "datetime.timezone(" ++ spanLiteral minutes ++ ")"

/-- The written form of a moment inside of a collection. -/
def literal (t : DateTime) : String :=
  let seconds :=
    if t.micros ≠ 0 then [toString t.second, toString t.micros]
    else if t.second ≠ 0 then [toString t.second]
    else []
  "datetime.datetime(" ++ String.intercalate ", " (t.date.numbers ++
    [toString t.hour, toString t.minute] ++ seconds ++ (t.zone.map zoneLiteral).toList) ++ ")"

end DateTime

end FlinkSteward.Yaml
