import FlinkSteward.Failure
import FlinkSteward.Json.Read
import FlinkSteward.Number.Integer
import FlinkSteward.Text.CaseMap
import FlinkSteward.Yaml.Data
import FlinkSteward.Yaml.Node

/-!
# Scalars as data

What the text of a scalar stands for, as its tag says. A scalar without quotes has a tag that its form
allows; a tag that is written out may be one that the text does not fit.

- `Meaning`: what tags stand for
- `Data.ofScalar`: the data of a text with such a tag
-/

namespace FlinkSteward.Yaml

open FlinkSteward.Text

/-- What a tag stands for. -/
inductive Meaning where
  /-- Nothing. -/
  | null
  /-- A truth value. -/
  | bool
  /-- An integer. -/
  | int
  /-- A double. -/
  | float
  /-- Bytes. -/
  | binary
  /-- A day or a moment. -/
  | timestamp
  /-- A text. -/
  | text
  /-- A list of pairs that is a map. -/
  | orderedMap
  /-- A list of pairs. -/
  | pairs
  /-- A set. -/
  | set
  /-- A list. -/
  | sequence
  /-- A map. -/
  | mapping
deriving DecidableEq, Inhabited

namespace Meaning

/-- The names of the tags that are known. -/
def names : List (String × Meaning) := [
  ("null", null), ("bool", bool), ("int", int), ("float", float), ("binary", binary),
  ("timestamp", timestamp), ("str", text), ("omap", orderedMap), ("pairs", pairs), ("set", set),
  ("seq", sequence), ("map", mapping)]

/-- What a tag stands for, if that is known. -/
def ofTag? (tag : String) : Option Meaning :=
  (names.find? fun e => Node.tagNamed e.1 = tag).map Prod.snd

/-- Whether a tag stands for data with parts. -/
def hasParts : Meaning → Bool
  | orderedMap | pairs | set | sequence | mapping => true
  | _ => false

end Meaning

namespace Data

/-- The characters of a number without `_`, in which there is a sign or a digit at least. -/
def numeral (text : String) : Outcome (List Char) :=
  match text.toList.filter (· ≠ '_') with
  | [] => .error .noDigits
  | cs => .ok cs

/-- Whether a minus is in front. -/
def isNegative (cs : List Char) : Bool :=
  cs.head? = some '-'

/-- The value of a digit of any base up to sixteen. -/
def digitIn? (base : Nat) (c : Char) : Option Nat :=
  (Json.hexValue? c).filter (· < base)

/-- The number that digits to a base stand for. -/
def digitsIn? (base : Nat) (cs : List Char) : Option Nat :=
  if cs.isEmpty then none
  else (cs.mapM (digitIn? base)).map (List.foldl (fun n d => base * n + d) 0)

/-- The integer that characters stand for to a base. -/
def intIn (base : Nat) (cs : List Char) : Outcome Int :=
  match digitsIn? base cs with
  | some n => .ok n
  | none => .error (.notInBase base (String.ofList cs))

/-- The integer that characters stand for. -/
def intOf (cs : List Char) : Outcome Int :=
  match Integer.ofText? (String.ofList cs) with
  | some n => .ok n
  | none => .error (.notAnInteger (String.ofList cs))

/-- The integer of characters without a sign: binary, octal, hexadecimal, or with parts to the base
sixty. -/
def unsignedInt (cs : List Char) : Outcome Int :=
  match cs with
  | [] => .error .noDigits
  | ['0'] => .ok 0
  | '0' :: 'b' :: rest => intIn 2 rest
  | '0' :: 'x' :: rest => intIn 16 rest
  | '0' :: _ => intIn 8 cs
  | _ => do
    let parts ← (splitAt ':' cs).mapM intOf
    return parts.foldl (fun n d => 60 * n + d) 0

/-- The integer that a text stands for. -/
def readInt (text : String) : Outcome Int := do
  let cs ← numeral text
  let n ← unsignedInt (Plain.unsigned cs)
  return if isNegative cs then -n else n

/-- The double that characters stand for. -/
def doubleOf (cs : List Char) : Outcome Double :=
  match Double.ofText? (String.ofList cs) with
  | some x => .ok x
  | none => .error (.notANumber (String.ofList cs))

/-- Parts to the base sixty, last first, added up; `unit` is the worth of the first of them. -/
def addParts (sum : Double) (unit : Nat) : List Double → Double
  | [] => sum
  | x :: rest => addParts (sum.add (x.mul (Double.ofRatio unit 1))) (unit * 60) rest

/-- The double of characters without a sign. -/
def unsignedDouble (cs : List Char) : Outcome Double :=
  if cs = ".inf".toList then .ok (.infinity false)
  else if cs = ".nan".toList then .ok .nan
  else if cs.contains ':' then do
    let parts ← (splitAt ':' cs).mapM doubleOf
    return addParts (Double.zero false) 1 parts.reverse
  else doubleOf cs

/-- The double that a text stands for. -/
def readDouble (text : String) : Outcome Double := do
  let cs ← numeral (lower text)
  let x ← unsignedDouble (Plain.unsigned cs)
  return if isNegative cs then x.neg else x

/-- The truth value that a text stands for. -/
def readBool (text : String) : Outcome Bool :=
  let word := lower text
  if ["yes", "true", "on"].contains word then .ok true
  else if ["no", "false", "off"].contains word then .ok false
  else .error (.noSuchName word)

/-- The day that characters stand for, if they are numbers between dashes. -/
def day? (cs : List Char) : Option (List Char × List Char × List Char) := do
  let (year, cs) ← Plain.year? cs
  let (month, cs) ← Plain.shortNumber? (← Plain.expect? '-' cs)
  let (day, cs) ← Plain.shortNumber? (← Plain.expect? '-' cs)
  if cs.isEmpty then some (year, month, day) else none

/-- The day or moment that a text stands for. -/
def readTime (text : String) : Outcome Data :=
  match day? text.toList, Plain.moment? text.toList with
  | some (year, month, day), _ =>
    (Outcome.ofExcept .calendar (Date.make (numberOf year) (numberOf month) (numberOf day))).map .date
  | none, some m => (Outcome.ofExcept .calendar (DateTime.make m)).map .time
  | none, none => .error (.lacks .null "groupdict")

/-- What is told about characters that ASCII does not have. -/
def notAscii (position : Nat) (run : List Char) : String :=
  "'ascii' codec can't encode " ++
    (match run with
      | [c] =>
        let n := c.toNat
        let digits := if n < 0x100 then 'x' :: padded 16 2 n
          else if n < 0x10000 then 'u' :: padded 16 4 n
          else 'U' :: padded 16 8 n
        "character '\\" ++ String.ofList digits ++ "' in position " ++ toString position
      | _ => "characters in position " ++ toString position ++ "-" ++
          toString (position + run.length - 1)) ++
    ": ordinal not in range(128)"

/-- The bytes that a text stands for. -/
def readBytes (text : String) : Except String (List Nat) :=
  let cs := text.toList
  let front := cs.takeWhile fun c => c.toNat < 128
  match (cs.drop front.length).takeWhile fun c => 128 ≤ c.toNat with
  | [] => (Base64.decode cs).mapError fun f => "failed to decode base64 data: " ++ f.message
  | run => .error ("failed to convert base64 data into ascii: " ++ notAscii front.length run)

/-- The data of a scalar whose tag stands for data without parts. The scalar is in the text `name`
and starts at `start`. -/
def ofScalar (name : String) (start : Mark) (m : Meaning) (s : String) : Outcome Data :=
  match m with
  | .null => .ok null
  | .bool => (readBool s).map bool
  | .int => (readInt s).map int
  | .float => (readDouble s).map real
  | .timestamp => readTime s
  | .binary =>
    (Outcome.ofExcept (fun problem => .yaml name ⟨.data, none, none, problem, some start⟩)
      (readBytes s)).map bytes
  | _ => .ok (text s)

end Data

end FlinkSteward.Yaml
