/-!
# Faults in JSON texts

What can be wrong with a JSON text, and the message that names the place: the line, the column and
the number of characters before it.

- `Json.Fault.message`: the message for a fault in a text
-/

namespace FlinkSteward.Json

/-- What is wrong at a place of a JSON text. -/
inductive Problem where
  /-- No value starts here. -/
  | expectingValue
  /-- Text goes on after the value. -/
  | extraData
  /-- No quoted key starts here. -/
  | expectingKey
  /-- No colon stands here. -/
  | expectingColon
  /-- No comma stands here. -/
  | expectingComma
  /-- The text ends inside the string that starts here. -/
  | unterminatedString
  /-- A string has a control character here. -/
  | controlCharacter
  /-- A string has an unknown escape here. -/
  | badEscape
  /-- A string has an incomplete escape by number here. -/
  | badUnicodeEscape
  /-- The text starts with a byte order mark. -/
  | byteOrderMark
deriving DecidableEq, Inhabited

/-- The wording of a problem. -/
def Problem.message : Problem → String
  | expectingValue => "Expecting value"
  | extraData => "Extra data"
  | expectingKey => "Expecting property name enclosed in double quotes"
  | expectingColon => "Expecting ':' delimiter"
  | expectingComma => "Expecting ',' delimiter"
  | unterminatedString => "Unterminated string starting at"
  | controlCharacter => "Invalid control character at"
  | badEscape => "Invalid \\escape"
  | badUnicodeEscape => "Invalid \\uXXXX escape"
  | byteOrderMark => "Unexpected UTF-8 BOM (decode using utf-8-sig)"

/-- A problem and its place in a text. -/
structure Fault where
  /-- What is wrong. -/
  problem : Problem
  /-- The line, from 1. -/
  line : Nat
  /-- The column, from 1. -/
  column : Nat
  /-- How many characters come before. -/
  position : Nat
deriving DecidableEq, Inhabited

/-- The place after the characters `before`. -/
def Fault.at (problem : Problem) (before : List Char) : Fault where
  problem := problem
  line := before.count '\n' + 1
  column := (before.reverse.takeWhile (· ≠ '\n')).length + 1
  position := before.length

/-- The message of a fault. -/
def Fault.message (f : Fault) : String :=
  f.problem.message ++ ": line " ++ toString f.line ++ " column " ++ toString f.column ++
    " (char " ++ toString f.position ++ ")"

end FlinkSteward.Json
