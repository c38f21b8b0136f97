import FlinkSteward.Json.Fault
import FlinkSteward.Value.Basic

/-!
# Reading JSON

A JSON text as a value. Beyond the standard, `NaN`, `Infinity` and `-Infinity` are numbers, and of
two entries for one key the last counts, at the place of the first. A number with a point or an
exponent is a double, any other an integer.

Every reader takes the characters that are left and gives back those that it leaves, so that a fault
is known by how much of the text was left where it arose.

- `Json.read`: the value of a whole text, or the first fault
-/

namespace FlinkSteward.Json

open FlinkSteward.Text

/-- A problem, with the characters that were left at its place. -/
abbrev Stuck := Problem × Nat

/-- What a reader makes of the characters it is given: a result and what is left. -/
abbrev Reading (α : Type) := Except Stuck (α × List Char)

/-- A problem at the start of these characters. -/
def stuckAt {α : Type} (problem : Problem) (left : List Char) : Except Stuck α :=
  .error (problem, left.length)

/-- Whether a character may stand between tokens. -/
def isSpace (c : Char) : Bool :=
  c = ' ' || c = '\t' || c = '\n' || c = '\r'

/-- Characters without the space at the start. -/
def skipSpace (cs : List Char) : List Char :=
  cs.dropWhile isSpace

/-- The value of a hexadecimal digit. -/
def hexValue? (c : Char) : Option Nat :=
  if '0' ≤ c ∧ c ≤ '9' then some (c.toNat - '0'.toNat)
  else if 'a' ≤ c ∧ c ≤ 'f' then some (c.toNat - 'a'.toNat + 10)
  else if 'A' ≤ c ∧ c ≤ 'F' then some (c.toNat - 'A'.toNat + 10)
  else none

/-- The value of four hexadecimal digits. -/
def hex4? (a b c d : Char) : Option Nat := do
  let w ← hexValue? a
  let x ← hexValue? b
  let y ← hexValue? c
  let z ← hexValue? d
  return ((w * 16 + x) * 16 + y) * 16 + z

/-- Whether a code unit is the first of a pair. -/
def isHighSurrogate (n : Nat) : Bool :=
  0xd800 ≤ n && n ≤ 0xdbff

/-- Whether a code unit is the second of a pair. -/
def isLowSurrogate (n : Nat) : Bool :=
  0xdc00 ≤ n && n ≤ 0xdfff

/-- The code point of a pair of code units. -/
def joinSurrogates (high low : Nat) : Nat :=
  0x10000 + (high - 0xd800) * 0x400 + (low - 0xdc00)

/-- The character of an escape by number; half a pair on its own has none. -/
def charOf (n : Nat) : Char :=
  if n.isValidChar then Char.ofNat n else Char.ofNat 0xfffd

/-- The character that a letter after a backslash stands for. -/
def escape? : Char → Option Char
  | '"' => some '"'
  | '\\' => some '\\'
  | '/' => some '/'
  | 'b' => some '\x08'
  | 'f' => some '\x0c'
  | 'n' => some '\n'
  | 'r' => some '\r'
  | 't' => some '\t'
  | _ => none

/-- The second code unit of a pair, when an escape for one follows with more text behind it. -/
def lowSurrogate? : List Char → Option (Nat × List Char)
  | '\\' :: 'u' :: a :: b :: c :: d :: rest =>
    if rest.isEmpty then none
    else match hex4? a b c d with
      | some n => if isLowSurrogate n then some (n, rest) else none
      | none => none
  | _ => none

/-- Whether an escape by number follows, with more text behind it, that has a wrong digit. -/
def brokenPair : List Char → Bool
  | '\\' :: 'u' :: a :: b :: c :: d :: _ :: _ => (hex4? a b c d).isNone
  | _ => false

/-- The inside of a string up to its closing quote; `start` is what was left at the opening one. -/
def stringRest (start : Nat) (fuel : Nat) (acc : List Char) (cs : List Char) : Reading String :=
  match fuel with
  | 0 => .error (.unterminatedString, start)
  | fuel + 1 =>
    match cs with
    | [] => .error (.unterminatedString, start)
    | '"' :: rest => .ok (String.ofList acc.reverse, rest)
    | '\\' :: [] => .error (.unterminatedString, start)
    | '\\' :: 'u' :: rest =>
      match rest with
      | a :: b :: c :: d :: after =>
        match hex4? a b c d, after with
        | none, _ => stuckAt .badUnicodeEscape ('u' :: rest)
        | some _, [] => stuckAt .badUnicodeEscape ('u' :: rest)
        | some n, _ :: _ =>
          if isHighSurrogate n then
            match lowSurrogate? after with
            | some (m, rest) => stringRest start fuel (charOf (joinSurrogates n m) :: acc) rest
            | none =>
              if brokenPair after then stuckAt .badUnicodeEscape (after.drop 1)
              else stringRest start fuel (charOf n :: acc) after
          else stringRest start fuel (charOf n :: acc) after
      | _ => stuckAt .badUnicodeEscape ('u' :: rest)
    | '\\' :: c :: rest =>
      match escape? c with
      | some e => stringRest start fuel (e :: acc) rest
      | none => stuckAt .badEscape cs
    | c :: rest =>
      if c.toNat < 0x20 then stuckAt .controlCharacter cs
      else stringRest start fuel (c :: acc) rest

/-- The inside of a string after its opening quote. -/
def string (cs : List Char) : Reading String :=
  stringRest (cs.length + 1) (cs.length + 1) [] cs

/-- The digits of a number before the point: a single zero, or digits that start with another. -/
def wholeDigits : List Char → List Char × List Char
  | '0' :: rest => (['0'], rest)
  | cs => (cs.takeWhile isAsciiDigit, cs.dropWhile isAsciiDigit)

/-- A point with digits behind it, if that is what follows: the digits. -/
def pointDigits : List Char → List Char × List Char
  | '.' :: rest =>
    let ds := rest.takeWhile isAsciiDigit
    if ds.isEmpty then ([], '.' :: rest) else (ds, rest.dropWhile isAsciiDigit)
  | cs => ([], cs)

/-- The digits behind the sign of an exponent, if there are any. -/
def exponentDigits (negative : Bool) (cs : List Char) : Option (Int × List Char) :=
  let ds := cs.takeWhile isAsciiDigit
  if ds.isEmpty then none
  else some (if negative then -(digitsValue ds : Int) else digitsValue ds, cs.dropWhile isAsciiDigit)

/-- An exponent, if that is what follows. -/
def exponent? : List Char → Option (Int × List Char)
  | c :: rest =>
    if c = 'e' ∨ c = 'E' then
      match rest with
      | '-' :: r => exponentDigits true r
      | '+' :: r => exponentDigits false r
      | r => exponentDigits false r
    else none
  | [] => none

/-- A number without its sign, if one starts here. -/
def unsignedNumber? (negative : Bool) (cs : List Char) : Option (Value × List Char) :=
  let (whole, rest) := wholeDigits cs
  if whole.isEmpty then none
  else
    let (part, rest) := pointDigits rest
    match exponent? rest with
    | some (e, rest) =>
      some (.real (Double.ofDecimal negative (digitsValue (whole ++ part)) (e - part.length)), rest)
    | none =>
      if part.isEmpty then
        some (.int (if negative then -(digitsValue whole : Int) else digitsValue whole), rest)
      else
        some (.real (Double.ofDecimal negative (digitsValue (whole ++ part)) (-part.length)), rest)

/-- What is left after a word, if the characters start with it. -/
def afterWord? (word : String) (cs : List Char) : Option (List Char) :=
  if word.toList.isPrefixOf cs then some (cs.drop word.toList.length) else none

/-- A word or a number. -/
def scalar (cs : List Char) : Reading Value :=
  match afterWord? "null" cs, afterWord? "true" cs, afterWord? "false" cs with
  | some rest, _, _ => .ok (.null, rest)
  | _, some rest, _ => .ok (.bool true, rest)
  | _, _, some rest => .ok (.bool false, rest)
  | none, none, none =>
    match afterWord? "NaN" cs, afterWord? "Infinity" cs, afterWord? "-Infinity" cs with
    | some rest, _, _ => .ok (.real .nan, rest)
    | _, some rest, _ => .ok (.real (.infinity false), rest)
    | _, _, some rest => .ok (.real (.infinity true), rest)
    | none, none, none =>
      let number := match cs with
        | '-' :: rest => unsignedNumber? true rest
        | _ => unsignedNumber? false cs
      match number with
      | some n => .ok n
      | none => stuckAt .expectingValue cs

mutual

/-- A value. Each value inside another and each entry takes one unit of `fuel`. -/
def value (fuel : Nat) (cs : List Char) : Reading Value :=
  match fuel with
  | 0 => stuckAt .expectingValue cs
  | fuel + 1 =>
    match cs with
    | '"' :: rest => (string rest).map fun r => (.text r.1, r.2)
    | '[' :: rest =>
      match skipSpace rest with
      | ']' :: rest => .ok (.list [], rest)
      | rest => items fuel [] rest
    | '{' :: rest =>
      match skipSpace rest with
      | '}' :: rest => .ok (.map [], rest)
      | rest => fields fuel [] rest
    | cs => scalar cs

/-- The items of a list from the next one on; `before` are the earlier ones, last first. -/
def items (fuel : Nat) (before : List Value) (cs : List Char) : Reading Value :=
  match fuel with
  | 0 => stuckAt .expectingValue cs
  | fuel + 1 =>
    match value fuel cs with
    | .error e => .error e
    | .ok (v, rest) =>
      match skipSpace rest with
      | ']' :: rest => .ok (.list (v :: before).reverse, rest)
      | ',' :: rest => items fuel (v :: before) (skipSpace rest)
      | rest => stuckAt .expectingComma rest

/-- The fields of a map from the next one on; `before` are the earlier ones. -/
def fields (fuel : Nat) (before : Entries Value) (cs : List Char) : Reading Value :=
  match fuel with
  | 0 => stuckAt .expectingKey cs
  | fuel + 1 =>
    match cs with
    | '"' :: rest =>
      match string rest with
      | .error e => .error e
      | .ok (key, rest) =>
        match skipSpace rest with
        | ':' :: rest =>
          match value fuel (skipSpace rest) with
          | .error e => .error e
          | .ok (v, rest) =>
            match skipSpace rest with
            | '}' :: rest => .ok (.map (before.put key v), rest)
            | ',' :: rest => fields fuel (before.put key v) (skipSpace rest)
            | rest => stuckAt .expectingComma rest
        | rest => stuckAt .expectingColon rest
    | cs => stuckAt .expectingKey cs

end

/-- The value of a text with nothing but space around it. -/
def whole (cs : List Char) : Except Stuck Value :=
  if cs.head? = some (Char.ofNat 0xfeff) then stuckAt .byteOrderMark cs
  else match value (cs.length + 1) (skipSpace cs) with
    | .error e => .error e
    | .ok (v, rest) =>
      match skipSpace rest with
      | [] => .ok v
      | rest => stuckAt .extraData rest

/-- The value of a JSON text, or the first fault in it. -/
def read (s : String) : Except Fault Value :=
  let cs := s.toList
  (whole cs).mapError fun (problem, left) => Fault.at problem (cs.take (cs.length - left))

example : (read "[1, 1.5, \x7b\"a\": null\x7d]").toOption =
    some (.list [.int 1, .real (Double.ofDecimal false 15 (-1)), .map [("a", .null)]]) := by
  decide +kernel

end FlinkSteward.Json
