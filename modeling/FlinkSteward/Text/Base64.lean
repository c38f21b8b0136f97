import FlinkSteward.Text.Digit

/-!
# Bytes from letters

Bytes that are written with four characters of an alphabet of sixty-four for three bytes. Characters
outside of the alphabet do not count. The last group may be filled up with `=`, and what comes behind
a group that is filled up does not count.

- `Base64.decode`: the bytes
- `bytesLiteral`: bytes as they are shown to people
-/

namespace FlinkSteward.Text

namespace Base64

/-- Why characters are no bytes. -/
inductive Fault where
  /-- The last group, after so many bytes, has a single character. -/
  | single (bytes : Nat)
  /-- The last group is not complete. -/
  | padding
deriving DecidableEq, Inhabited

/-- What is told about characters that are no bytes. -/
def Fault.message : Fault → String
  | single bytes =>
    "Invalid base64-encoded string: number of data characters (" ++ toString (bytes / 3 * 4 + 1) ++
      ") cannot be 1 more than a multiple of 4"
  | padding => "Incorrect padding"

/-- The value of a character of the alphabet. -/
def value? (c : Char) : Option Nat :=
  if 'A' ≤ c ∧ c ≤ 'Z' then some (c.toNat - 65)
  else if 'a' ≤ c ∧ c ≤ 'z' then some (c.toNat - 71)
  else if isAsciiDigit c then some (c.toNat + 4)
  else if c = '+' then some 62
  else if c = '/' then some 63
  else none

/-- Decodes after `bytes`, latest first. Of the current group `place` characters were read, of which
the bits in `left` belong to no byte yet, and `pads` of `=` behind them. -/
def decodeFrom (bytes : List Nat) (place left pads : Nat) : List Char → Except Fault (List Nat)
  | [] =>
    match place with
    | 0 => .ok bytes.reverse
    | 1 => .error (.single bytes.length)
    | _ => .error .padding
  | c :: rest =>
    if c = '=' then
      if 2 ≤ place ∧ 4 ≤ place + pads + 1 then .ok bytes.reverse
      else decodeFrom bytes place left (if 2 ≤ place then pads + 1 else pads) rest
    else match value? c with
      | none => decodeFrom bytes place left pads rest
      | some v =>
        match place with
        | 0 => decodeFrom bytes 1 v 0 rest
        | 1 => decodeFrom ((left * 4 + v / 16) :: bytes) 2 (v % 16) 0 rest
        | 2 => decodeFrom ((left * 16 + v / 4) :: bytes) 3 (v % 4) 0 rest
        | _ => decodeFrom ((left * 64 + v) :: bytes) 0 0 0 rest

/-- The bytes that characters stand for. -/
def decode (cs : List Char) : Except Fault (List Nat) :=
  decodeFrom [] 0 0 0 cs

example : (decode "aGk=".toList).toOption = some [104, 105] := by decide +kernel
example : (decode "aGk".toList).toOption = none := by decide +kernel

end Base64

/-- One byte between the quotes `q`. -/
def byteLiteral (q : Char) (b : Nat) : List Char :=
  let c := Char.ofNat b
  if c = q ∨ c = '\\' then ['\\', c]
  else if c = '\t' then ['\\', 't']
  else if c = '\n' then ['\\', 'n']
  else if c = '\r' then ['\\', 'r']
  else if 0x20 ≤ b ∧ b < 0x7f then [c]
  else '\\' :: 'x' :: padded 16 2 b

/-- Bytes between quotes, with a letter in front. -/
def bytesLiteral (bytes : List Nat) : List Char :=
  let q := if bytes.contains 39 && !bytes.contains 34 then '"' else '\''
  'b' :: q :: bytes.flatMap (byteLiteral q) ++ [q]

end FlinkSteward.Text
