import FlinkSteward.Text.Digit

/-!
# Characters from bytes

The characters of a sequence of bytes in UTF-8. A sequence that is none is refused at the first bytes
that start no character: as many of them as could have been the start of one.

- `Utf8.decode`: the characters
- `Utf8.Fault.message`: what is told about bytes that are no characters
-/

namespace FlinkSteward.Text.Utf8

/-- Why bytes are no characters. -/
inductive Cause where
  /-- No character starts with the first of them. -/
  | start
  /-- The byte behind them does not go on with the character. -/
  | continuation
  /-- Nothing comes behind them, and the character is not complete. -/
  | ended
deriving DecidableEq, Inhabited

/-- Bytes that are no characters. -/
structure Fault where
  /-- The first of them. -/
  byte : Nat
  /-- How many bytes come before them. -/
  position : Nat
  /-- How many they are. -/
  length : Nat
  /-- Why they are no characters. -/
  cause : Cause
deriving DecidableEq, Inhabited

/-- Which bytes may follow a first byte: their number, and the bounds of the first of them. -/
def followers? (first : Nat) : Option (Nat × Nat × Nat) :=
  if 0xc2 ≤ first ∧ first ≤ 0xdf then some (1, 0x80, 0xbf)
  else if first = 0xe0 then some (2, 0xa0, 0xbf)
  else if first = 0xed then some (2, 0x80, 0x9f)
  else if 0xe1 ≤ first ∧ first ≤ 0xef then some (2, 0x80, 0xbf)
  else if first = 0xf0 then some (3, 0x90, 0xbf)
  else if 0xf1 ≤ first ∧ first ≤ 0xf3 then some (3, 0x80, 0xbf)
  else if first = 0xf4 then some (3, 0x80, 0x8f)
  else none

/-- How many of the bytes go on with a character, at most `n` of them; the first is bounded. -/
def goingOn (lower upper : Nat) : Nat → List Nat → Nat
  | 0, _ => 0
  | _, [] => 0
  | n + 1, b :: rest => if lower ≤ b ∧ b ≤ upper then goingOn 0x80 0xbf n rest + 1 else 0

/-- The bits that a first byte gives to its character. -/
def leadBits (first followers : Nat) : Nat :=
  first % Nat.pow 2 (6 - followers)

/-- The character of a first byte and the bytes that follow it. -/
def charOf (first : Nat) (rest : List Nat) : Char :=
  Char.ofNat (rest.foldl (fun n b => n * 64 + b % 64) (leadBits first rest.length))

/-- The characters of bytes, after as many bytes as `position` says. The first `skip` of them belong
to a character that was read. -/
def decodeFrom (position skip : Nat) : List Nat → Except Fault (List Char)
  | [] => .ok []
  | b :: rest =>
    match skip with
    | n + 1 => decodeFrom (position + 1) n rest
    | 0 =>
      if b < 0x80 then (decodeFrom (position + 1) 0 rest).map (Char.ofNat b :: ·)
      else match followers? b with
        | none => .error ⟨b, position, 1, .start⟩
        | some (n, lower, upper) =>
          let k := goingOn lower upper n rest
          if k = n then (decodeFrom (position + 1) n rest).map (charOf b (rest.take n) :: ·)
          else .error ⟨b, position, k + 1, if rest.length ≤ k then .ended else .continuation⟩

/-- The characters of bytes. -/
def decode (bytes : List Nat) : Except Fault (List Char) :=
  decodeFrom 0 0 bytes

/-- What is told about a cause. -/
def Cause.message : Cause → String
  | start => "invalid start byte"
  | continuation => "invalid continuation byte"
  | ended => "unexpected end of data"

/-- What is told about bytes that are no characters. -/
def Fault.message (f : Fault) : String :=
  "'utf-8' codec can't decode " ++
    (if f.length = 1 then
      "byte 0x" ++ String.ofList (padded 16 2 f.byte) ++ " in position " ++ toString f.position
    else
      "bytes in position " ++ toString f.position ++ "-" ++ toString (f.position + f.length - 1)) ++
    ": " ++ f.cause.message

example : (decode [0xe6, 0x97, 0xa5]).toOption = some ['日'] := by decide +kernel
example : (decode [0xf0, 0x9f, 0x98, 0x80]).toOption = some ['😀'] := by decide +kernel

end FlinkSteward.Text.Utf8
