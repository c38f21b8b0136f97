import FlinkSteward.Quantity.Amount

/-!
# Memory sizes

A memory size such as `1g` or `512 mb` in bytes. Without a unit the number is in bytes.

- `Memory.read`: the number of bytes, or what is wrong with the text
-/

namespace FlinkSteward.Memory

open FlinkSteward.Text

/-- What can be wrong with a memory size. -/
inductive Fault where
  /-- There is no text. -/
  | missing
  /-- The text has nothing but blanks. -/
  | blank
  /-- The text does not start with a digit. -/
  | noNumber (text : String)
  /-- The text starts with a digit and is no amount. -/
  | unreadable (text : String)
  /-- The number has too many digits to be read. -/
  | tooLong (digits : Nat)
  /-- The unit is not one of memory. -/
  | unknownUnit (unit : String)
deriving DecidableEq, Inhabited

/-- The message of a fault. -/
def Fault.message : Fault → String
  | missing => "Memory size must not be null"
  | blank => "argument is an empty- or whitespace-only string"
  | noNumber text => "text does not start with a number: '" ++ text ++ "'"
  | unreadable text => "Could not parse value '" ++ text ++ "'"
  | tooLong digits => tooManyDigits digits
  | unknownUnit unit =>
    "Memory size unit '" ++ unit ++ "' does not match any of the recognized units"

/-- How many bytes a unit has. -/
def units : List (String × Nat) :=
  [("b", 1), ("bytes", 1),
    ("k", 1024), ("kb", 1024), ("kibibytes", 1024),
    ("m", Nat.pow 1024 2), ("mb", Nat.pow 1024 2), ("mebibytes", Nat.pow 1024 2),
    ("g", Nat.pow 1024 3), ("gb", Nat.pow 1024 3), ("gibibytes", Nat.pow 1024 3),
    ("t", Nat.pow 1024 4), ("tb", Nat.pow 1024 4), ("tebibytes", Nat.pow 1024 4)]

/-- The bytes of a memory size. -/
def read (text : String) : Except Fault Nat :=
  match stripChars text.toList with
  | [] => .error .blank
  | c :: rest =>
    match Amount.read? (c :: rest) with
    | none => .error (if isDigit c then .unreadable text else .noNumber text)
    | some a =>
      if a.isTooLong then .error (.tooLong a.digits.length)
      else match a.scale? units with
        | some bytes => .ok bytes
        | none => .error (.unknownUnit a.unit)

/-- The bytes of a memory size that may be missing. -/
def read? : Option String → Except Fault Nat
  | none => .error .missing
  | some text => read text

example : (read " 2 KB ").toOption = some 2048 := by decide

end FlinkSteward.Memory
