import FlinkSteward.Text.Table

/-!
# Digits

Decimal digits of every script, with their values, and the wider class of digit characters
(superscripts and digits in circles), which have no place value.

- `digitValue?`: the value of a decimal digit
- `isDigit`: decimal digits and digit characters
- `maxDigits`: how many digits an amount may be read from
-/

namespace FlinkSteward.Text

/-- The digit zero of each script; the digits one to nine follow it. -/
def zeroDigits : List Nat := [
  0x30, 0x660, 0x6f0, 0x7c0, 0x966, 0x9e6, 0xa66, 0xae6, 0xb66, 0xbe6, 0xc66, 0xce6, 0xd66,
  0xde6, 0xe50, 0xed0, 0xf20, 0x1040, 0x1090, 0x17e0, 0x1810, 0x1946, 0x19d0, 0x1a80, 0x1a90,
  0x1b50, 0x1bb0, 0x1c40, 0x1c50, 0xa620, 0xa8d0, 0xa900, 0xa9d0, 0xa9f0, 0xaa50, 0xabf0, 0xff10,
  0x104a0, 0x10d30, 0x11066, 0x110f0, 0x11136, 0x111d0, 0x112f0, 0x11450, 0x114d0, 0x11650,
  0x116c0, 0x11730, 0x118e0, 0x11950, 0x11c50, 0x11d50, 0x11da0, 0x16a60, 0x16ac0, 0x16b50,
  0x1d7ce, 0x1d7d8, 0x1d7e2, 0x1d7ec, 0x1d7f6, 0x1e140, 0x1e2f0, 0x1e950, 0x1fbf0]

/-- Digit characters that are not decimal digits. -/
def digitSignRanges : List (Nat × Nat) := [
  (0xb2, 0xb3), (0xb9, 0xb9), (0x1369, 0x1371), (0x19da, 0x19da), (0x2070, 0x2070),
  (0x2074, 0x2079), (0x2080, 0x2089), (0x2460, 0x2468), (0x2474, 0x247c), (0x2488, 0x2490),
  (0x24ea, 0x24ea), (0x24f5, 0x24fd), (0x24ff, 0x24ff), (0x2776, 0x277e), (0x2780, 0x2788),
  (0x278a, 0x2792), (0x10a40, 0x10a43), (0x10e60, 0x10e68), (0x11052, 0x1105a),
  (0x1f100, 0x1f10a)]

/-- The value of a decimal digit of any script. -/
def digitValue? (c : Char) : Option Nat :=
  zeroDigits.findSome? fun z => if z ≤ c.toNat ∧ c.toNat ≤ z + 9 then some (c.toNat - z) else none

/-- Whether a character is a decimal digit of some script. -/
def isDecimal (c : Char) : Bool :=
  (digitValue? c).isSome

/-- Whether a character is a digit, with a place value or without. -/
def isDigit (c : Char) : Bool :=
  isDecimal c || inRanges digitSignRanges c.toNat

/-- Whether a character is one of `0` to `9`. -/
def isAsciiDigit (c : Char) : Bool :=
  '0' ≤ c && c ≤ '9'

/-- The value of a run of digits, most significant first; other characters count as zero. -/
def digitsValue (cs : List Char) : Nat :=
  cs.foldl (fun n c => 10 * n + (digitValue? c).getD 0) 0

/-- How many digits an amount may be read from, zeros in front included. -/
def maxDigits : Nat :=
  4300

/-- What is said of a number with more digits than that. -/
def tooManyDigits (digits : Nat) : String :=
  "Exceeds the limit (" ++ toString maxDigits ++
    " digits) for integer string conversion: value has " ++ toString digits ++
    " digits; use sys.set_int_max_str_digits() to increase the limit"

/-- Digits of `n` in the given base, most significant first, in lower case. -/
def digitsOf (base n : Nat) : List Char :=
  Nat.toDigits base n

/-- Digits of `n` in the given base, filled with zeros up to `width`. -/
def padded (base width n : Nat) : List Char :=
  let ds := digitsOf base n
  List.replicate (width - ds.length) '0' ++ ds

example : digitValue? '7' = some 7 := by decide
example : digitValue? '٣' = some 3 := by decide
example : isDigit '²' = true ∧ isDecimal '²' = false := by decide
example : digitsValue ['1', '٢', '3'] = 123 := by decide

end FlinkSteward.Text
