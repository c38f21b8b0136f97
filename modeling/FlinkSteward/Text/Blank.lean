import FlinkSteward.Text.Table

/-!
# Blank characters

The characters that are trimmed from the ends of a text, and the trimming. Unicode's separators and
bidirectional blanks count, beside the control characters U+0009 to U+000D and U+001C to U+001F.

- `strip`: a text without the blanks at its two ends
- `dropMargins`: a text without the blanks around a number
- `isBlankText`: a text with nothing but blanks in it
-/

namespace FlinkSteward.Text

/-- The blank characters, by code point. -/
def blankRanges : List (Nat × Nat) := [
  (0x9, 0xd), (0x1c, 0x20), (0x85, 0x85), (0xa0, 0xa0), (0x1680, 0x1680), (0x2000, 0x200a),
  (0x2028, 0x2029), (0x202f, 0x202f), (0x205f, 0x205f), (0x3000, 0x3000)]

/-- Whether a character is trimmed from the ends of a text. -/
def isBlank (c : Char) : Bool :=
  inRanges blankRanges c.toNat

/-- Characters without the blanks at the start. -/
def stripStart (cs : List Char) : List Char :=
  cs.dropWhile isBlank

/-- Characters without the blanks at the end. -/
def stripEnd (cs : List Char) : List Char :=
  (cs.reverse.dropWhile isBlank).reverse

/-- Characters without the blanks at either end. -/
def stripChars (cs : List Char) : List Char :=
  stripEnd (stripStart cs)

/-- A text without the blanks at either end. -/
def strip (s : String) : String :=
  String.ofList (stripChars s.toList)

/-- Whether a character may stand around a number: a blank that is none of U+001C to U+001F. -/
def isMargin (c : Char) : Bool :=
  isBlank c && !inRanges [(0x1c, 0x1f)] c.toNat

/-- Characters without what may stand around a number. -/
def dropMargins (cs : List Char) : List Char :=
  ((cs.dropWhile isMargin).reverse.dropWhile isMargin).reverse

/-- Whether a text holds nothing but blanks. -/
def isBlankText (s : String) : Bool :=
  s.toList.all isBlank

@[simp] theorem toList_strip (s : String) : (strip s).toList = stripChars s.toList :=
  String.toList_ofList

example : strip " a b\t" = "a b" := by decide
example : isBlank '\u00a0' = true := by decide

end FlinkSteward.Text
