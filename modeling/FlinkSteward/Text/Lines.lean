import FlinkSteward.Text.Table

/-!
# Lines

Where a text breaks into lines: at line feeds, carriage returns (one together with the line feed
after it), vertical tabs, form feeds, the separators U+001C to U+001E, U+0085, U+2028 and U+2029.

- `firstLine`: what comes before the first break
-/

namespace FlinkSteward.Text

/-- Whether a character ends a line. -/
def isLineBreak (c : Char) : Bool :=
  inRanges [(0x0a, 0x0d), (0x1c, 0x1e), (0x85, 0x85), (0x2028, 0x2029)] c.toNat

/-- What comes before the first line break. -/
def firstLine (s : String) : String :=
  String.ofList (s.toList.takeWhile fun c => !isLineBreak c)

example : firstLine "a b\nc" = "a b" := by decide

end FlinkSteward.Text
