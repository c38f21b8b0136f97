import FlinkSteward.Text.Digit
import FlinkSteward.Text.Printable

/-!
# Quoted text

A text between quotes on one line. The quote is a single one, or a double one when the text holds
single quotes and no double one; the quote in use and the backslash are escaped, and unprintable
characters are written by number.

- `quoted`: the quoted form of a text
-/

namespace FlinkSteward.Text

/-- The quote for a text: double when only that avoids escaping. -/
def quoteFor (cs : List Char) : Char :=
  if cs.contains '\'' && !cs.contains '"' then '"' else '\''

/-- One character between the quotes `q`. -/
def quotedChar (q c : Char) : List Char :=
  if c = q ∨ c = '\\' then ['\\', c]
  else if c = '\t' then ['\\', 't']
  else if c = '\n' then ['\\', 'n']
  else if c = '\r' then ['\\', 'r']
  else if isPrintable c then [c]
  else if c.toNat < 0x100 then '\\' :: 'x' :: padded 16 2 c.toNat
  else if c.toNat < 0x10000 then '\\' :: 'u' :: padded 16 4 c.toNat
  else '\\' :: 'U' :: padded 16 8 c.toNat

/-- A text between quotes, on one line. -/
def quoted (s : String) : String :=
  let cs := s.toList
  let q := quoteFor cs
  String.ofList (q :: cs.flatMap (quotedChar q) ++ [q])

example : quoted "it's" = "\"it's\"" := by decide +kernel
example : quoted "a\n\"'" = "'a\\n\"\\''" := by decide +kernel

end FlinkSteward.Text
