import FlinkSteward.Yaml.Character
import FlinkSteward.Yaml.Plain

/-!
# Styles of scalars

How a text is written in YAML: without quotes where nothing in it could be taken for something else,
in single quotes where it has only printable ASCII and line feeds, and in double quotes with escapes
otherwise.

- `ScalarShape.of`: what in a text decides on its style
- `Style.choose`: the style of a text
-/

namespace FlinkSteward.Yaml

open FlinkSteward.Text

/-- What in a text decides on its style. -/
structure ScalarShape where
  /-- It has line breaks. -/
  isMultiline : Bool
  /-- It can be written without quotes. -/
  allowsPlain : Bool
  /-- It can be written in single quotes. -/
  allowsSingle : Bool
deriving DecidableEq, Inhabited

namespace ScalarShape

/-- Whether a character at the start of a text could be taken for an indicator. -/
def startsIndicator (c : Char) (after : List Char) : Bool :=
  ['#', ',', '[', ']', '{', '}', '&', '*', '!', '|', '>', '\'', '"', '%', '@', '\x60'].contains c ||
    ((c = '?' || c = ':' || c = '-') && isSeparated after)

/-- Whether an indicator is inside a text; `before` is the character in front. -/
def hasInnerIndicator (before : Char) : List Char → Bool
  | [] => false
  | c :: rest =>
    (c = ':' && isSeparated rest) || (c = '#' && isSeparator before) || hasInnerIndicator c rest

/-- Whether a text could be taken for an indicator. -/
def hasIndicator (cs : List Char) : Bool :=
  "---".toList.isPrefixOf cs || "...".toList.isPrefixOf cs ||
    (match cs with
      | [] => false
      | c :: rest => startsIndicator c rest || hasInnerIndicator c rest)

/-- Whether a character other than a line feed is outside of printable ASCII. -/
def isSpecial (c : Char) : Bool :=
  c ≠ '\n' && !(' ' ≤ c && c ≤ '~')

/-- Whether a character that satisfies `p` comes right before one that satisfies `q`. -/
def hasPair (p q : Char → Bool) : List Char → Bool
  | a :: b :: rest => (p a && q b) || hasPair p q (b :: rest)
  | _ => false

/-- The shape of a text. -/
def of (cs : List Char) : ScalarShape :=
  let isEdge (c : Char) := c = ' ' || isBreak c
  let breakThenSpace := hasPair isBreak (· = ' ') cs
  let spaceThenBreak := hasPair (· = ' ') isBreak cs
  let special := cs.any isSpecial
  { isMultiline := cs.any isBreak
    allowsPlain := !(cs.head?.any isEdge) && !(cs.getLast?.any isEdge) && !breakThenSpace &&
      !spaceThenBreak && !special && !cs.any isBreak && !hasIndicator cs
    allowsSingle := !breakThenSpace && !spaceThenBreak && !special }

end ScalarShape

/-- The styles that scalars are written in. -/
inductive Style where
  /-- Without quotes. -/
  | plain
  /-- In single quotes. -/
  | single
  /-- In double quotes, with escapes. -/
  | double
deriving DecidableEq, Inhabited

/-- The style of a text; a key on one line with its value must not break over lines. -/
def Style.choose (cs : List Char) (isShortKey : Bool) : Style :=
  let shape := ScalarShape.of cs
  let broken := isShortKey && shape.isMultiline
  if Plain.kindOf cs = .text && !broken && shape.allowsPlain then .plain
  else if shape.allowsSingle && !broken then .single
  else .double

example : Style.choose "abc def".toList false = .plain := by decide
example : Style.choose "true".toList false = .single := by decide
example : Style.choose "tab\t".toList false = .double := by decide

end FlinkSteward.Yaml
