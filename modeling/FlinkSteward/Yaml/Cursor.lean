import FlinkSteward.Text.Quoted
import FlinkSteward.Yaml.Character
import FlinkSteward.Yaml.Fault

/-!
# Reading a YAML text

The characters that are still to be read, and the place in the text where they start. Steps look at
characters, pass over them, and refuse the text with the place where they stand.

- `Cursor.advance`: the cursor after a number of characters
- `Scan`: steps that read, with `Scan.look`, `Scan.take` and `Scan.refuse`
-/

namespace FlinkSteward.Yaml

open FlinkSteward.Text

/-- The place after a character. -/
def Mark.after (m : Mark) (c : Char) : Mark :=
  if isBreak c then ⟨m.index + 1, m.line + 1, 0⟩
  else if c = byteOrderMark then { m with index := m.index + 1 }
  else { m with index := m.index + 1, column := m.column + 1 }

/-- What is still to be read. -/
structure Cursor where
  /-- The characters. -/
  rest : List Char
  /-- The place of the first of them. -/
  mark : Mark := ⟨0, 0, 0⟩
deriving DecidableEq, Inhabited

/-- The cursor after `n` characters. -/
def Cursor.advance : Nat → Cursor → Cursor
  | 0, c => c
  | _, ⟨[], m⟩ => ⟨[], m⟩
  | n + 1, ⟨c :: rest, m⟩ => Cursor.advance n ⟨rest, m.after c⟩

/-- A step that reads characters. -/
abbrev Scan := StateT Cursor (Except Fault)

namespace Scan

variable {α : Type}

/-- The place of the next character. -/
def here : Scan Mark := do
  return (← get).mark

/-- The characters to come. -/
def rest : Scan (List Char) := do
  return (← get).rest

/-- The column of the next character. -/
def column : Scan Nat := do
  return (← here).column

/-- The character after `n` others, null when there is none. -/
def look (n : Nat) : Scan Char := do
  return (← rest).getD n '\x00'

/-- Passes over characters. -/
def skip (n : Nat) : Scan Unit :=
  modify (Cursor.advance n)

/-- Passes over characters and gives them. -/
def take (n : Nat) : Scan (List Char) := do
  let cs := (← rest).take n
  skip n
  return cs

/-- The characters up to the first that does not satisfy `p`. -/
def takeWhile (p : Char → Bool) : Scan (List Char) := do
  take ((← rest).takeWhile p).length

/-- Passes over blanks. -/
def skipSpaces : Scan Unit := do
  let _ ← takeWhile (· = ' ')

/-- Passes over a comment, if there is one. -/
def skipComment : Scan Unit := do
  if (← look 0) = '#' then
    let _ ← takeWhile fun c => !isBreak c

/-- Passes over the end of a line, and gives it in the form in which it counts. -/
def lineBreak : Scan (List Char) := do
  let c ← look 0
  if c = '\n' ∨ c.toNat = 0x85 then
    skip 1
    return ['\n']
  else if isBreak c then
    skip 1
    return [c]
  else return []

/-- Whether a mark of a document stands here, as it may at the start of a line. -/
def isDocumentMark : Scan Bool := do
  let front := (← rest).take 3
  return (front = ['-', '-', '-'] || front = ['.', '.', '.']) && isSeparator (← look 3)

/-- Refuses the text here. -/
def refuse (context : Option String) (start : Option Mark) (problem : String) : Scan α := do
  throw ⟨.tokens, context, start, problem, some (← here)⟩

/-- A character in a message. -/
def shown (c : Char) : String :=
  quoted (String.singleton c)

/-- Refuses the character `c` where another one was expected. -/
def refuseChar (context : String) (start : Mark) (expected : String) (c : Char) : Scan α :=
  refuse (some context) (some start) (expected ++ ", but found " ++ shown c)

end Scan

end FlinkSteward.Yaml
