import FlinkSteward.Text.Digit

/-!
# Faults in YAML texts

Where and why a YAML text is refused, and the message: what was going on and since where, what is
wrong, and where. Places are in a named text, by line and column from 1.

- `Yaml.Fault.message`: the message for a fault in the text of that name
-/

namespace FlinkSteward.Yaml

open FlinkSteward.Text

/-- A place in a text. -/
structure Mark where
  /-- How many characters come before. -/
  index : Nat
  /-- How many lines come before. -/
  line : Nat
  /-- How many characters of the line come before. -/
  column : Nat
deriving DecidableEq, Inhabited

/-- What was being read when a text was refused. -/
inductive Stage where
  /-- The characters themselves. -/
  | characters
  /-- The tokens. -/
  | tokens
  /-- The order of the tokens. -/
  | nodes
  /-- The anchors and aliases. -/
  | references
  /-- The data of the nodes. -/
  | data
  /-- The number of an escaped character. -/
  | escape
  /-- The number of an escaped character, which fills more than 31 bits. -/
  | wideEscape
deriving DecidableEq, Inhabited

/-- A refusal: what was going on and since where, what is wrong and where. -/
structure Fault where
  /-- What was being read. -/
  stage : Stage
  /-- What was going on. -/
  context : Option String
  /-- Where that began. -/
  contextMark : Option Mark
  /-- What is wrong. -/
  problem : String
  /-- Where it is wrong. -/
  problemMark : Option Mark
deriving DecidableEq, Inhabited

/-- A place in the text of this name, on a line of its own. -/
def Mark.message (name : String) (m : Mark) : String :=
  "  in \"" ++ name ++ "\", line " ++ toString (m.line + 1) ++ ", column " ++
    toString (m.column + 1)

/-- The lines of a message; a context at the very place of the problem has no line for its place. -/
def Fault.lines (name : String) (f : Fault) : List String :=
  let samePlace := match f.contextMark, f.problemMark with
    | some c, some p => c.line = p.line && c.column = p.column
    | _, _ => false
  f.context.toList ++
    (if samePlace then [] else (f.contextMark.map (Mark.message name)).toList) ++
    [f.problem] ++ (f.problemMark.map (Mark.message name)).toList

/-- The message of a fault in the text of this name. -/
def Fault.message (name : String) (f : Fault) : String :=
  match f.stage with
  | .characters =>
    f.problem ++ "\n  in \"" ++ name ++ "\", position " ++
      toString ((f.problemMark.map Mark.index).getD 0)
  | .escape | .wideEscape => f.problem
  | _ => String.intercalate "\n" (f.lines name)

end FlinkSteward.Yaml
