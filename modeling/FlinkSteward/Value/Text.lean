import FlinkSteward.Text.Quoted
import FlinkSteward.Value.Basic

/-!
# Values as text

The written form of a value in messages and in configuration entries. Texts stand for themselves;
inside lists and maps they are quoted. Integers of any length are written out.

- `Value.literal`: the form in which texts are quoted
- `Value.shown`: the form in which a text is itself
-/

namespace FlinkSteward.Value

open FlinkSteward.Text

mutual

/-- The written form of a value, with texts quoted. -/
def literal : Value → List Char
  | null => ['N', 'o', 'n', 'e']
  | bool b => (if b then "True" else "False").toList
  | int i => (toString i).toList
  | real x => x.text.toList
  | text s => (quoted s).toList
  | list items => '[' :: literalItems items ++ [']']
  | map fields => '{' :: literalFields fields ++ ['}']

/-- Items with a comma and a blank between two. -/
def literalItems : List Value → List Char
  | [] => []
  | v :: rest => literal v ++ (if rest.isEmpty then [] else [',', ' ']) ++ literalItems rest

/-- Fields with a comma and a blank between two. -/
def literalFields : List (String × Value) → List Char
  | [] => []
  | (k, v) :: rest =>
    (quoted k).toList ++ ':' :: ' ' :: literal v ++
      (if rest.isEmpty then [] else [',', ' ']) ++ literalFields rest

end

/-- The written form of a value; a text is its own. -/
def shown : Value → String
  | text s => s
  | v => String.ofList (literal v)

/-- The written form of a value as a configuration entry: truth values are in lower case. -/
def asEntry : Value → String
  | bool b => if b then "true" else "false"
  | v => v.shown

example : shown (list [text "a", null, map [("k", bool true)]]) = "['a', None, \x7b'k': True\x7d]" := by
  decide +kernel

end FlinkSteward.Value
