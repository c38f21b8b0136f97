import FlinkSteward.Yaml.Data.OfNode
import FlinkSteward.Yaml.Node.Reader
import FlinkSteward.Yaml.Token.Lexer

/-!
# Reading YAML

From a text to its data, by way of its tokens and its nodes. Every end of a line counts as a line feed.

- `Yaml.root`: the node that a text stands for
- `Yaml.read`: the data of a text
-/

namespace FlinkSteward.Yaml

open FlinkSteward.Text

/-- Characters with a line feed for every end of a line. -/
def withLineFeeds : List Char → List Char
  | '\r' :: '\n' :: rest => '\n' :: withLineFeeds rest
  | '\r' :: rest => '\n' :: withLineFeeds rest
  | c :: rest => c :: withLineFeeds rest
  | [] => []

/-- The fault of a character that may not be in a text. -/
def forbidden (c : Char) (position : Nat) : Fault where
  stage := .characters
  context := none
  contextMark := none
  problem := "unacceptable character #x" ++ String.ofList (padded 16 4 c.toNat) ++
    ": special characters are not allowed"
  problemMark := some ⟨position, 0, 0⟩

/-- The first fault of the characters themselves. -/
def characterFault? (cs : List Char) : Option Fault :=
  (cs.findIdx? fun c => !isPermitted c).bind fun i => cs[i]?.map fun c => forbidden c i

/-- The document of a text, if there is one. -/
def documentOf (cs : List Char) : Except Fault (Option Node) :=
  match characterFault? cs with
  | some f => .error f
  | none => Node.ofTokens (Token.ofText cs)

/-- The root of the text `content`, which is called `name` in messages; an empty text has none. -/
def root (name content : String) : Outcome (Option Node) := do
  match ← Outcome.ofExcept (.yaml name) (documentOf (withLineFeeds content.toList)) with
  | none => return none
  | some n => return some (← n.sound name)

/-- The data of a text with this root. -/
def Data.ofRoot (root : Option Node) : Data :=
  root.elim .null ofSound

/-- The data of the text `content`, which is called `name` in messages. -/
def read (name content : String) : Outcome Data := do
  return .ofRoot (← root name content)

end FlinkSteward.Yaml
