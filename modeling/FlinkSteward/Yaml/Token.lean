import FlinkSteward.Yaml.Fault

/-!
# Tokens of YAML

The marks of the structure of a YAML text, and the pieces between them.

- `Token`: a token and its place
- `TokenKind.word`: what a token is called in messages
- `Readable`: the items up to a fault
-/

namespace FlinkSteward.Yaml

/-- A line that says how a document is to be read. -/
inductive Directive where
  /-- The version of the language. -/
  | version (major minor : Nat)
  /-- What a handle of tags stands for. -/
  | handle (name replacement : String)
  /-- One that says nothing known. -/
  | other
deriving DecidableEq, Inhabited

/-- A tag as it is written. -/
structure WrittenTag where
  /-- The handle, unless the tag is given in full. -/
  handle : Option String
  /-- What comes behind the handle. -/
  suffix : String
deriving DecidableEq, Inhabited

/-- What a token is. -/
inductive TokenKind where
  /-- A directive. -/
  | directive (d : Directive)
  /-- The start of a document. -/
  | documentStart
  /-- The end of a document. -/
  | documentEnd
  /-- The end of the text. -/
  | streamEnd
  /-- The start of a sequence with an item a line. -/
  | blockSequenceStart
  /-- The start of a mapping with an entry a line. -/
  | blockMappingStart
  /-- The end of either. -/
  | blockEnd
  /-- The start of a sequence in brackets. -/
  | flowSequenceStart
  /-- The start of a mapping in braces. -/
  | flowMappingStart
  /-- The end of a sequence in brackets. -/
  | flowSequenceEnd
  /-- The end of a mapping in braces. -/
  | flowMappingEnd
  /-- What comes next is a key. -/
  | key
  /-- What comes next is a value. -/
  | value
  /-- What comes next is an item. -/
  | blockEntry
  /-- What separates items in brackets or braces. -/
  | flowEntry
  /-- A node that was given elsewhere. -/
  | reference (name : String)
  /-- A name for the next node. -/
  | anchor (name : String)
  /-- The tag of the next node. -/
  | tag (t : WrittenTag)
  /-- A scalar, without quotes or with them. -/
  | scalar (text : String) (isPlain : Bool)
deriving DecidableEq, Inhabited

/-- A token and where it starts and stops. -/
structure Token where
  /-- What it is. -/
  kind : TokenKind
  /-- Where it starts. -/
  start : Mark
  /-- Where it stops. -/
  stop : Mark
deriving DecidableEq, Inhabited

/-- What a token is called in messages. -/
def TokenKind.word : TokenKind → String
  | directive _ => "<directive>"
  | documentStart => "<document start>"
  | documentEnd => "<document end>"
  | streamEnd => "<stream end>"
  | blockSequenceStart => "<block sequence start>"
  | blockMappingStart => "<block mapping start>"
  | blockEnd => "<block end>"
  | flowSequenceStart => "["
  | flowMappingStart => "\x7b"
  | flowSequenceEnd => "]"
  | flowMappingEnd => "\x7d"
  | key => "?"
  | value => ":"
  | blockEntry => "-"
  | flowEntry => ","
  | reference _ => "<alias>"
  | anchor _ => "<anchor>"
  | tag _ => "<tag>"
  | scalar _ _ => "<scalar>"

/-- The items of a text up to its end, or up to a fault. -/
structure Readable (α : Type) where
  /-- The items. -/
  items : List α
  /-- What comes behind them, if it is a fault. -/
  fault : Option Fault
deriving Inhabited

end FlinkSteward.Yaml
