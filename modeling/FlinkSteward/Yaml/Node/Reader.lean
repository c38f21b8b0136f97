import FlinkSteward.Yaml.Node
import FlinkSteward.Text.Quoted

/-!
# The document of a text

The tree of nodes that a list of tokens stands for. A text holds one document at most. Names for nodes
are given before they are used, and none is given twice.

- `Read.node`: one node
- `Node.ofTokens`: the document
-/

namespace FlinkSteward.Yaml

open FlinkSteward.Text

/-- A node with a name; until it is complete only its kind is known. -/
structure Anchor where
  /-- Where the node starts. -/
  start : Mark
  /-- Whether the node is a mapping. -/
  isMapping : Bool
  /-- The node, once it is complete. -/
  node : Option Node

/-- What is known in the middle of a list of tokens. -/
structure Reader where
  /-- The tokens to come. -/
  tokens : Readable Token
  /-- What the handles of tags stand for. -/
  handles : List (String × String) := []
  /-- The nodes with names. -/
  anchors : List (String × Anchor) := []

/-- A step that reads nodes. -/
abbrev Read := StateT Reader (Except Fault)

namespace Read

variable {α : Type}

/-- What the handles of tags stand for unless a document says otherwise. -/
def defaultHandles : List (String × String) :=
  [("!", "!"), ("!!", Node.tagBase)]

/-- Refuses the text. -/
def refuse (stage : Stage) (context : Option String) (contextMark : Option Mark)
    (problem : String) (mark : Mark) : Read α :=
  throw ⟨stage, context, contextMark, problem, some mark⟩

/-- The next token, which stays. -/
def peek : Read Token := do
  let tokens := (← get).tokens
  match tokens.items, tokens.fault with
  | t :: _, _ => return t
  | [], some f => throw f
  | [], none => return ⟨.streamEnd, default, default⟩

/-- The next token. -/
def next : Read Token := do
  let t ← peek
  modify fun r => { r with tokens := { r.tokens with items := r.tokens.items.drop 1 } }
  return t

/-- Whether the next token is one of these. -/
def isNext (kinds : List TokenKind) : Read Bool := do
  return kinds.contains (← peek).kind

/-- Refuses the next token. -/
def refuseToken (context : String) (start : Mark) (expected : String) : Read α := do
  let t ← peek
  refuse .nodes (some context) (some start) (expected ++ quoted t.kind.word) t.start

/-! ## Anchors and tags -/

/-- What stands in front of a node. -/
structure Properties where
  /-- The name. -/
  anchor : Option String
  /-- The tag. -/
  tag : Option WrittenTag
  /-- Where the tag is. -/
  tagMark : Mark
  /-- Where the node starts. -/
  start : Mark

/-- The name of the next node, if it has one here. -/
def anchor? : Read (Option String) := do
  match (← peek).kind with
  | .anchor name => do
    let _ ← next
    return some name
  | _ => return none

/-- The tag of the next node, if it has one here. -/
def tag? : Read (Option WrittenTag) := do
  match (← peek).kind with
  | .tag t => do
    let _ ← next
    return some t
  | _ => return none

/-- What stands in front of a node: a name and a tag, in either order. -/
def properties : Read Properties := do
  let start := (← peek).start
  match ← anchor? with
  | some name => do
    let tagMark := (← peek).start
    return ⟨some name, ← tag?, tagMark, start⟩
  | none =>
    match ← tag? with
    | some t => return ⟨← anchor?, some t, start, start⟩
    | none => return ⟨none, none, start, start⟩

/-- The tag in front of a node in full; `!` alone is as good as none. -/
def fullTag (p : Properties) : Read (Option String) := do
  match p.tag with
  | none => return none
  | some ⟨none, suffix⟩ => return some suffix
  | some ⟨some handle, suffix⟩ =>
    match (← get).handles.lookup handle with
    | some address => return some (address ++ suffix)
    | none =>
      refuse .nodes (some "while parsing a node") (some p.start)
        ("found undefined tag handle " ++ quoted handle) p.tagMark

/-- A tag, unless it is as good as none. -/
def explicit (tag : Option String) : Option String :=
  tag.filter (· ≠ "!")

/-- Refuses a name that another node has. -/
def checkAnchor (p : Properties) : Read Unit := do
  match p.anchor with
  | none => pure ()
  | some name =>
    match (← get).anchors.lookup name with
    | none => pure ()
    | some a =>
      refuse .references (some ("found duplicate anchor " ++ quoted name ++ "; first occurrence"))
        (some a.start) "second occurrence" p.start

/-- Keeps the name of a node. -/
def keepAnchor (p : Properties) (isMapping : Bool) (node : Option Node) : Read Unit :=
  match p.anchor with
  | none => pure ()
  | some name =>
    modify fun r => { r with anchors := (name, ⟨p.start, isMapping, node⟩) :: r.anchors }

/-- A scalar with a name. -/
def scalarNode (p : Properties) (tag text : String) : Read Node := do
  checkAnchor p
  let node := Node.scalar tag text p.start
  keepAnchor p false (some node)
  return node

/-- A sequence with a name, which its items may use. -/
def sequenceNode (p : Properties) (tag : Option String) (items : Read (List Node)) : Read Node := do
  checkAnchor p
  keepAnchor p false none
  let node := Node.sequence ((explicit tag).getD Node.sequenceTag) (← items) p.start
  keepAnchor p false (some node)
  return node

/-- A mapping with a name, which its entries may use. -/
def mappingNode (p : Properties) (tag : Option String) (entries : Read (List (Node × Node))) :
    Read Node := do
  checkAnchor p
  keepAnchor p true none
  let node := Node.mapping ((explicit tag).getD Node.mappingTag) (← entries) p.start
  keepAnchor p true (some node)
  return node

/-- The node of a name. -/
def aliasNode (name : String) (mark : Mark) : Read Node := do
  match (← get).anchors.lookup name with
  | none => refuse .references none none ("found undefined alias " ++ quoted name) mark
  | some a => return a.node.getD (.cycle a.isMapping a.start)

/-! ## Nodes -/

/-- Where a node stands. -/
inductive Place where
  /-- On lines of its own. -/
  | block
  /-- On lines of its own, where the items of a sequence need not be indented. -/
  | entry
  /-- In brackets or braces. -/
  | flow
deriving DecidableEq, Inhabited

/-- What a place is called in messages. -/
def Place.word : Place → String
  | block | entry => "block"
  | flow => "flow"

mutual

/-- A node. -/
def node : Nat → Place → Read Node
  | 0, _ => return default
  | fuel + 1, place => do
    let t ← peek
    match t.kind with
    | .reference name => do
      let _ ← next
      aliasNode name t.start
    | _ => do
      let p ← properties
      let tag ← fullTag p
      let t ← peek
      match t.kind, place with
      | .blockEntry, .entry => sequenceNode p tag (entryItems fuel)
      | .scalar text isPlain, _ => do
        let _ ← next
        let isPlain := (isPlain && tag.isNone) || tag = some "!"
        scalarNode p ((explicit tag).getD (Node.resolved text isPlain)) text
      | .flowSequenceStart, _ => sequenceNode p tag do
        let _ ← next
        flowItems fuel t.start true
      | .flowMappingStart, _ => mappingNode p tag do
        let _ ← next
        flowEntries fuel t.start true
      | .blockSequenceStart, .block | .blockSequenceStart, .entry => sequenceNode p tag do
        let _ ← next
        blockItems fuel t.start
      | .blockMappingStart, .block | .blockMappingStart, .entry => mappingNode p tag do
        let _ ← next
        blockEntries fuel t.start
      | _, _ =>
        if p.anchor.isSome ∨ p.tag.isSome then
          scalarNode p ((explicit tag).getD (Node.resolved "" true)) ""
        else
          refuseToken ("while parsing a " ++ place.word ++ " node") p.start
            "expected the node content, but found "

/-- A node, or an empty one at `stop` if one of these tokens comes next. -/
def nodeUnless : Nat → List TokenKind → Place → Mark → Read Node
  | 0, _, _, _ => return default
  | fuel + 1, kinds, place, stop => do
    if ← isNext kinds then return Node.empty stop
    else node fuel place

/-- A value behind its mark, or an empty one if the mark is missing. -/
def valueUnless : Nat → List TokenKind → Place → Read Node
  | 0, _, _ => return default
  | fuel + 1, kinds, place => do
    let t ← peek
    if t.kind = .value then
      let _ ← next
      nodeUnless fuel kinds place t.stop
    else return Node.empty t.start

/-- The items of a sequence on lines of its own. -/
def blockItems : Nat → Mark → Read (List Node)
  | 0, _ => return []
  | fuel + 1, start => do
    let t ← peek
    match t.kind with
    | .blockEntry => do
      let _ ← next
      let item ← nodeUnless fuel [.blockEntry, .blockEnd] .block t.stop
      return item :: (← blockItems fuel start)
    | .blockEnd => do
      let _ ← next
      return []
    | _ =>
      refuseToken "while parsing a block collection" start "expected <block end>, but found "

/-- The items of a sequence that is not indented further than the mapping that it is in. -/
def entryItems : Nat → Read (List Node)
  | 0 => return []
  | fuel + 1 => do
    let t ← peek
    if t.kind = .blockEntry then
      let _ ← next
      let item ← nodeUnless fuel [.blockEntry, .key, .value, .blockEnd] .block t.stop
      return item :: (← entryItems fuel)
    else return []

/-- The entries of a mapping on lines of its own. -/
def blockEntries : Nat → Mark → Read (List (Node × Node))
  | 0, _ => return []
  | fuel + 1, start => do
    let t ← peek
    match t.kind with
    | .key => do
      let _ ← next
      let key ← nodeUnless fuel [.key, .value, .blockEnd] .entry t.stop
      let value ← valueUnless fuel [.key, .value, .blockEnd] .entry
      return (key, value) :: (← blockEntries fuel start)
    | .blockEnd => do
      let _ ← next
      return []
    | _ => refuseToken "while parsing a block mapping" start "expected <block end>, but found "

/-- The items of a sequence in brackets, in which a key with its value is a mapping of its own. -/
def flowItems : Nat → Mark → Bool → Read (List Node)
  | 0, _, _ => return []
  | fuel + 1, start, isFirst => do
    if ← isNext [.flowSequenceEnd] then
      let _ ← next
      return []
    if !isFirst then
      if ← isNext [.flowEntry] then
        let _ ← next
      else refuseToken "while parsing a flow sequence" start "expected ',' or ']', but got "
    let t ← peek
    match t.kind with
    | .flowSequenceEnd => do
      let _ ← next
      return []
    | .key => do
      let _ ← next
      let key ← nodeUnless fuel [.value, .flowEntry, .flowSequenceEnd] .flow t.stop
      let value ← valueUnless fuel [.flowEntry, .flowSequenceEnd] .flow
      return Node.mapping Node.mappingTag [(key, value)] t.start :: (← flowItems fuel start false)
    | _ => do
      let item ← node fuel .flow
      return item :: (← flowItems fuel start false)

/-- The entries of a mapping in braces, in which a key may have no value. -/
def flowEntries : Nat → Mark → Bool → Read (List (Node × Node))
  | 0, _, _ => return []
  | fuel + 1, start, isFirst => do
    if ← isNext [.flowMappingEnd] then
      let _ ← next
      return []
    if !isFirst then
      if ← isNext [.flowEntry] then
        let _ ← next
      else refuseToken "while parsing a flow mapping" start "expected ',' or '\x7d', but got "
    let t ← peek
    match t.kind with
    | .flowMappingEnd => do
      let _ ← next
      return []
    | .key => do
      let _ ← next
      let key ← nodeUnless fuel [.value, .flowEntry, .flowMappingEnd] .flow t.stop
      let value ← valueUnless fuel [.flowEntry, .flowMappingEnd] .flow
      return (key, value) :: (← flowEntries fuel start false)
    | _ => do
      let key ← node fuel .flow
      let value := Node.empty (← peek).start
      return (key, value) :: (← flowEntries fuel start false)

end

/-! ## Documents -/

/-- Takes in a directive. -/
def takeDirective (version : Bool) (d : Directive) (start : Mark) : Read Bool := do
  match d with
  | .version major _ => do
    if version then refuse .nodes none none "found duplicate YAML directive" start
    if major ≠ 1 then
      refuse .nodes none none "found incompatible YAML document (version 1.* is required)" start
    return true
  | .handle name address => do
    if ((← get).handles.lookup name).isSome then
      refuse .nodes none none ("duplicate tag handle " ++ quoted name) start
    modify fun r => { r with handles := (name, address) :: r.handles }
    return version
  | .other => return version

/-- Takes in directives; `version` says whether the version was given. -/
def takeDirectives : Nat → Bool → Read Unit
  | 0, _ => pure ()
  | fuel + 1, version => do
    let t ← peek
    match t.kind with
    | .directive d => do
      let _ ← next
      takeDirectives fuel (← takeDirective version d t.start)
    | _ => pure ()

/-- The start of a document, with the directives in front of it; gives where that is. -/
def documentStart : Read Mark := do
  let start := (← peek).start
  modify fun r => { r with handles := [] }
  takeDirectives ((← get).tokens.items.length + 1) false
  let t ← peek
  if t.kind ≠ .documentStart then
    refuse .nodes none none
      ("expected '<document start>', but found " ++ quoted t.kind.word) t.start
  let _ ← next
  modify fun r => { r with handles := r.handles ++ defaultHandles }
  return start

/-- Passes over marks of the end of a document. -/
def skipDocumentEnds : Nat → Read Unit
  | 0 => pure ()
  | fuel + 1 => do
    if ← isNext [.documentEnd] then
      let _ ← next
      skipDocumentEnds fuel

/-- The content of a document; one that is announced may be empty. -/
def content (fuel : Nat) : Read Node := do
  let t ← peek
  match t.kind with
  | .documentStart | .directive _ => do
    let _ ← documentStart
    let t ← peek
    match t.kind with
    | .documentStart | .directive _ | .documentEnd | .streamEnd => return Node.empty t.start
    | _ => node fuel .block
  | _ => do
    modify fun r => { r with handles := defaultHandles }
    node fuel .block

/-- The document of a text, if there is one. -/
def document (fuel : Nat) : Read (Option Node) := do
  if ← isNext [.streamEnd] then return none
  let root ← content fuel
  skipDocumentEnds fuel
  if ← isNext [.streamEnd] then return some root
  let start ← documentStart
  refuse .references (some "expected a single document in the stream") (some root.start)
    "but found another document" start

end Read

/-- The document that tokens stand for, if there is one. -/
def Node.ofTokens (tokens : Readable Token) : Except Fault (Option Node) :=
  ((Read.document (4 * tokens.items.length + 8)).run { tokens }).map Prod.fst

end FlinkSteward.Yaml
