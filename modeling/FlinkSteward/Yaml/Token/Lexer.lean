import FlinkSteward.Yaml.Token.Scalar

/-!
# The tokens of a text

Reads a text token by token. A mapping has no mark at its start: only the `:` behind a key shows that
what came before was a key, and the tokens for it are put in at the place where it began. So wherever a
key could begin, the place is kept until the `:` comes or it is too late for it.

- `Lexer`: what is known in the middle of a text
- `Lexer.step`: reads one more token
- `Token.ofText`: all tokens up to the end or a fault
-/

namespace FlinkSteward.Yaml

/-- A place where a key could begin. -/
structure KeyPlace where
  /-- How many tokens come before it. -/
  number : Nat
  /-- Whether nothing but a key can be here. -/
  isRequired : Bool
  /-- Where it is. -/
  mark : Mark
deriving DecidableEq, Inhabited

/-- What is known in the middle of a text. -/
structure Lexer where
  /-- What is still to be read. -/
  cursor : Cursor
  /-- The tokens so far, latest first. -/
  tokens : List Token := []
  /-- How many brackets and braces are open. -/
  depth : Int := 0
  /-- The column of the innermost collection that has its own lines, -1 when there is none. -/
  indent : Int := -1
  /-- The columns of those around it. -/
  outer : List Int := []
  /-- Whether a key may begin here. -/
  allowsKey : Bool := true
  /-- Where keys could begin, by the number of brackets and braces around them. -/
  places : List (Int × KeyPlace) := []
  /-- Whether the end of the text was read. -/
  isDone : Bool := false

/-- A step that reads tokens. -/
abbrev Lex := StateT Lexer (Except Fault)

namespace Lex

variable {α : Type}

/-- A step that reads characters. -/
def scan (a : Scan α) : Lex α :=
  fun l => (a.run l.cursor).map fun (x, c) => (x, { l with cursor := c })

/-- Refuses the text here. -/
def refuse (problem : String) : Lex α :=
  scan (Scan.refuse none none problem)

/-- Whether brackets or braces are open. -/
def inFlow : Lex Bool := do
  return (← get).depth ≠ 0

/-- Puts a token behind the others. -/
def push (kind : TokenKind) (start stop : Mark) : Lex Unit :=
  modify fun l => { l with tokens := ⟨kind, start, stop⟩ :: l.tokens }

/-- Puts a token at the place that so many tokens come before. -/
def insert (number : Nat) (kind : TokenKind) (mark : Mark) : Lex Unit :=
  modify fun l =>
    { l with tokens := l.tokens.insertIdx (l.tokens.length - number) ⟨kind, mark, mark⟩ }

/-- Reads `n` characters that are a token. -/
def mark (kind : TokenKind) (n : Nat) : Lex Unit := do
  let start ← scan Scan.here
  scan (Scan.skip n)
  push kind start (← scan Scan.here)

/-- Reads a token. -/
def piece (a : Scan TokenKind) : Lex Unit := do
  let start ← scan Scan.here
  let kind ← scan a
  push kind start (← scan Scan.here)

/-- Sets whether a key may begin here. -/
def allowKey (b : Bool) : Lex Unit :=
  modify fun l => { l with allowsKey := b }

/-! ## Places of keys -/

/-- How far behind its start the `:` of a key may be. -/
def keyLimit : Nat := 1024

/-- Whether it is too late for the `:` of a key. -/
def isStale (now : Mark) (p : KeyPlace) : Bool :=
  p.mark.line ≠ now.line || now.index > keyLimit + p.mark.index

/-- Refuses the text if only a key could have been at a place. -/
def giveUp (p : KeyPlace) : Lex Unit := do
  if p.isRequired then
    scan (Scan.refuse (some "while scanning a simple key") (some p.mark) "could not find expected ':'")

/-- Gives up the places that it is too late for. -/
def dropStale : Lex Unit := do
  let now ← scan Scan.here
  (← get).places.forM fun p => do
    if isStale now p.2 then giveUp p.2
  modify fun l => { l with places := l.places.filter fun p => !isStale now p.2 }

/-- The place of a key with the brackets and braces that are open. -/
def place? : Lex (Option KeyPlace) := do
  let l ← get
  return l.places.lookup l.depth

/-- Forgets the place of a key with the brackets and braces that are open. -/
def forgetPlace : Lex Unit :=
  modify fun l => { l with places := l.places.filter fun p => p.1 ≠ l.depth }

/-- Gives up the place of a key with the brackets and braces that are open. -/
def dropPlace : Lex Unit := do
  match ← place? with
  | none => pure ()
  | some p => do
    giveUp p
    forgetPlace

/-- Keeps the place as one where a key could begin, if one may. -/
def savePlace : Lex Unit := do
  let l ← get
  if l.allowsKey then
    dropPlace
    let here ← scan Scan.here
    let p : KeyPlace := {
      number := l.tokens.length
      isRequired := l.depth = 0 && l.indent = here.column
      mark := here }
    modify fun l => { l with places := l.places ++ [(l.depth, p)] }

/-! ## Collections with their own lines -/

/-- Ends the collections that are indented further than a column. -/
def unwindFrom (column : Int) : List Int → Lex Unit
  | [] => pure ()
  | i :: outer => do
    if (← get).indent > column then
      let here ← scan Scan.here
      modify fun l => { l with indent := i, outer }
      push .blockEnd here here
      unwindFrom column outer

/-- Ends the collections that are indented further than a column, outside brackets and braces. -/
def unwind (column : Int) : Lex Unit := do
  if !(← inFlow) then unwindFrom column (← get).outer

/-- Starts a collection at a column, if that is further than the innermost one; gives whether it is. -/
def startCollection (column : Nat) : Lex Bool := do
  let l ← get
  if l.indent < column then
    set { l with indent := column, outer := l.indent :: l.outer }
    return true
  else return false

/-- Starts a collection here, outside brackets and braces, where one may start. -/
def startHere (kind : TokenKind) (problem : String) : Lex Unit := do
  if !(← inFlow) then
    if !(← get).allowsKey then refuse problem
    let here ← scan Scan.here
    if ← startCollection here.column then push kind here here

/-! ## Tokens -/

/-- The end of the text. -/
def streamEnd : Lex Unit := do
  unwind (-1)
  dropPlace
  let here ← scan Scan.here
  push .streamEnd here here
  modify fun l => { l with allowsKey := false, places := [], isDone := true }

/-- What stands on a line of its own and belongs to no document. -/
def betweenDocuments (a : Lex Unit) : Lex Unit := do
  unwind (-1)
  dropPlace
  allowKey false
  a

/-- A directive. -/
def directive : Lex Unit :=
  betweenDocuments do
    let start ← scan Scan.here
    let (d, stop) ← scan Scan.directive
    push (.directive d) start stop

/-- An opening bracket or brace. -/
def flowStart (kind : TokenKind) : Lex Unit := do
  savePlace
  modify fun l => { l with depth := l.depth + 1, allowsKey := true }
  mark kind 1

/-- A closing bracket or brace. -/
def flowEnd (kind : TokenKind) : Lex Unit := do
  dropPlace
  modify fun l => { l with depth := l.depth - 1, allowsKey := false }
  mark kind 1

/-- A comma in brackets or braces. -/
def flowEntry : Lex Unit := do
  allowKey true
  dropPlace
  mark .flowEntry 1

/-- The mark of an item on lines of its own. -/
def blockEntry : Lex Unit := do
  startHere .blockSequenceStart "sequence entries are not allowed here"
  allowKey true
  dropPlace
  mark .blockEntry 1

/-- The mark of a key that may have lines of its own. -/
def key : Lex Unit := do
  startHere .blockMappingStart "mapping keys are not allowed here"
  allowKey !(← inFlow)
  dropPlace
  mark .key 1

/-- The `:` behind a key: what came before is a key if it could have been one. -/
def value : Lex Unit := do
  match ← place? with
  | some p => do
    forgetPlace
    insert p.number .key p.mark
    if !(← inFlow) then
      if ← startCollection p.mark.column then insert p.number .blockMappingStart p.mark
    allowKey false
  | none => do
    startHere .blockMappingStart "mapping values are not allowed here"
    allowKey !(← inFlow)
    dropPlace
  mark .value 1

/-- What may be a key by itself, or in front of one. -/
def keyPiece (a : Scan TokenKind) : Lex Unit := do
  savePlace
  allowKey false
  piece a

/-- A block. -/
def block (isFolded : Bool) : Lex Unit := do
  allowKey true
  dropPlace
  let indent := (← get).indent
  piece do return .scalar (String.ofList (← Scan.block isFolded indent)) false

/-- A scalar in quotes. -/
def quotedScalar (isDouble : Bool) : Lex Unit :=
  keyPiece do return .scalar (String.ofList (← Scan.quotedScalar isDouble)) false

/-- A scalar without quotes. A key may begin behind it if it ends with a line break. -/
def plain : Lex Unit := do
  savePlace
  let l ← get
  let start ← scan Scan.here
  let (cs, broken, stop) ← scan (Scan.plain (l.depth ≠ 0) (l.indent + 1))
  allowKey broken
  push (.scalar (String.ofList cs) true) start stop

/-- Passes over blanks, comments and line breaks. A key may begin on a new line. -/
def skipBlanks : Nat → Lex Unit
  | 0 => pure ()
  | fuel + 1 => do
    scan Scan.skipSpaces
    scan Scan.skipComment
    if !(← scan Scan.lineBreak).isEmpty then
      if !(← inFlow) then allowKey true
      skipBlanks fuel

/-- Passes over the mark at the start of a text that says how its characters are stored. -/
def skipByteOrderMark : Lex Unit := do
  if (← scan Scan.here).index = 0 ∧ (← scan (Scan.look 0)) = byteOrderMark then
    scan (Scan.skip 1)

/-- Whether a character can start a scalar without quotes. -/
def startsPlain (inFlow : Bool) (c next : Char) : Bool :=
  (!isSeparator c && !"-?:,[]\x7b\x7d#&*!|>'\"%@\x60".toList.contains c) ||
    (!isSeparator next && (c = '-' || (!inFlow && (c = '?' || c = ':'))))

/-- Reads the next token, with those that come before it because of where it stands. -/
def token : Lex Unit := do
  skipByteOrderMark
  skipBlanks ((← scan Scan.rest).length + 1)
  dropStale
  let here ← scan Scan.here
  unwind here.column
  let c ← scan (Scan.look 0)
  let next ← scan (Scan.look 1)
  let flow ← inFlow
  let atMark := here.column = 0 && (← scan Scan.isDocumentMark)
  match c with
  | '\x00' => streamEnd
  | '[' => flowStart .flowSequenceStart
  | '\x7b' => flowStart .flowMappingStart
  | ']' => flowEnd .flowSequenceEnd
  | '\x7d' => flowEnd .flowMappingEnd
  | ',' => flowEntry
  | '*' => keyPiece do return .reference (← Scan.anchorName)
  | '&' => keyPiece do return .anchor (← Scan.anchorName)
  | '!' => keyPiece do return .tag (← Scan.tag)
  | '\'' => quotedScalar false
  | '"' => quotedScalar true
  | _ =>
    if c = '%' ∧ here.column = 0 then directive
    else if c = '-' ∧ atMark then betweenDocuments (mark .documentStart 3)
    else if c = '.' ∧ atMark then betweenDocuments (mark .documentEnd 3)
    else if c = '-' ∧ isSeparator next then blockEntry
    else if c = '?' ∧ (flow ∨ isSeparator next) then key
    else if c = ':' ∧ (flow ∨ isSeparator next) then value
    else if c = '|' ∧ !flow then block false
    else if c = '>' ∧ !flow then block true
    else if startsPlain flow c next then plain
    else scan (Scan.refuse (some "while scanning for the next token") none
      ("found character " ++ Scan.shown c ++ " that cannot start any token"))

end Lex

namespace Lexer

/-- The tokens that are certain: no token for a key can come before them or among them. -/
def certain (l : Lexer) : List Token :=
  let numbers := l.places.map fun p => p.2.number
  l.tokens.reverse.take (numbers.foldl min l.tokens.length)

/-- Reads one more token, and gives up the places of keys that it is too late for behind it. -/
def step : Lex Unit := do
  Lex.token
  if !(← get).isDone then Lex.dropStale

/-- Reads tokens to the end, or to a fault, before which only the certain ones count. -/
def run : Nat → Lexer → Readable Token
  | 0, l => ⟨l.tokens.reverse, none⟩
  | fuel + 1, l =>
    if l.isDone then ⟨l.tokens.reverse, none⟩
    else match step.run l with
      | .ok (_, l) => run fuel l
      | .error f => ⟨l.certain, some f⟩

end Lexer

/-- The tokens of a text. -/
def Token.ofText (cs : List Char) : Readable Token :=
  Lexer.run (cs.length + 2) { cursor := { rest := cs } }

end FlinkSteward.Yaml
