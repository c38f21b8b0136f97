import FlinkSteward.Json.Write
import FlinkSteward.Yaml.Label
import FlinkSteward.Yaml.Style

/-!
# Writing YAML

A value as a YAML document in ASCII. Maps and lists are written with an entry on each line, maps
sorted by key; empty ones are `{}` and `[]`. Lines are folded where they have passed column 80. A list
or a map that stands in several places is written at the first of them, under an anchor.

The writer moves a `Pen` over the page. The pen knows its column, whether a blank or a line break
came last, and whether nothing but indentation and the marks of entries is on its line.

- `Yaml.write`: the document of a value in memory
-/

namespace FlinkSteward.Yaml

open FlinkSteward.Text

/-- Where the pen is, and what it has written. -/
structure Pen where
  /-- The characters written so far, last first. -/
  written : List Char
  /-- How many of them are on the line. -/
  column : Nat
  /-- Whether what comes next is separated from what came before. -/
  isSeparated : Bool
  /-- Whether the line has nothing but indentation and marks of entries. -/
  isFresh : Bool
deriving Inhabited

namespace Pen

/-- The pen at the start of a page. -/
def start : Pen := ⟨[], 0, true, true⟩

/-- Writes characters that are not a line break. -/
def put (p : Pen) (cs : List Char) : Pen :=
  { p with written := cs.reverse ++ p.written, column := p.column + cs.length }

/-- Starts a new line. -/
def breakLine (p : Pen) : Pen :=
  ⟨'\n' :: p.written, 0, true, true⟩

/-- Goes to the column `n`, on this line if there is nothing of another entry on it. -/
def indent (p : Pen) (n : Nat) : Pen :=
  let p := if !p.isFresh || n < p.column || (p.column = n && !p.isSeparated) then p.breakLine else p
  if p.column < n then { p.put (List.replicate (n - p.column) ' ') with isSeparated := true } else p

/-- Writes a mark, behind a blank if it needs one; the mark of an entry keeps the line fresh. -/
def mark (p : Pen) (cs : List Char) (needsBlank isEntry : Bool) : Pen :=
  let p' := p.put (if p.isSeparated || !needsBlank then cs else ' ' :: cs)
  { p' with isSeparated := false, isFresh := p.isFresh && isEntry }

end Pen

/-- The column that lines may pass before they are folded. -/
def foldColumn : Nat := 80

/-- How a scalar is folded: where its other lines start, and whether it may have any. -/
structure Folding where
  /-- The column of the other lines. -/
  column : Nat
  /-- Whether lines may be folded. -/
  allowed : Bool

/-- Goes on to the next line of a folded scalar. -/
def Pen.fold (p : Pen) (f : Folding) : Pen :=
  { p.indent f.column with isSeparated := false, isFresh := false }

/-- Whether the pen should fold here. -/
def Pen.isPastFold (p : Pen) (f : Folding) : Bool :=
  f.allowed && foldColumn < p.column

/-- Characters without quotes; `blanks` of them are blanks that wait to be written or folded. -/
def plainChars (f : Folding) (p : Pen) (blanks : Nat) : List Char → Pen
  | [] => p.put (List.replicate blanks ' ')
  | c :: rest =>
    if c = ' ' then plainChars f p (blanks + 1) rest
    else
      let p := if blanks = 1 && p.isPastFold f then p.fold f else p.put (List.replicate blanks ' ')
      plainChars f (p.put [c]) 0 rest

/-- A scalar without quotes. -/
def Pen.plain (p : Pen) (f : Folding) (cs : List Char) : Pen :=
  let p := if p.isSeparated then p else p.put [' ']
  plainChars f { p with isSeparated := false, isFresh := false } 0 cs

/-- Line breaks, after which the pen goes to the column of the other lines. -/
def Pen.breakLines (p : Pen) (f : Folding) (n : Nat) : Pen :=
  (n.repeat Pen.breakLine p).indent f.column

/-- What waits to be written inside single quotes. -/
inductive Waiting where
  /-- Nothing. -/
  | nothing
  /-- Blanks, which may be folded unless they are at the start. -/
  | blanks (count : Nat) (atStart : Bool)
  /-- Line breaks. -/
  | breaks (count : Nat)

/-- Writes what waits; `atEnd` says that nothing follows. -/
def Pen.settle (p : Pen) (f : Folding) (atEnd : Bool) : Waiting → Pen
  | .nothing => p
  | .blanks n atStart =>
    if n = 1 && p.isPastFold f && !atStart && !atEnd then p.indent f.column
    else p.put (List.replicate n ' ')
  | .breaks n => p.breakLines f (n + 1)

/-- Characters inside single quotes. -/
def singleChars (f : Folding) (p : Pen) (atStart : Bool) (waiting : Waiting) : List Char → Pen
  | [] => p.settle f true waiting
  | c :: rest =>
    if c = ' ' then
      match waiting with
      | .blanks n s => singleChars f p false (.blanks (n + 1) s) rest
      | w => singleChars f (p.settle f false w) false (.blanks 1 atStart) rest
    else if c = '\n' then
      match waiting with
      | .breaks n => singleChars f p false (.breaks (n + 1)) rest
      | w => singleChars f (p.settle f false w) false (.breaks 1) rest
    else
      let p := p.settle f false waiting
      singleChars f (p.put (if c = '\'' then ['\'', '\''] else [c])) false .nothing rest

/-- A scalar in single quotes. -/
def Pen.single (p : Pen) (f : Folding) (cs : List Char) : Pen :=
  (singleChars f (p.mark ['\''] true false) true .nothing cs).mark ['\''] false false

/-- Characters with an escape of one letter. -/
def letterEscapes : List (Nat × Char) :=
  [(0x00, '0'), (0x07, 'a'), (0x08, 'b'), (0x09, 't'), (0x0a, 'n'), (0x0b, 'v'), (0x0c, 'f'),
    (0x0d, 'r'), (0x1b, 'e'), (0x22, '"'), (0x5c, '\\'), (0x85, 'N'), (0xa0, '_'), (0x2028, 'L'),
    (0x2029, 'P')]

/-- A hexadecimal number in upper case, with at least `width` digits. -/
def upperHex (width n : Nat) : List Char :=
  (padded 16 width n).map fun c => if 'a' ≤ c ∧ c ≤ 'f' then Char.ofNat (c.toNat - 32) else c

/-- The escape of a character inside double quotes, if it needs one. -/
def escapeOf? (c : Char) : Option (List Char) :=
  if c ≠ '"' ∧ c ≠ '\\' ∧ ' ' ≤ c ∧ c ≤ '~' then none
  else match letterEscapes.lookup c.toNat with
    | some l => some ['\\', l]
    | none =>
      if c.toNat ≤ 0xff then some ('\\' :: 'x' :: upperHex 2 c.toNat)
      else if c.toNat ≤ 0xffff then some ('\\' :: 'u' :: upperHex 4 c.toNat)
      else some ('\\' :: 'U' :: upperHex 8 c.toNat)

/-- Folds inside double quotes; a blank that starts the next line is escaped. -/
def Pen.foldDouble (p : Pen) (f : Folding) (next : Option Char) : Pen :=
  let p := (p.put ['\\']).fold f
  if next = some ' ' then p.put ['\\'] else p

/-- Characters inside double quotes. They can be folded at a blank and beside an escape, but not
before the first character and not at the last; `afterEscape` says what came before. -/
def doubleChars (f : Folding) (p : Pen) (atStart afterEscape : Bool) : List Char → Pen
  | [] => p
  | c :: rest =>
    let inside := !atStart && !rest.isEmpty
    match escapeOf? c with
    | some e =>
      let p := p.put e
      let p := if inside && f.allowed && foldColumn < p.column - 1 then p.foldDouble f rest.head?
        else p
      doubleChars f p false true rest
    | none =>
      let p := if inside && (c = ' ' || afterEscape) && p.isPastFold f then p.foldDouble f (some c)
        else p
      doubleChars f (p.put [c]) false false rest

/-- A scalar in double quotes. -/
def Pen.double (p : Pen) (f : Folding) (cs : List Char) : Pen :=
  (doubleChars f (p.mark ['"'] true false) true true cs).mark ['"'] false false

/-- A text in its style. -/
def Pen.text (p : Pen) (f : Folding) (isShortKey : Bool) (cs : List Char) : Pen :=
  match Style.choose cs isShortKey with
  | .plain => p.plain f cs
  | .single => p.single f cs
  | .double => p.double f cs

/-- Whether a key can stand on one line with its value. -/
def isShortKey (cs : List Char) : Bool :=
  cs.length < 123 && !cs.isEmpty && !(ScalarShape.of cs).isMultiline

/-- A double as a scalar. -/
def doubleScalar : Double → List Char
  | .nan => ".nan".toList
  | .infinity n => (if n then "-.inf" else ".inf").toList
  | x =>
    let cs := x.text.toList
    if !cs.contains '.' && cs.contains 'e' then
      cs.flatMap fun c => if c = 'e' then ['.', '0', 'e'] else [c]
    else cs

/-- How many columns an entry is inside the one around it. -/
def indentStep : Nat := 2

/-- The column of what is inside an entry at the column `outer`. -/
def innerColumn (outer : Option Nat) : Nat :=
  match outer with
  | none => 0
  | some n => n + indentStep

/-- How a scalar inside an entry at the column `outer` is folded. -/
def foldingIn (outer : Option Nat) (allowed : Bool) : Folding :=
  ⟨(outer.getD 0) + indentStep, allowed⟩

/-- The name of an anchor: three digits, or as many as it takes. -/
def anchorName (number : Nat) : List Char :=
  "id".toList ++ padded 10 3 number

/-- Writes the anchor of a list or a map, if it has one. -/
def Pen.anchor (p : Pen) : Label → Pen
  | .anchor number => p.mark ('&' :: anchorName number) true false
  | _ => p

section

variable (label : List Value.Step → Label)

mutual

/-- A value at the place `here`, inside an entry at the column `outer`; the entry is one of a map or of
a list. -/
def node (here : List Value.Step) (outer : Option Nat) (inMap : Bool) (p : Pen) : Value → Pen
  | .null => p.plain (foldingIn outer true) "null".toList
  | .bool b => p.plain (foldingIn outer true) (if b then "true" else "false").toList
  | .int i => p.plain (foldingIn outer true) (toString i).toList
  | .real x => p.plain (foldingIn outer true) (doubleScalar x)
  | .text s => p.text (foldingIn outer true) false s.toList
  | .list items =>
    match label here with
    | .alias number => p.mark ('*' :: anchorName number) true false
    | l =>
      let p := p.anchor l
      if items.isEmpty then (p.mark ['['] true false).mark [']'] false false
      else
        let column := if inMap && !p.isFresh then outer.getD 0 else innerColumn outer
        nodeItems here 0 column p items
  | .map fields =>
    match label here with
    | .alias number => p.mark ('*' :: anchorName number) true false
    | l =>
      let p := p.anchor l
      if fields.isEmpty then (p.mark ['{'] true false).mark ['}'] false false
      else nodeFields here (innerColumn outer) p fields

/-- The items of a list, at this column; the first one has the number `i`. -/
def nodeItems (here : List Value.Step) (i column : Nat) (p : Pen) : List Value → Pen
  | [] => p
  | v :: rest =>
    let p := (p.indent column).mark ['-'] true true
    nodeItems here (i + 1) column (node (here ++ [.item i]) (some column) false p v) rest

/-- The entries of a map, at this column. -/
def nodeFields (here : List Value.Step) (column : Nat) (p : Pen) : List (String × Value) → Pen
  | [] => p
  | (k, v) :: rest =>
    let p := p.indent column
    let p :=
      if isShortKey k.toList then
        (p.text (foldingIn (some column) false) true k.toList).mark [':'] false false
      else
        let p := (p.mark ['?'] true true).text (foldingIn (some column) true) false k.toList
        (p.indent column).mark [':'] true true
    nodeFields here column (node (here ++ [.key k]) (some column) true p v) rest

end

end

/-- Whether a value alone in a document is written without quotes. -/
def isBareScalar : Value → Bool
  | .text s => Style.choose s.toList false = .plain
  | .list _ => false
  | .map _ => false
  | _ => true

/-- The document of a value in memory; after a scalar without quotes, it ends with dots. -/
def write (o : Object) : String :=
  let v := Json.sorted o.value
  let label := labelOf (visit o.isOne [] {} v)
  let p := (node label [] none false .start v).indent 0
  let p := if isBareScalar v then (p.mark ['.', '.', '.'] true false).indent 0 else p
  String.ofList p.written.reverse

example : write ⟨.map [("b", .list [.int 1, .map [("x", .text "yes")]]), ("a", .map [])], .apart⟩ =
    "a: \x7b\x7d\nb:\n- 1\n- x: 'yes'\n" := by decide +kernel

example : write ⟨.map [("a", .list [.int 1, .map []]), ("b", .list [.int 1, .map []])],
      fun path => if path = [.key "a"] ∨ path = [.key "b"] then some 0 else none⟩ =
    "a: &id001\n- 1\n- \x7b\x7d\nb: *id001\n" := by decide +kernel

end FlinkSteward.Yaml
