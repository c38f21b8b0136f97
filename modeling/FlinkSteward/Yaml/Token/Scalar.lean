import FlinkSteward.Yaml.Token.Directive

/-!
# Scalars of YAML

The texts of a YAML text: without quotes, in single or double quotes, and in blocks of their own
lines. In all but literal blocks a single line break counts as a blank, and of several the first
does not count.

- `Scan.plain`: a scalar without quotes
- `Scan.quotedScalar`: a scalar in quotes
- `Scan.block`: a block
-/

namespace FlinkSteward.Yaml.Scan

open FlinkSteward.Text

/-- What line breaks inside a scalar count as: the first, and those that follow it. -/
def folded (first rest : List Char) : List Char :=
  if first ≠ ['\n'] then first ++ rest
  else if rest.isEmpty then [' '] else rest

/-- Pieces that were collected, latest first, as one text. -/
def joined (pieces : List (List Char)) : List Char :=
  pieces.reverse.flatten

/-! ## Without quotes -/

/-- Whether a scalar without quotes ends before a character that another one follows. -/
def endsPlain (inFlow : Bool) (c next : Char) : Bool :=
  isSeparator c ||
    (c = ':' && (isSeparator next || (inFlow && [',', '[', ']', '{', '}'].contains next))) ||
    (inFlow && [',', '?', '[', ']', '{', '}'].contains c)

/-- The length of the part of a scalar without quotes that has no blanks in it. -/
def plainLength (inFlow : Bool) : List Char → Nat
  | [] => 0
  | c :: rest => if endsPlain inFlow c (rest.headD '\x00') then 0 else plainLength inFlow rest + 1

/-- Line breaks with blanks between them; nothing when a mark of a document comes. -/
def plainBreaks : Nat → Scan (Option (List Char))
  | 0 => return some []
  | fuel + 1 => do
    skipSpaces
    match ← lineBreak with
    | [] => return some []
    | cs => do
      if ← isDocumentMark then return none
      return (← plainBreaks fuel).map (cs ++ ·)

/-- The blanks and line breaks inside a scalar without quotes, and whether there are line breaks. The
scalar ends where there are none of either. -/
def plainSpaces : Scan (List Char × Bool) := do
  let blanks ← takeWhile (· = ' ')
  match ← lineBreak with
  | [] => return (blanks, false)
  | first => do
    if ← isDocumentMark then return ([], true)
    match ← plainBreaks (← rest).length with
    | none => return ([], true)
    | some more => return (folded first more, true)

/-- The parts of a scalar without quotes behind those in `pieces`, after blanks; `broken` says whether
there are line breaks among the blanks. -/
def plainParts (inFlow : Bool) (indent : Int) (pieces : List (List Char)) (blanks : List Char)
    (broken : Bool) (stop : Mark) : Nat → Scan (List Char × Bool × Mark)
  | 0 => return (joined pieces, broken, stop)
  | fuel + 1 => do
    let n := plainLength inFlow (← rest)
    if n = 0 ∨ (← look 0) = '#' then return (joined pieces, broken, stop)
    let part ← take n
    let stop ← here
    let pieces := part :: blanks :: pieces
    let (blanks, broken) ← plainSpaces
    if blanks.isEmpty ∨ (!inFlow ∧ (← column) < indent) then
      return (joined pieces, broken, stop)
    plainParts inFlow indent pieces blanks broken stop fuel

/-- A scalar without quotes, whether it ends with a line break, and where it stops. Its lines have to
be indented in block collections. -/
def plain (inFlow : Bool) (indent : Int) : Scan (List Char × Bool × Mark) := do
  plainParts inFlow indent [] [] false (← here) ((← rest).length + 1)

/-! ## In quotes -/

/-- What is being read, in messages. -/
def inQuotes : String := "while scanning a quoted scalar"

/-- What is being read, in messages. -/
def inDoubleQuotes : String := "while scanning a double-quoted scalar"

/-- What an escape of one character stands for. -/
def simpleEscape? (c : Char) : Option Char :=
  [('0', '\x00'), ('a', '\x07'), ('b', '\x08'), ('t', '\t'), ('\t', '\t'), ('n', '\n'),
    ('v', '\x0b'), ('f', '\x0c'), ('r', '\r'), ('e', '\x1b'), (' ', ' '), ('"', '"'), ('\\', '\\'),
    ('/', '/'), ('N', '\u0085'), ('_', '\u00a0'), ('L', '\u2028'), ('P', '\u2029')].lookup c

/-- How many digits an escape has. -/
def escapeLength? (c : Char) : Option Nat :=
  [('x', 2), ('u', 4), ('U', 8)].lookup c

/-- The character with a number. -/
def character (n : Nat) : Scan Char :=
  if n < 0x110000 then return Char.ofNat n
  else if n < 0x80000000 then
    throw ⟨.escape, none, none, "chr() arg not in range(0x110000)", none⟩
  else throw ⟨.wideEscape, none, none, "Python int too large to convert to C int", none⟩

/-- The number that `n` digits give. -/
def escapedNumber (start : Mark) (n : Nat) : Scan Nat := do
  for k in List.range n do
    let c ← look k
    if (Json.hexValue? c).isNone then
      refuseChar inDoubleQuotes start
        ("expected escape sequence of " ++ toString n ++ " hexadecimal numbers") c
  let cs ← take n
  return cs.foldl (fun v c => 16 * v + (Json.hexValue? c).getD 0) 0

/-- Whether a number is that of the first or second half of a character. -/
def isHalf (second : Bool) (n : Nat) : Bool :=
  n / 0x400 = if second then 0x37 else 0x36

/-- The character whose number `n` digits give. Two halves of a character that follow each other are
that character. -/
def numberedCharacter (start : Mark) (n : Nat) : Scan Char := do
  let first ← escapedNumber start n
  if isHalf false first ∧ (← look 0) = '\\' ∧ (← look 1) = 'u' then
    skip 2
    let second ← escapedNumber start 4
    if isHalf true second then
      return Char.ofNat (0x10000 + first % 0x400 * 0x400 + second % 0x400)
  if isHalf false first ∨ isHalf true first then return '\ufffd'
  character first

/-- Line breaks in quotes, with blanks around them. -/
def quotedBreaks (start : Mark) : Nat → Scan (List Char)
  | 0 => return []
  | fuel + 1 => do
    if ← isDocumentMark then
      refuse (some inQuotes) (some start) "found unexpected document separator"
    let _ ← takeWhile fun c => c = ' ' || c = '\t'
    match ← lineBreak with
    | [] => return []
    | cs => return cs ++ (← quotedBreaks start fuel)

/-- What comes behind a backslash. -/
def escape (start : Mark) : Scan (List Char) := do
  let c ← look 0
  match simpleEscape? c, escapeLength? c with
  | some r, _ => do
    skip 1
    return [r]
  | none, some n => do
    skip 1
    return [← numberedCharacter start n]
  | none, none => do
    if isBreak c then
      let _ ← lineBreak
      quotedBreaks start (← rest).length
    else refuse (some inDoubleQuotes) (some start) ("found unknown escape character " ++ shown c)

/-- Whether a character needs a closer look in quotes. -/
def isSpecialInQuotes (c : Char) : Bool :=
  c = '\'' || c = '"' || c = '\\' || isSeparator c

/-- The part of a scalar in quotes up to blanks or the closing quote, latest piece first. -/
def quotedPart (isDouble : Bool) (start : Mark) (pieces : List (List Char)) :
    Nat → Scan (List (List Char))
  | 0 => return pieces
  | fuel + 1 => do
    let pieces := (← takeWhile fun c => !isSpecialInQuotes c) :: pieces
    let c ← look 0
    if isDouble then
      if c = '\'' then quotedPart isDouble start ((← take 1) :: pieces) fuel
      else if c = '\\' then
        skip 1
        quotedPart isDouble start ((← escape start) :: pieces) fuel
      else return pieces
    else if c = '\'' ∧ (← look 1) = '\'' then
      skip 2
      quotedPart isDouble start (['\''] :: pieces) fuel
    else if c = '"' ∨ c = '\\' then quotedPart isDouble start ((← take 1) :: pieces) fuel
    else return pieces

/-- The blanks and line breaks inside a scalar in quotes. -/
def quotedSpaces (start : Mark) : Scan (List Char) := do
  let blanks ← takeWhile fun c => c = ' ' || c = '\t'
  if (← look 0) = '\x00' then refuse (some inQuotes) (some start) "found unexpected end of stream"
  match ← lineBreak with
  | [] => return blanks
  | first => return folded first (← quotedBreaks start (← rest).length)

/-- The parts of a scalar in quotes up to the closing one, latest piece first. -/
def quotedParts (isDouble : Bool) (start : Mark) (pieces : List (List Char)) :
    Nat → Scan (List (List Char))
  | 0 => return pieces
  | fuel + 1 => do
    let pieces ← quotedPart isDouble start pieces ((← rest).length + 1)
    if (← look 0) = (if isDouble then '"' else '\'') then return pieces
    quotedParts isDouble start ((← quotedSpaces start) :: pieces) fuel

/-- A scalar in quotes. -/
def quotedScalar (isDouble : Bool) : Scan (List Char) := do
  let start ← here
  skip 1
  let pieces ← quotedParts isDouble start [] ((← rest).length + 1)
  skip 1
  return joined pieces

/-! ## In blocks -/

/-- What is being read, in messages. -/
def inBlock : String := "while scanning a block scalar"

/-- What becomes of the line breaks at the end of a block. -/
inductive Chomping where
  /-- One of them counts. -/
  | clip
  /-- None of them counts. -/
  | strip
  /-- All of them count. -/
  | keep
deriving DecidableEq, Inhabited

/-- How the end of a block is treated, if that is said. -/
def chomping? : Scan (Option Chomping) := do
  match ← look 0 with
  | '+' => do
    skip 1
    return some .keep
  | '-' => do
    skip 1
    return some .strip
  | _ => return none

/-- How far a block is indented, if that is said. -/
def increment? (start : Mark) : Scan (Option Nat) := do
  let c ← look 0
  if isAsciiDigit c then
    if c = '0' then
      refuse (some inBlock) (some start)
        "expected indentation indicator in the range 1-9, but found 0"
    skip 1
    return some (digitsValue [c])
  else return none

/-- What is said about a block on its first line, in either order. -/
def blockIndicators (start : Mark) : Scan (Chomping × Option Nat) := do
  let first ← chomping?
  let increment ← increment? start
  let second ← match first, increment with
    | none, some _ => chomping?
    | _, _ => pure first
  let c ← look 0
  if !isWordEnd c then
    refuseChar inBlock start "expected chomping or indentation indicators" c
  return (second.getD .clip, increment)

/-- The empty lines in front of a block, and the column of the blanks that go furthest. -/
def blockStart (deepest : Nat) : Nat → Scan (List Char × Nat)
  | 0 => return ([], deepest)
  | fuel + 1 => do
    skipSpaces
    let deepest := max deepest (← column)
    match ← lineBreak with
    | [] => return ([], deepest)
    | cs => do
      let (more, deepest) ← blockStart deepest fuel
      return (cs ++ more, deepest)

/-- Passes over blanks up to a column. -/
def skipIndent (indent : Nat) : Scan Unit := do
  let blanks := ((← rest).takeWhile (· = ' ')).length
  skip (min blanks (indent - (← column)))

/-- Empty lines inside a block. -/
def blockBreaks (indent : Nat) : Nat → Scan (List Char)
  | 0 => return []
  | fuel + 1 => do
    skipIndent indent
    match ← lineBreak with
    | [] => return []
    | cs => return cs ++ (← blockBreaks indent fuel)

/-- Whether a line of a block starts here. -/
def isBlockLine (indent : Nat) : Scan Bool := do
  return (← column) = indent && (← look 0) ≠ '\x00'

/-- Whether a character is a blank or a tab. -/
def isSpaceOrTab (c : Char) : Bool :=
  c = ' ' || c = '\t'

/-- The lines of a block behind those in `pieces`, the last line break and the empty lines behind it. -/
def blockLines (isFolded : Bool) (indent : Nat) (pieces : List (List Char)) (breaks : List Char) :
    Nat → Scan (List (List Char) × List Char × List Char)
  | 0 => return (pieces, [], breaks)
  | fuel + 1 => do
    let startsBlank := isSpaceOrTab (← look 0)
    let line ← takeWhile fun c => !isBreak c
    let pieces := line :: breaks :: pieces
    let lineEnd ← lineBreak
    let breaks ← blockBreaks indent (← rest).length
    if ← isBlockLine indent then
      let folds := isFolded && lineEnd = ['\n'] && !startsBlank && !isSpaceOrTab (← look 0)
      let between := if folds then (if breaks.isEmpty then [' '] else []) else lineEnd
      blockLines isFolded indent (between :: pieces) breaks fuel
    else return (pieces, lineEnd, breaks)

/-- A block inside collections that are indented to a column. -/
def block (isFolded : Bool) (outer : Int) : Scan (List Char) := do
  let start ← here
  skip 1
  let (chomping, increment) ← blockIndicators start
  lineEnd inBlock start
  let least := (max 1 (outer + 1)).toNat
  let (breaks, indent) ← match increment with
    | none => do
      let (breaks, deepest) ← blockStart 0 ((← rest).length + 1)
      pure (breaks, max least deepest)
    | some n => do
      let indent := least + n - 1
      pure (← blockBreaks indent ((← rest).length + 1), indent)
  let (pieces, lastEnd, breaks) ←
    if ← isBlockLine indent then blockLines isFolded indent [] breaks ((← rest).length + 1)
    else pure ([], [], breaks)
  return joined pieces ++ match chomping with
    | .strip => []
    | .clip => lastEnd
    | .keep => lastEnd ++ breaks

end FlinkSteward.Yaml.Scan
