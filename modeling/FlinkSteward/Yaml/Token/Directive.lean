import FlinkSteward.Json.Read
import FlinkSteward.Text.Utf8
import FlinkSteward.Yaml.Cursor
import FlinkSteward.Yaml.Token

/-!
# Directives, anchors and tags

The tokens that say something about a document or about the next node.

- `Scan.directive`, `Scan.anchorName`, `Scan.tag`: the tokens
-/

namespace FlinkSteward.Yaml.Scan

open FlinkSteward.Text

/-- Whether a character ends a word that a blank or a line break has to follow. -/
def isWordEnd (c : Char) : Bool :=
  c = ' ' || isBreakOrEnd c

/-- Whether a character may be in the address of a tag. -/
def isAddress (c : Char) : Bool :=
  c.isAlphanum || "-;/?:@&=+$,_.!~*'()[]%".toList.contains c

/-! ## Tags -/

/-- The values of the bytes that are written as `%` with two digits. -/
def escapedBytes (name : String) (start : Mark) : Nat → Scan (List Nat)
  | 0 => return []
  | fuel + 1 => do
    if (← look 0) ≠ '%' then return []
    skip 1
    match Json.hexValue? (← look 0), Json.hexValue? (← look 1) with
    | some a, some b =>
      skip 2
      return (16 * a + b) :: (← escapedBytes name start fuel)
    | none, _ => do
      refuseChar ("while scanning a " ++ name) start
        "expected URI escape sequence of 2 hexadecimal numbers" (← look 0)
    | _, none => do
      refuseChar ("while scanning a " ++ name) start
        "expected URI escape sequence of 2 hexadecimal numbers" (← look 1)

/-- The characters that escaped bytes stand for. -/
def escapedAddress (name : String) (start : Mark) : Scan (List Char) := do
  let first ← here
  let bytes ← escapedBytes name start (← rest).length
  match Utf8.decode bytes with
  | .ok cs => return cs
  | .error f =>
    throw ⟨.tokens, some ("while scanning a " ++ name), some start, f.message, some first⟩

/-- The pieces of an address, escaped and not. -/
def addressPieces (name : String) (start : Mark) : Nat → Scan (List (List Char))
  | 0 => return []
  | fuel + 1 => do
    let piece ← takeWhile fun c => isAddress c && c ≠ '%'
    if (← look 0) = '%' then
      let escaped ← escapedAddress name start
      return piece :: escaped :: (← addressPieces name start fuel)
    else return if piece.isEmpty then [] else [piece]

/-- The address of a tag. -/
def address (name : String) (start : Mark) : Scan String := do
  match ← addressPieces name start ((← rest).length + 1) with
  | [] => do refuseChar ("while parsing a " ++ name) start "expected URI" (← look 0)
  | pieces => return String.ofList pieces.flatten

/-- A handle: `!`, or a word between two of them. -/
def handle (name : String) (start : Mark) : Scan String := do
  let context := "while scanning a " ++ name
  let c ← look 0
  if c ≠ '!' then refuseChar context start "expected '!'" c
  if (← look 1) = ' ' then return String.ofList (← take 1)
  let word := ((← rest).drop 1).takeWhile isWord
  let c ← look (word.length + 1)
  if c ≠ '!' then
    skip (word.length + 1)
    refuseChar context start "expected '!'" c
  return String.ofList (← take (word.length + 2))

/-- Whether a tag has a handle of its own, which a second `!` ends. -/
def hasHandle (cs : List Char) : Bool :=
  ((cs.drop 1).takeWhile fun c => !isWordEnd c).contains '!'

/-- A tag. -/
def tag : Scan WrittenTag := do
  let start ← here
  let c ← look 1
  let written : WrittenTag ←
    if c = '<' then do
      skip 2
      let suffix ← address "tag" start
      let c ← look 0
      if c ≠ '>' then refuseChar "while parsing a tag" start "expected '>'" c
      skip 1
      pure ⟨none, suffix⟩
    else if isSeparator c then do
      skip 1
      pure ⟨none, "!"⟩
    else if hasHandle (← rest) then do
      let name ← handle "tag" start
      pure ⟨some name, ← address "tag" start⟩
    else do
      skip 1
      pure ⟨some "!", ← address "tag" start⟩
  let c ← look 0
  if !isWordEnd c then refuseChar "while scanning a tag" start "expected ' '" c
  return written

/-! ## Anchors -/

/-- The name of an anchor, or of the anchor that an alias stands for. -/
def anchorName : Scan String := do
  let start ← here
  let context := "while scanning an " ++ if (← look 0) = '*' then "alias" else "anchor"
  skip 1
  let name ← takeWhile isWord
  let c ← look 0
  if name.isEmpty || !(isSeparator c || "?:,]\x7d%@\x60".toList.contains c) then
    refuseChar context start "expected alphabetic or numeric character" c
  return String.ofList name

/-! ## Directives -/

/-- What a directive is part of, in messages. -/
def inDirective : String := "while scanning a directive"

/-- A number of a version. -/
def versionNumber (start : Mark) : Scan Nat := do
  let digits ← takeWhile isAsciiDigit
  if digits.isEmpty then refuseChar inDirective start "expected a digit" (← look 0)
  return digitsValue digits

/-- The version of the language. -/
def version (start : Mark) : Scan Directive := do
  skipSpaces
  let major ← versionNumber start
  let c ← look 0
  if c ≠ '.' then refuseChar inDirective start "expected a digit or '.'" c
  skip 1
  let minor ← versionNumber start
  let c ← look 0
  if !isWordEnd c then refuseChar inDirective start "expected a digit or ' '" c
  return .version major minor

/-- What a handle of tags stands for. -/
def handleMeaning (start : Mark) : Scan Directive := do
  skipSpaces
  let name ← handle "directive" start
  let c ← look 0
  if c ≠ ' ' then refuseChar inDirective start "expected ' '" c
  skipSpaces
  let replacement ← address "directive" start
  let c ← look 0
  if !isWordEnd c then refuseChar inDirective start "expected ' '" c
  return .handle name replacement

/-- The end of a line on which nothing but a comment may follow. -/
def lineEnd (context : String) (start : Mark) : Scan Unit := do
  skipSpaces
  skipComment
  let c ← look 0
  if !isBreakOrEnd c then refuseChar context start "expected a comment or a line break" c
  let _ ← lineBreak

/-- The name of a directive. -/
def directiveName (start : Mark) : Scan String := do
  let name ← takeWhile isWord
  let c ← look 0
  if name.isEmpty || !isWordEnd c then
    refuseChar inDirective start "expected alphabetic or numeric character" c
  return String.ofList name

/-- A directive with its line. -/
def directive : Scan (Directive × Mark) := do
  let start ← here
  skip 1
  let name ← directiveName start
  let d ← match name with
    | "YAML" => version start
    | "TAG" => handleMeaning start
    | _ => pure .other
  let stop ← here
  if d = .other then
    let _ ← takeWhile fun c => !isBreak c
  lineEnd inDirective start
  return (d, stop)

end FlinkSteward.Yaml.Scan
