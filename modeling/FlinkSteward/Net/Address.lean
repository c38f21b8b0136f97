import FlinkSteward.Json.Read
import FlinkSteward.Text.Split

/-!
# Internet addresses

Which texts are addresses of the Internet Protocol, in its fourth and its sixth version.

- `Address.isIPv4`: four numbers up to 255 with points between them
- `Address.isIPv6`: up to eight groups with colons between them, one run of which may be left out,
  and an optional zone
-/

namespace FlinkSteward.Address

open FlinkSteward.Text

/-- Whether characters are one number of an address of four: at most 255, with no zero in front. -/
def isOctet (cs : List Char) : Bool :=
  !cs.isEmpty && cs.all isAsciiDigit && cs.length ≤ 3 &&
    (cs = ['0'] || cs.head? ≠ some '0') && digitsValue cs ≤ 255

/-- Whether characters are an address of four numbers. -/
def isIPv4 (cs : List Char) : Bool :=
  let parts := splitAt '.' cs
  parts.length = 4 && parts.all isOctet

/-- Whether characters are one group of an address of eight. -/
def isGroup (cs : List Char) : Bool :=
  !cs.isEmpty && cs.length ≤ 4 && cs.all fun c => (Json.hexValue? c).isSome

/-- The groups of an address; four numbers at the end count as two groups. -/
def groups? (cs : List Char) : Option (List (List Char)) :=
  let parts := splitAt ':' cs
  match parts.getLast? with
  | some last =>
    if last.contains '.' then
      if isIPv4 last then some (parts.dropLast ++ [['0'], ['0']]) else none
    else some parts
  | none => none

/-- The places of the empty groups that are neither first nor last. -/
def innerGaps (parts : List (List Char)) : List Nat :=
  (List.range parts.length).filter fun i =>
    0 < i && i + 1 < parts.length && (parts[i]?.getD []).isEmpty

/-- Whether groups with a run left out at `gap` are an address. -/
def isShortened (parts : List (List Char)) (gap : Nat) : Bool :=
  let front := parts.take gap
  let back := parts.drop (gap + 1)
  let front := if front.head? = some [] then front.drop 1 else front
  let back := if back.getLast? = some [] then back.dropLast else back
  (parts.head? ≠ some [] || front.isEmpty) && (parts.getLast? ≠ some [] || back.isEmpty) &&
    front.length + back.length ≤ 7 && front.all isGroup && back.all isGroup

/-- Whether characters are an address of eight groups, without a zone. -/
def isGrouped (cs : List Char) : Bool :=
  if (splitAt ':' cs).length < 3 then false
  else match groups? cs with
    | none => false
    | some parts =>
      if 9 < parts.length then false
      else match innerGaps parts with
        | [] => parts.length = 8 && parts.all isGroup
        | [gap] => isShortened parts gap
        | _ => false

/-- Whether characters are an address of eight groups, with a zone behind `%` or without one. -/
def isIPv6 (cs : List Char) : Bool :=
  match breakAt? '%' cs with
  | none => isGrouped cs
  | some (address, zone) => !zone.isEmpty && !zone.contains '%' && isGrouped address

example : isIPv6 "::1".toList = true ∧ isIPv6 "1::2::3".toList = false := by decide
example : isIPv6 "::ffff:1.2.3.4%eth0".toList = true := by decide
example : isIPv4 "1.2.3.04".toList = false := by decide

end FlinkSteward.Address
