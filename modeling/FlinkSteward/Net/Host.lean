import FlinkSteward.Net.Address
import FlinkSteward.Text.CaseMap
import FlinkSteward.Text.Quoted

/-!
# Host names

The host and the port at the start of an address without a scheme. The host and port end at the
first `/`, `?` or `#`; before them may stand a user name and `@`. Brackets are kept for addresses of
the Internet Protocol, which are well-formed hosts of an address but no host names; they are looked at
as they have been since CVE-2025-0938 was fixed.

- `Host.check`: the first fault of an address that has no host name of dotted labels at its start
- `Host.isLabel`: the labels: 1 to 63 letters, digits and hyphens, with no hyphen at either end
-/

namespace FlinkSteward.Host

open FlinkSteward.Text

/-- What can be wrong with the start of an address. -/
inductive Fault where
  /-- Brackets do not pair up, or stand in the wrong place. -/
  | badBrackets
  /-- A bracketed address of a future version is malformed. -/
  | badFutureAddress
  /-- Brackets hold no Internet address. -/
  | notAnAddress (inside : String)
  /-- Brackets hold an address that must not be in brackets. -/
  | bracketedIPv4
  /-- A character stands for a delimiter in another form. -/
  | disguisedDelimiter (authority : String)
  /-- There is no host. -/
  | missing (address : String)
  /-- The port is no number. -/
  | portNotNumber (port : String)
  /-- The port has too many digits to be read. -/
  | portTooLong (digits : Nat)
  /-- The port is too large. -/
  | portOutOfRange
  /-- A label of the host is malformed. -/
  | badLabel (label host : String)
deriving DecidableEq, Inhabited

/-- How many digits a port may have, zeros in front included. -/
def maxPortDigits : Nat :=
  4300

/-- The message of a fault. -/
def Fault.message : Fault → String
  | badBrackets => "Invalid IPv6 URL"
  | badFutureAddress => "IPvFuture address is invalid"
  | notAnAddress inside => quoted inside ++ " does not appear to be an IPv4 or IPv6 address"
  | bracketedIPv4 => "An IPv4 address cannot be in brackets"
  | disguisedDelimiter authority =>
    "netloc '" ++ authority ++ "' contains invalid characters under NFKC normalization"
  | missing address => "Host is missing in: \"" ++ address ++ "\""
  | portNotNumber port => "Port could not be cast to integer value as " ++ quoted port
  | portTooLong digits => tooManyDigits digits
  | portOutOfRange => "Port out of range 0-65535"
  | badLabel label host => "Invalid host label \"" ++ label ++ "\" in: \"" ++ host ++ "\""

/-- Characters that stand for `/`, `?`, `#`, `@` or `:` in a compatible form, by code point. -/
def disguises : List Nat :=
  [0x2047, 0x2048, 0x2049, 0x2100, 0x2101, 0x2105, 0x2106, 0x2a74, 0xfe13, 0xfe16, 0xfe55, 0xfe56,
    0xfe5f, 0xfe6b, 0xff03, 0xff0f, 0xff1a, 0xff1f, 0xff20]

/-- The characters before the first `/`, `?` or `#`, without tabs and line ends. -/
def authority (address : List Char) : List Char :=
  (address.filter fun c => c ≠ '\t' ∧ c ≠ '\r' ∧ c ≠ '\n').takeWhile fun c =>
    c ≠ '/' ∧ c ≠ '?' ∧ c ≠ '#'

/-- What follows the user name: host and port. -/
def hostAndPort (authority : List Char) : List Char :=
  ((breakAtLast? '@' authority).map Prod.snd).getD authority

/-- The characters before the first `sep`, and those after it. -/
def partition (sep : Char) (cs : List Char) : List Char × List Char :=
  (breakAt? sep cs).getD (cs, [])

/-- The host as it is written, without brackets, and the port. -/
def split (hostAndPort : List Char) : List Char × List Char :=
  match breakAt? '[' hostAndPort with
  | some (_, inside) =>
    let (host, after) := partition ']' inside
    (host, (partition ':' after).2)
  | none => partition ':' hostAndPort

/-- Whether characters are a bracketed address of a future version, which starts with `v`. -/
def isFutureAddress (cs : List Char) : Bool :=
  let digits := (cs.drop 1).takeWhile fun c => (Json.hexValue? c).isSome
  match (cs.drop 1).dropWhile fun c => (Json.hexValue? c).isSome with
  | '.' :: rest => !digits.isEmpty && !rest.isEmpty
  | _ => false

/-- Checks what stands between brackets. -/
def checkInside (host : List Char) : Except Fault Unit :=
  if host.head? = some 'v' then
    if isFutureAddress host then .ok () else .error .badFutureAddress
  else if Address.isIPv4 host then .error .bracketedIPv4
  else if Address.isIPv6 host then .ok ()
  else .error (.notAnAddress (String.ofList host))

/-- Checks the brackets of host and port: nothing before them, and nothing but a port after them. What
stands around the brackets counts since CVE-2025-0938 was fixed; before that, only what is inside did. -/
def checkBrackets (hostAndPort : List Char) : Except Fault Unit :=
  match breakAt? '[' hostAndPort with
  | none => checkInside (partition ':' hostAndPort).1
  | some (before, inside) =>
    let (host, after) := partition ']' inside
    if !before.isEmpty then .error .badBrackets
    else if !after.isEmpty && after.head? ≠ some ':' then .error .badBrackets
    else checkInside host

/-- Checks that an authority can be taken apart. -/
def checkAuthority (authority : List Char) : Except Fault Unit := do
  let opens := authority.contains '['
  let closes := authority.contains ']'
  if opens != closes then throw .badBrackets
  if opens && closes then checkBrackets (hostAndPort authority)
  if authority.any fun c => disguises.contains c.toNat then
    throw (.disguisedDelimiter (String.ofList authority))

/-- The host in lower case; a zone behind `%` is kept as it is. -/
def lowered (host : List Char) : List Char :=
  match breakAt? '%' host with
  | some (name, zone) => lowerChars [] name ++ '%' :: zone
  | none => lowerChars [] host

/-- Checks that a port is empty or a number up to 65535 that is not written with too many digits. -/
def checkPort (port : List Char) : Except Fault Unit :=
  if port.isEmpty then .ok ()
  else if !port.all isAsciiDigit then .error (.portNotNumber (String.ofList port))
  else if maxPortDigits < port.length then .error (.portTooLong port.length)
  else if 65535 < digitsValue port then .error .portOutOfRange
  else .ok ()

/-- Whether a character can be part of a label. -/
def isLabelChar (c : Char) : Bool :=
  ('a' ≤ c && c ≤ 'z') || ('A' ≤ c && c ≤ 'Z') || isAsciiDigit c || c = '-'

/-- Whether characters are a label of a host name. -/
def isLabel (cs : List Char) : Bool :=
  1 ≤ cs.length && cs.length ≤ 63 && cs.all isLabelChar &&
    cs.head? ≠ some '-' && cs.getLast? ≠ some '-'

/-- The labels of a host; points at its end do not count. -/
def labels (host : List Char) : List (List Char) :=
  splitAt '.' (host.reverse.dropWhile (· = '.')).reverse

/-- Checks that an address starts with a host name and an optional port. -/
def check (address : String) : Except Fault Unit := do
  let cs := authority address.toList
  checkAuthority cs
  let (written, port) := split (hostAndPort cs)
  if written.isEmpty then throw (.missing address)
  checkPort port
  let host := lowered written
  match (labels host).find? fun l => !isLabel l with
  | some label => throw (.badLabel (String.ofList label) (String.ofList host))
  | none => return ()

example : (check "flink.example.com:8081/ui").toOption = some () := by decide +kernel

end FlinkSteward.Host
