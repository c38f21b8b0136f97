import FlinkSteward.Text.Digit
import FlinkSteward.Text.Split
import FlinkSteward.Value.Basic

/-!
# Requests over HTTP

The requests of the REST client, the answers to them, and the addresses they go to. An answer outside
of 200 to 299 is a refusal, which is worded by its class and its reason.

- `Http.addressOf`: the address of a path, with its characters encoded
- `Http.refusal`: the wording of an answer that is no success
-/

namespace FlinkSteward.Http

open FlinkSteward.Text

/-- A request. -/
structure Request where
  /-- The method. -/
  method : String
  /-- The address. -/
  url : String
  /-- The data that is sent. -/
  body : Option Value
deriving DecidableEq, Inhabited

/-- What the network makes of a request. -/
inductive Answer where
  /-- The server answered with a status, a text, and perhaps a place to go to instead. -/
  | response (status : Nat) (text : String) (location : Option String)
  /-- There was no answer in time. -/
  | timeout (message : String)
  /-- There was no answer. -/
  | broken (message : String)
deriving DecidableEq, Inhabited

/-- Whether a status says that a request was carried out. -/
def isSuccess (status : Nat) : Bool :=
  200 ≤ status && status ≤ 299

/-- The reasons that statuses stand for. -/
def reasons : List (Nat × String) := [
  (100, "Continue"), (101, "Switching Protocols"), (102, "Processing"), (103, "Early Hints"),
  (300, "Multiple Choices"), (301, "Moved Permanently"), (302, "Found"), (303, "See Other"),
  (304, "Not Modified"), (305, "Use Proxy"), (307, "Temporary Redirect"),
  (308, "Permanent Redirect"), (400, "Bad Request"), (401, "Unauthorized"),
  (402, "Payment Required"), (403, "Forbidden"), (404, "Not Found"), (405, "Method Not Allowed"),
  (406, "Not Acceptable"), (407, "Proxy Authentication Required"), (408, "Request Timeout"),
  (409, "Conflict"), (410, "Gone"), (411, "Length Required"), (412, "Precondition Failed"),
  (413, "Request Entity Too Large"), (414, "Request-URI Too Long"), (415, "Unsupported Media Type"),
  (416, "Requested Range Not Satisfiable"), (417, "Expectation Failed"), (418, "I'm a teapot"),
  (421, "Misdirected Request"), (422, "Unprocessable Entity"), (423, "Locked"),
  (424, "Failed Dependency"), (425, "Too Early"), (426, "Upgrade Required"),
  (428, "Precondition Required"), (429, "Too Many Requests"),
  (431, "Request Header Fields Too Large"), (451, "Unavailable For Legal Reasons"),
  (500, "Internal Server Error"), (501, "Not Implemented"), (502, "Bad Gateway"),
  (503, "Service Unavailable"), (504, "Gateway Timeout"), (505, "HTTP Version Not Supported"),
  (506, "Variant Also Negotiates"), (507, "Insufficient Storage"), (508, "Loop Detected"),
  (510, "Not Extended"), (511, "Network Authentication Required")]

/-- The class of a status that is no success. -/
def classOf (status : Nat) : String :=
  match status / 100 with
  | 1 => "Informational response"
  | 3 => "Redirect response"
  | 4 => "Client error"
  | 5 => "Server error"
  | _ => "Invalid status code"

/-- Whether an answer of this status goes on at another place, if it names one. -/
def isRedirect (status : Nat) : Bool :=
  [301, 302, 303, 307, 308].contains status

/-- The wording of an answer that is no success. -/
def refusal (status : Nat) (url : String) (location : Option String) : String :=
  let place := match location with
    | some l => if isRedirect status then "Redirect location: '" ++ l ++ "'\n" else ""
    | none => ""
  classOf status ++ " '" ++ toString status ++ " " ++ (reasons.lookup status).getD "" ++
    "' for url '" ++ url ++ "'\n" ++ place ++
    "For more information check: https://developer.mozilla.org/en-US/docs/Web/HTTP/Status/" ++
    toString status

/-- Whether a character of a path stands for itself in an address. -/
def isPathChar (c : Char) : Bool :=
  '!' ≤ c ∧ c ≤ '~' ∧ c ∉ ['"', '#', '<', '>', '?', '\x60', '{', '}']

/-- Whether a character of a query stands for itself in an address. -/
def isQueryChar (c : Char) : Bool :=
  '!' ≤ c ∧ c ≤ '~' ∧ c ∉ ['"', '#', '<', '>']

/-- A byte in an encoded address. -/
def byteText (b : UInt8) : List Char :=
  '%' :: (padded 16 2 b.toNat).map Char.toUpper

/-- Characters of an address, of which those that do not stand for themselves are encoded. -/
def encode (keep : Char → Bool) (cs : List Char) : List Char :=
  cs.flatMap fun c =>
    if keep c then [c] else (String.singleton c).toUTF8.toList.flatMap byteText

/-- One more step of a path: `..` takes the last one back and `.` stays. -/
def addStep (path : List (List Char)) (step : List Char) : List (List Char) :=
  if step = ['.'] then path
  else if step = ['.', '.'] then (if path.isEmpty || path = [[]] then path else path.dropLast)
  else path ++ [step]

/-- A path without steps that stay or go back. -/
def resolve (path : List Char) : List Char :=
  List.intercalate ['/'] ((splitAt '/' path).foldl addStep [])

/-- The address of a server, to which the path of a request is added: one slash at its end does not
count, and neither does the port that is meant without one. -/
def serverOf (base : String) : String :=
  let cs := if base.toList.getLast? = some '/' then base.toList.dropLast else base.toList
  match cs.reverse with
  | '0' :: '8' :: ':' :: server => String.ofList server.reverse
  | _ => String.ofList cs

/-- The address of a path at a server. What follows `?` in the path is the query, unless another one is
given, and what follows `#` is left out. -/
def addressOf (base path : String) (query : Option String) : String :=
  let cs := path.toList.takeWhile (· ≠ '#')
  let (path, own) := match breakAt? '?' cs with
    | some (path, own) => (path, '?' :: encode isQueryChar own)
    | none => (cs, [])
  serverOf base ++ String.ofList (resolve (encode isPathChar path)) ++
    match query with
    | some q => "?" ++ q
    | none => String.ofList own

example : addressOf "http://h:1/" "/jobs/a b" none = "http://h:1/jobs/a%20b" := by decide +kernel
example : addressOf "http://h:80" "/jobs/a?b" (some "c=d") = "http://h/jobs/a?c=d" := by decide +kernel

end FlinkSteward.Http
