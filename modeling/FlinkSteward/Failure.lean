import FlinkSteward.Json.Fault
import FlinkSteward.Net.Host
import FlinkSteward.Quantity.Duration
import FlinkSteward.Quantity.Memory
import FlinkSteward.Yaml.Calendar
import FlinkSteward.Yaml.Fault

/-!
# Failures

Why an operation came to nothing. Manifests and answers are data of any shape, so that a value may
turn up where one of another kind is needed: that is a `Mismatch`. The other failures are texts that
cannot be read, names that are not there, resources that are refused, and calls to the cluster or to
Kubernetes that failed.

- `Failure.message`: what a user is told
-/

namespace FlinkSteward

open FlinkSteward.Text

/-- A value of one kind where another is needed; kinds are named as in `Value.kind`. -/
inductive Mismatch where
  /-- The kind lacks what was asked of it. -/
  | lacks (kind member : String)
  /-- The two kinds have no order. -/
  | unordered (relation left right : String)
  /-- The two kinds cannot be combined. -/
  | notCombinable (operation left right : String)
  /-- The kind has no items to go through. -/
  | notIterable (kind : String)
  /-- The kind has no entries to look up. -/
  | notSubscriptable (kind : String)
  /-- The kind has no entries to set. -/
  | noAssignment (kind : String)
  /-- A list has places and no keys. -/
  | listKey
  /-- A text has places and no keys. -/
  | textKey
  /-- The kind stands for no integer. -/
  | notIntegral (kind : String)
  /-- The kind stands for no double. -/
  | notReal (kind : String)
  /-- The kind is no content of a file. -/
  | notContent (kind : String)
  /-- The kind cannot be aligned in a column. -/
  | notAlignable (kind : String)
deriving DecidableEq, Inhabited

/-- The message of a mismatch. -/
def Mismatch.message : Mismatch → String
  | lacks kind member => "'" ++ kind ++ "' object has no attribute '" ++ member ++ "'"
  | unordered relation left right =>
    "'" ++ relation ++ "' not supported between instances of '" ++ left ++ "' and '" ++ right ++ "'"
  | notCombinable operation left right =>
    match operation, left, right with
    | "+", "list", _ => "can only concatenate list (not \"" ++ right ++ "\") to list"
    | "+", "str", _ => "can only concatenate str (not \"" ++ right ++ "\") to str"
    | _, _, _ =>
      "unsupported operand type(s) for " ++ operation ++ ": '" ++ left ++ "' and '" ++ right ++ "'"
  | notIterable kind => "'" ++ kind ++ "' object is not iterable"
  | notSubscriptable kind => "'" ++ kind ++ "' object is not subscriptable"
  | noAssignment kind => "'" ++ kind ++ "' object does not support item assignment"
  | listKey => "list indices must be integers or slices, not str"
  | textKey => "string indices must be integers, not 'str'"
  | notIntegral kind =>
    "int() argument must be a string, a bytes-like object or a real number, not '" ++ kind ++ "'"
  | notReal kind => "float() argument must be a string or a real number, not '" ++ kind ++ "'"
  | notContent kind => "data must be str, not " ++ kind
  | notAlignable kind => "unsupported format string passed to " ++ kind ++ ".__format__"

/-- Why an operation came to nothing. -/
inductive Failure where
  /-- A value has the wrong kind. -/
  | mismatch (m : Mismatch)
  /-- A text is no memory size. -/
  | memory (f : Memory.Fault)
  /-- An entry is no duration. -/
  | duration (f : Duration.Fault)
  /-- An address has no host name at its start. -/
  | host (f : Host.Fault)
  /-- A text is no integer. -/
  | notAnInteger (text : String)
  /-- A text is no integer to this base. -/
  | notInBase (base : Nat) (text : String)
  /-- A number has no digits. -/
  | noDigits
  /-- Numbers are no date or time. -/
  | calendar (f : Yaml.CalendarFault)
  /-- A text is no number. -/
  | notANumber (text : String)
  /-- NaN has no integer part. -/
  | integerOfNan
  /-- An infinity has no integer part. -/
  | integerOfInfinity
  /-- An integer is out of the range of doubles. -/
  | outOfDoubleRange
  /-- An upgrade mode is none of the known ones. -/
  | unknownUpgradeMode (shown : String)
  /-- There is no entry or member of this name. -/
  | noSuchName (name : String)
  /-- A text is no JSON. -/
  | json (f : Json.Fault)
  /-- The text of this name is no YAML. -/
  | yaml (name : String) (f : Yaml.Fault)
  /-- There is no such file. -/
  | noSuchFile (path : String)
  /-- What was taken for a file is a directory. -/
  | isDirectory (path : String)
  /-- The validators refuse a resource. -/
  | rejected (reason : String)
  /-- There is no deployment of this name. -/
  | noSuchDeployment (name : String)
  /-- A call to the cluster failed. -/
  | cluster (reason : String)
  /-- A call to the cluster did not answer in time. -/
  | clusterTimeout (reason : String)
  /-- What was observed contradicts what must hold. -/
  | invariant (reason : String)
  /-- Kubernetes answered with this status. -/
  | api (status : Int)
  /-- The user stopped the program. -/
  | interrupted
deriving DecidableEq, Inhabited

/-- What a user is told about a failure. -/
def Failure.message : Failure → String
  | mismatch m => m.message
  | memory f => f.message
  | duration f => f.message
  | host f => f.message
  | notAnInteger text => "invalid literal for int() with base 10: " ++ quoted text
  | notInBase base text =>
    "invalid literal for int() with base " ++ toString base ++ ": " ++ quoted text
  | noDigits => "string index out of range"
  | calendar f => f.message
  | notANumber text => "could not convert string to float: " ++ quoted text
  | integerOfNan => "cannot convert float NaN to integer"
  | integerOfInfinity => "cannot convert float infinity to integer"
  | outOfDoubleRange => "int too large to convert to float"
  | unknownUpgradeMode shown => "Unknown upgrade mode: " ++ shown
  | noSuchName name => quoted name
  | json f => f.message
  | yaml name f => f.message name
  | noSuchFile path => "[Errno 2] No such file or directory: " ++ quoted path
  | isDirectory path => "[Errno 21] Is a directory: " ++ quoted path
  | rejected reason => reason
  | noSuchDeployment name => "FlinkDeployment " ++ name ++ " not found"
  | cluster reason => reason
  | clusterTimeout reason => reason
  | invariant reason => reason
  | api status => "(" ++ toString status ++ ")\nReason: None\n"
  | interrupted => ""

/-- A value of the kind of `v` lacks a member that was asked for. -/
def Failure.lacks (v : Value) (member : String) : Failure :=
  .mismatch (.lacks v.kind member)

/-- The outcome of a step that may fail. -/
abbrev Outcome (α : Type) := Except Failure α

/-- A reader's result as an outcome. -/
def Outcome.ofExcept {ε α : Type} (cause : ε → Failure) (r : Except ε α) : Outcome α :=
  r.mapError cause

instance decidableEqOutcome {ε α : Type} [DecidableEq ε] [DecidableEq α] : DecidableEq (Except ε α)
  | .ok a, .ok b => decidable_of_iff (a = b) (by simp)
  | .error a, .error b => decidable_of_iff (a = b) (by simp)
  | .ok _, .error _ => isFalse (by simp)
  | .error _, .ok _ => isFalse (by simp)

end FlinkSteward
