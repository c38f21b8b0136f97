import FlinkSteward.Command.Arguments

/-!
# Commands

What users can ask for on the command line, and how they ask for it.

- `Command`, `Invocation`: what is asked for
- `Invocation.ofWords`: reads a command line
-/

namespace FlinkSteward

/-- What users can ask for. -/
inductive Command where
  /-- A table of all clusters. -/
  | list
  /-- What was observed of a cluster, if verbose with all details. -/
  | status (name : String) (isVerbose : Bool)
  /-- Whether the validators accept a manifest. -/
  | validate (file : String) (session : Option String)
  /-- Suspends the job of a cluster, and may wait for it for a number of seconds. -/
  | suspend (name : String) (wait : Option Int)
  /-- Resumes the job of a cluster, and may wait for it for a number of seconds. -/
  | resume (name : String) (wait : Option Int)
  /-- Takes a savepoint of the job of a cluster. -/
  | savepoint (name : String)
deriving DecidableEq, Inhabited

/-- A command with what holds for all commands. -/
structure Invocation where
  /-- The namespace of the clusters. -/
  space : String := "default"
  /-- The directory of the default configuration. -/
  directory : Option String := none
  /-- The command. -/
  command : Command
deriving DecidableEq, Inhabited

namespace Command

/-- The words for commands. -/
inductive Verb where
  | list
  | status
  | validate
  | suspend
  | resume
  | savepoint
deriving DecidableEq, Inhabited

namespace Verb

/-- All words for commands. -/
def all : List Verb := [list, status, validate, suspend, resume, savepoint]

/-- A word as it is written. -/
def text : Verb → String
  | list => "list"
  | status => "status"
  | validate => "validate"
  | suspend => "suspend"
  | resume => "resume"
  | savepoint => "savepoint"

/-- The word of a text. -/
def ofText? (s : String) : Option Verb :=
  all.find? fun v => v.text = s

/-- The options of a command besides help. -/
def switches : Verb → List Switch
  | list | savepoint => []
  | status => [{ long := "verbose", letter := some 'v' }]
  | validate => [{ long := "session-file", content := .text }]
  | suspend | resume =>
    [{ long := "wait", letter := some 'w' },
      { long := "timeout", letter := some 't', content := .integer }]

/-- What the words behind a command may be. -/
def grammar (v : Verb) : Grammar where
  switches := .help :: v.switches
  operands := if v = list then .none else .one

/-- For how many seconds a command waits for a job, if it does. -/
def waitIn (r : Reading) (seconds : Int) : Option Int :=
  if r.has "wait" then some (((r.last? "timeout").bind Integer.ofText?).getD seconds) else none

/-- The command of what is behind its word. -/
def command (r : Reading) : Verb → Except Stop Command
  | list => .ok .list
  | status => do return .status (← r.operand "name") (r.has "verbose")
  | validate => do return .validate (← r.operand "file") (r.last? "session-file")
  | suspend => do return .suspend (← r.operand "name") (waitIn r 120)
  | resume => do return .resume (← r.operand "name") (waitIn r 300)
  | savepoint => do return .savepoint (← r.operand "name")

end Verb

/-- What the words of a whole command line may be. -/
def grammar : Grammar where
  switches := [.help, { long := "namespace", letter := some 'n', content := .text },
    { long := "conf-dir", content := .text }]
  operands := .command

end Command

namespace Invocation

open Command

/-- What a command line asks for. -/
def ofWords (words : List String) : Except Stop Invocation := do
  let outer ← grammar.read words
  let word ← outer.operand "command"
  match Verb.ofText? word with
  | none => .error (.refused (.unknownCommand word))
  | some verb =>
    let inner ← verb.grammar.read (outer.operands.drop 1)
    let command ← verb.command inner
    match outer.surplus ++ inner.surplus with
    | [] =>
      return {
        space := (outer.last? "namespace").getD "default"
        directory := outer.last? "conf-dir"
        command }
    | surplus => .error (.refused (.surplus surplus))

/-- The files that a command reads. -/
def files (i : Invocation) : List String :=
  match i.command with
  | .validate file session => file :: session.toList
  | _ => []

example : ofWords ["-n", "team", "status", "a", "-v"] =
    .ok { space := "team", command := .status "a" true } := rfl

example : ofWords ["suspend", "a", "-wt5"] = .ok { command := .suspend "a" (some 5) } := rfl

example : ofWords ["suspend", "a", "--ti", "-3", "-w"] =
    .ok { command := .suspend "a" (some (-3)) } := rfl

example : ofWords ["status", "--", "-x"] = .ok { command := .status "-x" false } := rfl

example : ofWords ["status", "a", "-n", "team"] =
    .error (.refused (.surplus ["-n", "team"])) := rfl

end Invocation

end FlinkSteward
