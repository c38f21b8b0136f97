import FlinkSteward.Command.Invocation
import FlinkSteward.Command.Report
import FlinkSteward.Manage.Folder
import FlinkSteward.Manage.Manager

/-!
# Running commands

A command changes clusters and writes lines. What was written before something failed stays written,
and the failure is written as well.

- `Setting`: what commands run in
- `Setting.run`: runs a command line
-/

namespace FlinkSteward.Command

/-- How a command ended. -/
inductive Exit where
  /-- It did what it was asked for. -/
  | success
  /-- It failed. -/
  | failure
  /-- The command line was wrong. -/
  | misuse
  /-- The user stopped it. -/
  | interrupted
deriving DecidableEq, Inhabited

/-- The code of an end. -/
def Exit.code : Exit → Nat
  | success => 0
  | failure => 1
  | misuse => 2
  | interrupted => 130

/-- What commands run in. -/
structure Setting (σ : Type) where
  /-- The files. -/
  folder : Folder
  /-- The directory of the default configuration, where the command line names none. -/
  directory : Option String
  /-- The connection to a namespace. -/
  connect : String → Kubernetes σ
  /-- The clock that waits go by. -/
  clock : Clock σ

/-- A step of a command, which beside its other effects may write. -/
abbrev Step (σ α : Type) := Action (String × σ) α

/-- Writes a line. -/
def say {σ : Type} (line : String) : Step σ Unit :=
  .change fun s => (s.1 ++ line ++ "\n", s.2)

/-- Writes lines. -/
def sayAll {σ : Type} : List String → Step σ Unit
  | [] => pure ()
  | line :: rest => do
    say line
    sayAll rest

/-- An action that does not write as a step. -/
def silently {σ α : Type} (a : Action σ α) : Step σ α :=
  a.onPart .second

/-- Writes the rows of clusters. -/
def sayRows {σ : Type} : List Value → Step σ Unit
  | [] => pure ()
  | manifest :: rest => do
    say (← .ofOutcome (Deployment.decode manifest >>= tableRow))
    sayRows rest

namespace Setting

variable {σ : Type}

/-- The default configuration. -/
def defaults (s : Setting σ) (i : Invocation) : Outcome Config :=
  s.folder.defaults ((i.directory.filter (· ≠ "")).or s.directory)

/-- The validators. -/
def registry (s : Setting σ) (i : Invocation) : Outcome Registry :=
  return Registry.create (← s.defaults i) []

/-- What changes clusters. -/
def manager (s : Setting σ) (i : Invocation) : Outcome (Manager σ) :=
  return ⟨s.connect i.space, ← s.registry i, s.clock⟩

/-- The objection of the validators to the manifest in a file. -/
def objection? (s : Setting σ) (i : Invocation) (file : String) (session : Option String) :
    Outcome (Option String) := do
  let registry ← s.registry i
  let manifest ← s.folder.resource file
  if manifest.field? "kind" = some (.text SessionJob.kind) then
    let session ← match session.filter (· ≠ "") with
      | none => pure none
      | some path => do
        let d ← Deployment.decode (← s.folder.resource path)
        pure (some d)
    registry.validateSessionJob (← SessionJob.decode manifest) session
  else registry.validateDeployment (← Deployment.decode manifest)

/-- Changes the job of a cluster, and may wait for its state. -/
def changeJob (s : Setting σ) (i : Invocation) (name announcement request state : String)
    (change : Manager σ → String → Action σ Unit) (wait : Option Int) : Step σ Exit := do
  let m ← .ofOutcome (s.manager i)
  say (Colour.yellow.paint (announcement ++ " " ++ name ++ "..."))
  silently (change m name)
  say (success (request ++ " request sent for " ++ name))
  match wait with
  | none => pure ()
  | some seconds => do
    say ("Waiting for " ++ state ++ " state...")
    let _ ← silently (m.await name (.text state) (.int seconds))
  return .success

/-- Does what is asked for. -/
def perform (s : Setting σ) (i : Invocation) : Step σ Exit :=
  match i.command with
  | .list => do
    say (Colour.blue.paint ("=== Flink Deployments in " ++ i.space ++ " ==="))
    match ← silently ((s.connect i.space).listDeployments .null) with
    | [] => say "  (no deployments found)"
    | manifests => do
      sayAll tableHead
      sayRows manifests
    return .success
  | .status name isVerbose => do
    match ← silently ((s.connect i.space).get Deployment.plural (.text name) .null) with
    | none => do
      say (setback ("FlinkDeployment " ++ name ++ " not found"))
      return .failure
    | some manifest => do
      let d ← .ofOutcome (Deployment.decode manifest)
      sayAll (statusLines d isVerbose)
      return .success
  | .validate file session => do
    match ← .ofOutcome (s.objection? i file session) with
    | some objection => do
      say (setback objection)
      return .failure
    | none => do
      say (success (file ++ " is valid"))
      return .success
  | .suspend name wait =>
    s.changeJob i name "Suspending" "Suspend" "SUSPENDED" Manager.suspend wait
  | .resume name wait =>
    s.changeJob i name "Resuming" "Resume" "RUNNING" Manager.resume wait
  | .savepoint name => do
    let m ← .ofOutcome (s.manager i)
    let nonce ← silently (m.requestSavepoint name)
    say (success ("Savepoint requested for " ++ name ++ " (nonce " ++ nonce.shown ++ ")"))
    return .success

/-- What is written about a failure, and how the command ends. -/
def lastWords : Failure → String × Exit
  | .interrupted => ("\nInterrupted", .interrupted)
  | .rejected reason => (setback ("Rejected: " ++ reason), .failure)
  | f => (setback ("Error: " ++ f.message), .failure)

/-- Runs a command; gives how it ended, what it wrote, and the state after it. -/
def runCommand (s : Setting σ) (i : Invocation) (state : σ) : Exit × String × σ :=
  match (s.perform i).runOn ("", state) with
  | (.ok exit, written, state) => (exit, written, state)
  | (.error f, written, state) => ((lastWords f).2, written ++ (lastWords f).1 ++ "\n", state)

/-- Runs a command line; a wrong one changes nothing. -/
def run (s : Setting σ) (words : List String) (state : σ) : Exit × String × σ :=
  match Invocation.ofWords words with
  | .ok i => s.runCommand i state
  | .error .help => (.success, "", state)
  | .error (.refused _) => (.misuse, "", state)

end Setting

end FlinkSteward.Command
