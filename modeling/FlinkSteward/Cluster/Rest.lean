import FlinkSteward.Cluster.Client
import FlinkSteward.Cluster.Http
import FlinkSteward.Config.Operator
import FlinkSteward.Json.Read
import FlinkSteward.Resource.Record
import FlinkSteward.Text.Lines
import FlinkSteward.Value.Access

/-!
# The REST client

A client that asks the JobManager over HTTP. A request fails when it is not answered with a success,
and failures to answer in time are kept apart. Stopping a job with a savepoint asks for the savepoint
again and again, until it is there, has failed, or time is up.

Time is of any type with sums and an order, so that it can be exact or be measured in doubles.

- `Network`: the requests that were sent, the answers to come, and the clock
- `Rest.client`: the client
-/

namespace FlinkSteward

open FlinkSteward.Text

/-- Points in time, and spans between them. -/
class Time (τ : Type) where
  /-- A point in time a span later. -/
  add : τ → τ → τ
  /-- The span from the second point in time to the first. -/
  sub : τ → τ → τ
  /-- Whether the first is as long as the second, or longer. -/
  atLeast : τ → τ → Bool
  /-- As many steps as are needed to pass a span. -/
  steps (span step : τ) : Nat
  /-- The written form. -/
  text : τ → String

/-- Enough steps of a number to pass another one: twice their quotient, since sums are rounded. -/
def Number.steps (span step : Number) : Nat :=
  match span.toDouble?, step.toDouble? with
  | some a, some b => if b.units ≤ 0 then 0 else (2 * (a.units / b.units)).toNat + 2
  | _, _ => 0

instance : Time Number where
  add a b := (a.add? b).getD (.real .nan)
  sub a b := (a.sub? b).getD (.real .nan)
  atLeast a b := b.le a
  steps := Number.steps
  text := Number.text

/-- The network of a client: the answer to each request by its number, what was sent, and the clock. -/
structure Network (τ : Type) where
  /-- The answer to the request that so many came before. -/
  answers : Nat → Http.Answer
  /-- The requests that were sent, in order. -/
  sent : List Http.Request
  /-- The time. -/
  now : τ

namespace Rest

/-- What a client is set up with. -/
structure Settings (τ : Type) where
  /-- The address of the JobManager. -/
  baseUrl : String
  /-- How long a request may take. -/
  timeout : τ
  /-- How long stopping a job may take. -/
  stopTimeout : τ
  /-- The time between two looks at a savepoint. -/
  pollInterval : τ

variable {τ : Type}

/-- Sends a request. -/
def send (r : Http.Request) : Action (Network τ) Http.Answer :=
  .ofRun fun n => (.ok (n.answers n.sent.length), { n with sent := n.sent ++ [r] })

/-- Lets time pass. -/
def sleep [Time τ] (span : τ) : Action (Network τ) Unit :=
  .change fun n => { n with now := Time.add n.now span }

/-- Sends a request for a path, and gives the text of a successful answer. -/
def request (s : Settings τ) (method path : String) (query : Option String) (body : Option Value) :
    Action (Network τ) String := do
  let url := Http.addressOf s.baseUrl path query
  let what := method ++ " " ++ s.baseUrl ++ path
  match ← send ⟨method, url, body⟩ with
  | .timeout message => .fail (.clusterTimeout (what ++ " timed out: " ++ message))
  | .broken message => .fail (.cluster (what ++ " failed: " ++ message))
  | .response status text location =>
    if Http.isSuccess status then return text
    else .fail (.cluster (what ++ " failed: " ++ Http.refusal status url location))

/-- The JSON data of an answer, in front of which a byte order mark may stand. -/
def dataOf (text : String) : Outcome Value :=
  let cs := text.toList
  let cs := if cs.head? = some (Char.ofNat 0xfeff) then cs.drop 1 else cs
  Outcome.ofExcept .json (Json.read (String.ofList cs))

/-- A job of a listing. -/
def jobReport (v : Value) : Outcome JobReport := do
  return {
    id := ← v.item "jid"
    name := ← v.entry "name" (.text "")
    state := ← v.entry "state" (.text "UNKNOWN")
    startTime := .int (← (← v.entry "start-time" (.int 0)).toInteger) }

/-- The jobs of a listing. -/
def jobReports (v : Value) : Outcome (List JobReport) := do
  let jobs ← v.entry "jobs" (.list [])
  (← Record.itemsOf jobs).mapM jobReport

/-- The cause of a failure: the first line of its trace, or else its class. -/
def causeOf (failure : Value) : Outcome Value := do
  let trace ← failure.entry "stack-trace" .null
  let trace ← if trace.isTruthy then Config.stripped trace else .ok ""
  let cause ← if trace ≠ "" then .ok (Value.text (firstLine trace)) else failure.entry "class" .null
  return if cause.isTruthy then cause else .text "unknown failure"

/-- What an answer says about a savepoint. -/
def pollOf (v : Value) : Outcome SavepointPoll := do
  let status ← v.entry "status" (.map [])
  if (← status.entry "id" .null) ≠ .text "COMPLETED" then return .pending
  let operation ← v.entry "operation" .null
  let operation := if operation.isTruthy then operation else .map []
  let failure ← operation.entry "failure-cause" .null
  if failure.isTruthy then return .failed (← causeOf failure)
  else return .completed (← operation.entry "location" .null)

/-- The path of a job. -/
def jobPath (job : Value) : String :=
  "/jobs/" ++ job.shown

/-- Data for a request, with the directory if there is one. -/
def bodyOf (flag : String) (b : Bool) (key : String) (directory : Option String) : Value :=
  .map ((flag, .bool b) :: match directory with
    | some d => if d = "" then [] else [(key, .text d)]
    | none => [])

/-- The jobs of the cluster. -/
def listJobs (s : Settings τ) : Action (Network τ) (List JobReport) := do
  let text ← request s "GET" "/jobs/overview" none none
  .ofOutcome (dataOf text >>= jobReports)

/-- Cancels a job. -/
def cancel (s : Settings τ) (job : Value) : Action (Network τ) Unit := do
  let _ ← request s "PATCH" (jobPath job) (some "mode=cancel") none

/-- What became of a savepoint. -/
def savepointStatus (s : Settings τ) (job trigger : Value) : Action (Network τ) SavepointPoll := do
  let text ← request s "GET" (jobPath job ++ "/savepoints/" ++ trigger.shown) none none
  .ofOutcome (dataOf text >>= pollOf)

/-- The failure of a stop that takes too long. -/
def stopTimedOut [Time τ] (s : Settings τ) (job : Value) : Failure :=
  .clusterTimeout ("Stop-with-savepoint of job " ++ job.shown ++ " did not complete within " ++
    Time.text s.stopTimeout ++ "s")

/-- The failure of a stop whose savepoint failed. -/
def stopFailed (job cause : Value) : Failure :=
  .cluster ("Stop-with-savepoint of job " ++ job.shown ++ " failed: " ++ cause.shown)

/-- Waits for the savepoint of a stop that began at `start`, with at most so many looks. -/
def awaitSavepoint [Time τ] (s : Settings τ) (job trigger : Value) (start : τ) :
    Nat → Action (Network τ) Value
  | 0 => .fail (stopTimedOut s job)
  | looks + 1 => do
    match ← savepointStatus s job trigger with
    | .failed cause => .fail (stopFailed job cause)
    | .completed location => return location
    | .pending =>
      let now ← .read Network.now
      if Time.atLeast (Time.sub now start) s.stopTimeout then .fail (stopTimedOut s job)
      else do
        sleep s.pollInterval
        awaitSavepoint s job trigger start looks

/-- Stops a job with a savepoint. -/
def stopWithSavepoint [Time τ] (s : Settings τ) (job : Value) (drain : Bool)
    (directory : Option String) : Action (Network τ) Value := do
  let body := bodyOf "drain" drain "targetDirectory" directory
  let text ← request s "POST" (jobPath job ++ "/stop") none (some body)
  let trigger ← .ofOutcome (dataOf text >>= fun v => v.item "request-id")
  let start ← .read Network.now
  awaitSavepoint s job trigger start (Time.steps s.stopTimeout s.pollInterval + 1)

/-- Asks for a savepoint. -/
def triggerSavepoint (s : Settings τ) (job : Value) (directory : Option String) (cancel : Bool) :
    Action (Network τ) Value := do
  let body := bodyOf "cancel-job" cancel "target-directory" directory
  let text ← request s "POST" (jobPath job ++ "/savepoints") none (some body)
  .ofOutcome (dataOf text >>= fun v => v.item "request-id")

/-- The client of a JobManager. -/
def client [Time τ] (s : Settings τ) : Client (Network τ) where
  listJobs := listJobs s
  cancel := cancel s
  stopWithSavepoint := stopWithSavepoint s
  triggerSavepoint := triggerSavepoint s
  savepointStatus := savepointStatus s
  close := pure ()

/-- The settings of the client of a cluster. -/
def settingsOf (operator : OperatorConfig) (conf : Config) : Settings Number where
  baseUrl := conf.restUrl
  timeout := .real operator.clientTimeout.seconds
  stopTimeout := .real operator.cancelTimeout.seconds
  pollInterval := .real (Double.ofRatio 1 1)

end Rest

end FlinkSteward
