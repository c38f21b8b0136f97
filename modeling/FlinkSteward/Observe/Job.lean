import FlinkSteward.Control.Jobs
import FlinkSteward.Text.Blank
import FlinkSteward.Text.CaseMap

/-!
# Observing a job

The tracked job is looked up in the listing of its cluster, by an id that may be written in either
case and with blanks around it. When the listing takes too long, what the caller wants done is done.

- `normalizedId`: an id in the form in which ids are compared
- `matchingJob`: the job of a listing that has an id
- `Operator.observeJob`: the observation
-/

namespace FlinkSteward

open FlinkSteward.Text

/-- An id of a job in the form in which ids are compared. -/
def normalizedId (id : String) : String :=
  lower (strip id)

/-- The failure for an id that several jobs have. -/
def severalJobs (id : String) (count : Nat) : Failure :=
  .invariant ("Expected one job for JobID: " ++ id ++ ", but " ++ toString count ++ " found")

/-- The job of a listing that has an id, if there is one; there may not be two. -/
def matchingJob (id : String) (jobs : List JobReport) : Outcome (Option JobReport) :=
  match jobs.filter fun j => normalizedId j.id.shown = normalizedId id with
  | [] => .ok none
  | [j] => .ok (some j)
  | several => .error (severalJobs id several.length)

/-- What was observed of a job after a report at a time. -/
def JobStatus.observed (s : JobStatus) (report : JobReport) (time : Int) : JobStatus :=
  { s with
    state := report.state.nonNull?
    jobName := report.name.nonNull?
    startTime := some report.startTime.shown
    updateTime := some (toString time) }

/-- Whether a call did not answer in time. -/
def isTimeout : Failure → Bool
  | .clusterTimeout _ => true
  | _ => false

/-- Whether so many seconds are more than a budget, if there is one. -/
def isOverBudget (budget : Option Duration) (elapsed : Double) : Bool :=
  budget.any fun b => elapsed.compare? b.seconds = some .gt

namespace Operator

variable {ρ σ : Type} [Resource ρ]

/-- Observes the tracked job, and gives whether the cluster has it. If listing the jobs takes longer
than the budget or does not answer in time, `onTimeout` comes before the rest. -/
def observeJob (o : Operator σ) (conf : Config) (budget : Option Duration)
    (onTimeout : Action (ρ × σ) Unit) : Action (ρ × σ) Bool := do
  match (← Subject.job).jobId with
  | none => return false
  | some id =>
    if id = "" then return false
    let start ← Subject.outside o.uptime
    let jobs ← (Subject.outside (o.listJobs conf)).beforeFailing isTimeout onTimeout
    let stop ← Subject.outside o.uptime
    if isOverBudget budget (stop.sub start) then onTimeout
    match ← .ofOutcome (matchingJob id jobs) with
    | none => return false
    | some report =>
      let now ← Subject.outside o.now
      Subject.modifyJob fun s => s.observed report now
      return true

end Operator

end FlinkSteward
