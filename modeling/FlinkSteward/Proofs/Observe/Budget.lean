import FlinkSteward.Proofs.Control.Suspend
import FlinkSteward.Proofs.Number.Exact
import FlinkSteward.Proofs.Observe.Look
import FlinkSteward.Proofs.Resource.Completed

/-!
# How long savepoints stay pending

A savepoint that is found pending again and again is given up when its time is over. The time counts
from the moment at which it was asked for, or else from the first look, and no later look moves that
moment.

## Key results

- `Operator.observeSavepoint_runOn_of_pending`, `Operator.observeSavepoint_of_pending`: a look that
  finds the savepoint pending
- `PendingPasses.savepoints`: many of them
- `savepoint_pending_iff_within_budget`: what looks say and leave, one by one and many together
-/

namespace FlinkSteward

open Simulation

/-! ## Looks -/

theorem isOverdue_int (budget : Duration) (now since : Int) :
    isOverdue budget (.int now) (.int since) =
      .ok ((Number.real budget.millis).lt (.int (now - since))) :=
  rfl

/-- `observeSavepoint` while it is told that the savepoint is pending and knows since when. -/
theorem Operator.observeSavepoint_runOn_of_pending {ρ σ : Type} [Resource ρ] [LawfulResource ρ]
    {o : Operator σ} {job : Value} {conf : Config} {r : ρ} {w v u : σ} {now since : Int}
    {budget : Duration} (hpending : (Resource.job r).savepoints.isPending = true)
    (hpoll : (o.pollSavepoint conf job
      (Value.ofOption (Resource.job r).savepoints.triggerId)).runOn w = (.ok .pending, v))
    (hnow : o.now.runOn v = (.ok now, u))
    (hbudget : conf.duration Config.savepointTimeoutKey o.settings.savepointTimeout = .ok budget)
    (hsince : (Resource.job r).savepoints.triggerTimestamp = some (.int since)) :
    (o.observeSavepoint job conf).runOn (r, w) =
      if (Number.real budget.millis).lt (.int (now - since)) then
        (.ok (some (savepointTimedOut (Value.ofOption (Resource.job r).savepoints.triggerId) job budget)),
          Resource.withJob r { Resource.job r with savepoints := (Resource.job r).savepoints.clear }, u)
      else (.ok none, r, u) := by
  simp only [observeSavepoint, Action.runOn_bind, Subject.runOn_job, hpending, Bool.true_eq_false,
    ↓reduceIte, Subject.runOn_outside, hpoll, observePending, hsince, Action.runOn_ofOutcome, hbudget,
    hnow, isOverdue_int]
  split <;> rfl

/-- `observeSavepoint` while it is told that the savepoint is pending and has a budget that `Lasts`
for so many milliseconds. -/
theorem Operator.observeSavepoint_of_pending {ρ σ : Type} [Resource ρ] [LawfulResource ρ]
    {o : Operator σ} {job : Value} {conf : Config} {r : ρ} {w v u : σ} {now since millis : Int}
    {budget : Duration} (hpending : (Resource.job r).savepoints.isPending = true)
    (hpoll : (o.pollSavepoint conf job
      (Value.ofOption (Resource.job r).savepoints.triggerId)).runOn w = (.ok .pending, v))
    (hnow : o.now.runOn v = (.ok now, u))
    (hbudget : conf.duration Config.savepointTimeoutKey o.settings.savepointTimeout = .ok budget)
    (hlasts : budget.Lasts millis) (hmillis : 0 ≤ millis)
    (hsince : (Resource.job r).savepoints.triggerTimestamp.getD (.int now) = .int since) :
    ((o.observeSavepoint job conf).runOn (r, w)).2.1 = Resource.withJob r { Resource.job r with
      savepoints := if millis < now - since then (Resource.job r).savepoints.clear
        else (Resource.job r).savepoints.waiting now } := by
  cases htime : (Resource.job r).savepoints.triggerTimestamp with
  | none =>
    -- the time counts from now, so that none of it has passed
    obtain rfl : now = since := by simpa [htime] using hsince
    rw [if_neg (by omega), SavepointInfo.waiting_of_none htime]
    simp only [observeSavepoint, Action.runOn_bind, Subject.runOn_job, hpending, Bool.true_eq_false,
      ↓reduceIte, Subject.runOn_outside, hpoll, observePending, htime, hnow]
    rfl
  | some start =>
    obtain rfl : start = .int since := by simpa [htime] using hsince
    rw [observeSavepoint_runOn_of_pending hpending hpoll hnow hbudget htime]
    by_cases hover : millis < now - since
    · rw [if_pos hover, if_pos ((hlasts _).2 hover)]
    · rw [if_neg hover, if_neg (mt (hlasts _).1 hover), SavepointInfo.waiting_of_some htime,
        LawfulResource.withJob_job]

/-! ## Many looks -/

section Passes

variable {ρ : Type} [Resource ρ] {budget : Duration} {millis first now since : Int} {r s : ρ}

/-- A call of `Operator.observeSavepoint` at a time, with so much time for the pending savepoint,
which is found still pending. -/
def PendingPass (budget : Duration) (now : Int) (r s : ρ) : Prop :=
  ∃ (σ : Type) (o : Operator σ) (job : Value) (conf : Config) (w : σ),
    conf.duration Config.savepointTimeoutKey o.settings.savepointTimeout = .ok budget ∧
    ((Resource.job r).savepoints.isPending = true → ∃ v u,
      (o.pollSavepoint conf job (Value.ofOption (Resource.job r).savepoints.triggerId)).runOn w =
        (.ok .pending, v) ∧
      o.now.runOn v = (.ok now, u)) ∧
    s = ((o.observeSavepoint job conf).runOn (r, w)).2.1

/-- Looks (`PendingPass`) with the same budget, from the first time to the last one on a clock that
never goes back. -/
inductive PendingPasses (budget : Duration) (first : Int) (r : ρ) : Int → ρ → Prop where
  | one {s : ρ} (h : PendingPass budget first r s) : PendingPasses budget first r first s
  | next {now later : Int} {s t : ρ} (h : PendingPasses budget first r now s) (hle : now ≤ later)
    (hpass : PendingPass budget later s t) : PendingPasses budget first r later t

/-- A `PendingPass` does nothing to a savepoint that is pending no more. -/
theorem PendingPass.savepoints_of_idle (h : PendingPass budget now r s)
    (hidle : (Resource.job r).savepoints.isPending = false) :
    (Resource.job s).savepoints = (Resource.job r).savepoints := by
  obtain ⟨σ, o, job, conf, w, -, -, rfl⟩ := h
  simp [Operator.observeSavepoint, Action.runOn_bind, hidle]

variable [LawfulResource ρ]

/-- A savepoint that is found pending by a `PendingPass` is given up when its time is over, and else
waits. -/
theorem PendingPass.savepoints (h : PendingPass budget now r s) (hlasts : budget.Lasts millis)
    (hmillis : 0 ≤ millis) (hpending : (Resource.job r).savepoints.isPending = true)
    (hsince : (Resource.job r).savepoints.triggerTimestamp.getD (.int now) = .int since) :
    (Resource.job s).savepoints = if millis < now - since then (Resource.job r).savepoints.clear
      else (Resource.job r).savepoints.waiting now := by
  obtain ⟨σ, o, job, conf, w, hbudget, htold, rfl⟩ := h
  obtain ⟨v, u, hpoll, hnow⟩ := htold hpending
  rw [Operator.observeSavepoint_of_pending hpending hpoll hnow hbudget hlasts hmillis hsince,
    LawfulResource.job_withJob]

/-- However often it is found pending (`PendingPasses`), the savepoint waits until its time is over,
which counts from one moment, and then it is given up. -/
theorem PendingPasses.savepoints (h : PendingPasses budget first r now s)
    (hlasts : budget.Lasts millis) (hmillis : 0 ≤ millis)
    (hpending : (Resource.job r).savepoints.isPending = true)
    (hsince : (Resource.job r).savepoints.triggerTimestamp.getD (.int first) = .int since) :
    (Resource.job s).savepoints = if millis < now - since then (Resource.job r).savepoints.clear
      else (Resource.job r).savepoints.waiting first := by
  induction h with
  | one hpass => exact hpass.savepoints hlasts hmillis hpending hsince
  | @next now later s t _ hle hpass ih =>
    by_cases hover : millis < now - since
    · -- given up before, and time goes on
      rw [if_pos hover] at ih
      rw [hpass.savepoints_of_idle (by rw [ih, SavepointInfo.isPending_clear]), ih,
        if_pos (by omega)]
    · rw [if_neg hover] at ih
      rw [hpass.savepoints hlasts hmillis (by rw [ih, SavepointInfo.isPending_waiting, hpending])
        (by rw [ih, SavepointInfo.getD_triggerTimestamp_waiting, hsince]), ih,
        SavepointInfo.waiting_waiting]
      rfl

end Passes

/-- `Operator.observeSavepoint` leaves the savepoints of a job as they were when it fails. It gives a
message exactly when it takes the pending one away without recording a savepoint. It gives none
exactly when nothing was pending; or the savepoint is still pending, and nothing changes unless its
time counts from now; or the look `Records` one savepoint, with the time and what caused it, and
leaves none pending. A savepoint that is found pending again and again (`PendingPasses`) is so as long
as no more than the budget has passed since it was asked for. -/
theorem savepoint_pending_iff_within_budget {ρ : Type} [Resource ρ] [LawfulResource ρ] :
    (∀ {σ : Type} (o : Operator σ) (job : Value) (conf : Config) (r : ρ) (w : σ),
      let s := (Resource.job r).savepoints
      let poll := (o.pollSavepoint conf job (Value.ofOption s.triggerId)).runOn w
      let run := (o.observeSavepoint job conf).runOn (r, w)
      ∃ t, run.2.1 = Resource.withJob r { Resource.job r with savepoints := t } ∧
        match run.1 with
        | .error _ => t = s
        | .ok message =>
          (message.isSome = true ↔ s.isPending = true ∧
            t = { s with triggerId := none, triggerTimestamp := none, triggerType := none } ∧
            ¬ ∃ place, poll.1 = .ok (.completed place)) ∧
          (message = none ↔ s.isPending = false ∧ t = s ∨
            s.isPending = true ∧ ∃ now, o.now.runOn poll.2 = (.ok now, run.2.2) ∧
              (poll.1 = .ok .pending ∧
                t = { s with triggerTimestamp := s.triggerTimestamp.or (some (.int now)) } ∨
                ∃ place, poll.1 = .ok (.completed place) ∧
                  SavepointInfo.Records (some o.settings.historyLimit) {
                    timeStamp := .int now
                    location := place.nonNull?
                    trigger := s.triggerType.getD .unknown } s t))) ∧
    ∀ {budget : Duration} {millis first now since : Int} {r s : ρ}, budget.Lasts millis →
      0 ≤ millis → PendingPasses budget first r now s →
      (Resource.job r).savepoints.isPending = true →
      (Resource.job r).savepoints.triggerTimestamp.getD (.int first) = .int since →
      ((Resource.job s).savepoints.isPending = true ↔ now - since ≤ millis) := by
  constructor
  · intro σ o job conf r w
    obtain ⟨t, hleft, hlook⟩ := o.observeSavepoint_looks job conf r w
    dsimp only at hleft hlook ⊢
    refine ⟨t, hleft, ?_⟩
    rcases hrun : ((o.observeSavepoint job conf).runOn (r, w)).1 with f | message <;>
      rw [hrun] at hlook
    · exact hlook.eq_of_error
    · simp only [SavepointInfo.records_iff]
      exact ⟨hlook.isSome_iff, hlook.eq_none_iff⟩
  · intro budget millis first now since r s hlasts hmillis hpasses hpending hsince
    rw [hpasses.savepoints hlasts hmillis hpending hsince]
    by_cases hover : millis < now - since
    · rw [if_pos hover, SavepointInfo.isPending_clear]
      exact ⟨nofun, fun h => absurd h (by omega)⟩
    · rw [if_neg hover, SavepointInfo.isPending_waiting]
      exact ⟨fun _ => by omega, fun _ => hpending⟩

/-- A world whose clock shows a time, and whose cluster has finished no savepoint. -/
def worldAt (now : Int) : World :=
  { server := { now := now }, files := { root := "" } }

/-- A cluster after a look at its savepoints at a time. -/
def lookedAt (now : Int) (d : Deployment) : Deployment :=
  (((World.operator (.text "default") {} []).observeSavepoint (.text "a1") []).runOn
    (d, worldAt now)).2.1

/-- An operator that remembers two savepoints. -/
def carefulOperator : Operator World :=
  World.operator (.text "default") { historyLimit := 2 } []

/-- A cluster of whose job two savepoints are remembered, and a manual one is pending. -/
def remindedDeployment : Deployment where
  status.job.savepoints := {
    triggerId := some (.text "t2")
    triggerTimestamp := some (.int 1000)
    triggerType := some .manual
    history := [some { timeStamp := .int 10 }, some { timeStamp := .int 20 }] }

/-- A world whose cluster has finished that savepoint. -/
def finishedWorld : World :=
  { worldAt 5000 with cluster.savepoints := [(.text "t2", .completed (.text "file:///sp/2"))] }

/-- A savepoint of which nobody knows when it was asked for is pending for ten minutes from the first
look, and no millisecond longer. One that is found completed takes the place of the oldest in the
`history`. -/
theorem savepoint_pending_for_ten_minutes :
    ((lookedAt 601000 (lookedAt 1000 runningDeployment)).status.job.savepoints.isPending = true ∧
      (lookedAt 601001 (lookedAt 601000 (lookedAt 1000
        runningDeployment))).status.job.savepoints.isPending = false) ∧
    (((carefulOperator.observeSavepoint (.text "a1") []).runOn
      (remindedDeployment, finishedWorld)).2.1).status.job.savepoints.history =
        [some { timeStamp := .int 20 }, some {
          timeStamp := .int 5000
          location := some (.text "file:///sp/2")
          trigger := .manual }] := by
  constructor
  · have hpass : ∀ now (d : Deployment), PendingPass ⟨600 * 1000000⟩ now d (lookedAt now d) :=
      fun now d => ⟨World, World.operator (.text "default") {} [], .text "a1", [], worldAt now, rfl,
        fun _ => ⟨_, _, rfl, rfl⟩, rfl⟩
    have hlasts : (⟨600 * 1000000⟩ : Duration).Lasts 600000 :=
      Duration.lasts_seconds (n := 600) (by decide)
    have hlaw : ∀ {now : Int} {d : Deployment},
        PendingPasses ⟨600 * 1000000⟩ 1000 runningDeployment now d →
        (d.status.job.savepoints.isPending = true ↔ now - 1000 ≤ 600000) :=
      fun h => savepoint_pending_iff_within_budget.2 hlasts (by decide) h rfl rfl
    have hearly :=
      (PendingPasses.one (hpass 1000 runningDeployment)).next (by decide) (hpass 601000 _)
    have hlate := hearly.next (by decide) (hpass 601001 _)
    exact ⟨(hlaw hearly).2 (by decide), Bool.eq_false_iff.2 (mt (hlaw hlate).1 (by decide))⟩
  · obtain ⟨t, hleft, hlook⟩ := savepoint_pending_iff_within_budget.1 carefulOperator
      (.text "a1") [] remindedDeployment finishedWorld
    have hsilent : ((carefulOperator.observeSavepoint (.text "a1") []).runOn
        (remindedDeployment, finishedWorld)).1 = .ok none := by decide +kernel
    have hpoll : ((carefulOperator.pollSavepoint [] (.text "a1") (.text "t2")).runOn
        finishedWorld).1 = .ok (.completed (.text "file:///sp/2")) := by decide +kernel
    rw [hsilent] at hlook
    obtain ⟨hidle, -⟩ | ⟨-, now, hnow, ⟨hwaits, -⟩ | ⟨place, hplace, htaken⟩⟩ := hlook.2.1 rfl
    · exact nomatch hidle
    · exact nomatch hpoll.symm.trans hwaits
    · obtain rfl : Value.text "file:///sp/2" = place := by
        simpa using hpoll.symm.trans hplace
      obtain rfl : 5000 = now := Except.ok.inj (congrArg Prod.fst hnow)
      -- the latest two of three are left
      have hhistory := List.suffix_iff_eq_drop.1 htaken.history
      rw [htaken.length_history] at hhistory
      rw [hleft]
      exact hhistory

end FlinkSteward
