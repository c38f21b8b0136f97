import FlinkSteward.Control.Reconcile
import FlinkSteward.Proofs.Cluster.Rest
import FlinkSteward.Proofs.Subject
import FlinkSteward.Simulation.Script

/-!
# Stopping jobs

A stop that fails leaves the resource as it was. One that succeeds leaves the job suspended, and its
savepoint recorded: provided that the cluster told where that is, which a completed savepoint need
not tell.

## Key results

- `Operator.stopJob_savepoint_eq_ok`: what the network told in a stop with a savepoint
- `Operator.suspend_runOn`, `Operator.suspend_eq_ok`: a stop and what it records
- `suspend_records_savepoint_iff`: when the savepoint of a stop is recorded
-/

namespace FlinkSteward

open Simulation

variable {ρ σ τ : Type} {o : Operator σ} {conf : Config} {mode : UpgradeMode}

/-! ## Ends of jobs -/

namespace Operator

variable {job place : Value} {w v : σ}

/-- `Operator.stopJob` gives a place for a stop with a savepoint only. -/
theorem stopJob_eq_null (hmode : mode ≠ .savepoint)
    (h : (o.stopJob job mode conf).runOn w = (.ok place, v)) : place = .null := by
  cases mode with
  | savepoint => exact absurd rfl hmode
  | stateless =>
    obtain ⟨_, _, -, hlast⟩ := Action.runOn_bind_eq_ok.1 h
    exact (Action.runOn_pure_eq_ok.1 hlast).1.symm
  | lastState =>
    rw [stopJob] at h
    split at h
    · exact nomatch h
    · obtain ⟨_, _, -, hlast⟩ := Action.runOn_bind_eq_ok.1 h
      exact (Action.runOn_pure_eq_ok.1 hlast).1.symm

/-- Over the network, `Operator.stopJob` with a savepoint gives the place that the last answer told
(`Rest.Stopped`). -/
theorem stopJob_savepoint_eq_ok [Time τ] {p : Part σ (Network τ)} {s : Rest.Settings τ}
    (hconnect : o.connect conf = pure ((Rest.client s).onPart p))
    (h : (o.stopJob job .savepoint conf).runOn w = (.ok place, v)) :
    ∃ directory m, conf.savepointDirectory = .ok directory ∧
      Rest.Stopped s job false directory (p.get w) m place := by
  obtain ⟨directory, u, hread, huse⟩ := Action.runOn_bind_eq_ok.1 h
  obtain ⟨hdirectory, rfl⟩ := Action.runOn_ofOutcome_eq_ok.1 hread
  obtain ⟨u, hstopped⟩ := Client.use_eq_ok hconnect huse
  exact ⟨directory, _, hdirectory,
    Rest.stopWithSavepoint_eq_ok (Prod.ext (Prod.mk.inj hstopped).1 rfl)⟩

end Operator

/-! ## What is recorded -/

/-- A job after it was stopped at a time, with its savepoint at a place if there is one. -/
def JobStatus.stopped (s : JobStatus) (place : Value) (time : Int) : JobStatus :=
  { s with
    state := some (.text "SUSPENDED")
    savepoints :=
      if place = .null then s.savepoints
      else s.savepoints.complete { timeStamp := .int time, location := some place } none }

/-- Another savepoint was recorded as `lastSavepoint` and in the `history`, which is at the place, and
none is pending. -/
def SavepointInfo.Gains (s t : SavepointInfo) (place : Value) : Prop :=
  ∃ taken : Savepoint, taken.location = some place ∧ t.lastSavepoint = some taken ∧
    t.history = s.history ++ [some taken] ∧ t.isPending = false

namespace JobStatus

variable {s : JobStatus} {place : Value} {time : Int}

@[simp] theorem stopped_null :
    s.stopped .null time = { s with state := some (.text "SUSPENDED") } := rfl

theorem stopped_of_ne (hplace : place ≠ .null) :
    s.stopped place time = { s with
      state := some (.text "SUSPENDED")
      savepoints :=
        s.savepoints.complete { timeStamp := .int time, location := some place } none } := by
  rw [stopped, if_neg hplace]

/-- A job that is `stopped` gains a savepoint exactly when there is a place for it. -/
theorem gains_stopped_iff :
    s.savepoints.Gains (s.stopped place time).savepoints place ↔ place ≠ .null := by
  constructor
  · -- without a place the history stays as it is
    rintro ⟨taken, -, -, hhistory, -⟩ rfl
    simp at hhistory
  · intro hplace
    rw [stopped_of_ne hplace]
    exact ⟨_, rfl, rfl, rfl, rfl⟩

end JobStatus

namespace Operator

variable [Resource ρ] [LawfulResource ρ]

/-- `Operator.suspend` stops the job of a resource first, and records that only then. -/
theorem suspend_runOn (o : Operator σ) (mode : UpgradeMode) (conf : Config) (r : ρ) (w : σ) :
    (o.suspend mode conf).runOn (r, w) =
      match (o.stopJob (Resource.job r).jobIdValue mode conf).runOn w with
      | (.error f, v) => (.error f, r, v)
      | (.ok place, v) =>
        match o.now.runOn v with
        | (.error f, u) => (.error f, r, u)
        | (.ok time, u) =>
          (.ok place, Resource.withJob r ((Resource.job r).stopped place time), u) := by
  -- the stop and the clock come before anything is recorded
  simp only [suspend, Action.runOn_bind, Subject.runOn_job, Subject.runOn_outside]
  rcases (o.stopJob (Resource.job r).jobIdValue mode conf).runOn w with ⟨_ | place, v⟩
  · rfl
  simp only [Subject.runOn_outside]
  rcases o.now.runOn v with ⟨_ | time, u⟩
  · rfl
  -- from here on nothing fails, and the savepoint is recorded on top of the state
  simp only [Subject.modifyJob, Subject.runOn_modify]
  split
  · simp
  · rename_i hplace
    simp only [JobStatus.stopped_of_ne hplace, Subject.modifySavepoints, Subject.modifyJob,
      Action.runOn_bind, Subject.runOn_modify, Action.runOn_pure, LawfulResource.job_withJob,
      LawfulResource.withJob_withJob]

variable {r r' : ρ} {w w' : σ}

theorem suspend_eq_ok {place : Value} :
    (o.suspend mode conf).runOn (r, w) = (.ok place, r', w') ↔
      ∃ v time, (o.stopJob (Resource.job r).jobIdValue mode conf).runOn w = (.ok place, v) ∧
        o.now.runOn v = (.ok time, w') ∧
        r' = Resource.withJob r ((Resource.job r).stopped place time) := by
  rw [suspend_runOn]
  constructor
  · intro h
    split at h
    · exact nomatch h
    · rename_i v hstop
      split at h
      · exact nomatch h
      · rename_i time _ hnow
        simp only [Prod.mk.injEq, Except.ok.injEq] at h
        obtain ⟨rfl, rfl, rfl⟩ := h
        exact ⟨v, time, hstop, hnow, rfl⟩
  · rintro ⟨v, time, hstop, hnow, rfl⟩
    rw [hstop]
    dsimp only
    rw [hnow]

/-- An `Operator.suspend` that fails leaves the resource as it was. -/
theorem suspend_eq_error {f : Failure}
    (h : (o.suspend mode conf).runOn (r, w) = (.error f, r', w')) : r' = r := by
  rw [suspend_runOn] at h
  split at h
  · exact (Prod.mk.inj (Prod.mk.inj h).2).1.symm
  · split at h
    · exact (Prod.mk.inj (Prod.mk.inj h).2).1.symm
    · exact nomatch h

end Operator

/-- `Operator.suspend` over the network fails and leaves the resource as it was, or suspends the job
and changes nothing else of it but its savepoints. Its result is a place for the mode `savepoint`
alone, where a completed savepoint was told it (`Rest.Stopped`). The savepoints `Gains` one at that
place exactly when the result is a place, and stay the same when it is null. -/
theorem suspend_records_savepoint_iff [Resource ρ] [LawfulResource ρ] [Time τ]
    {p : Part σ (Network τ)} {s : Rest.Settings τ}
    (hconnect : o.connect conf = pure ((Rest.client s).onPart p)) {r r' : ρ} {w w' : σ}
    {outcome : Outcome Value}
    (h : (o.suspend mode conf).runOn (r, w) = (outcome, r', w')) :
    match outcome with
    | .error _ => r' = r
    | .ok place =>
      let before := Resource.job r
      let after := Resource.job r'
      r' = Resource.withJob r after ∧
      after = { before with
        state := some (.text "SUSPENDED")
        savepoints := after.savepoints } ∧
      (mode ≠ .savepoint → place = .null) ∧
      (mode = .savepoint → ∃ directory m, conf.savepointDirectory = .ok directory ∧
        Rest.Stopped s before.jobIdValue false directory (p.get w) m place) ∧
      (before.savepoints.Gains after.savepoints place ↔ place ≠ .null) ∧
      (place = .null → after.savepoints = before.savepoints) := by
  cases outcome with
  | error f => exact Operator.suspend_eq_error h
  | ok place =>
    obtain ⟨v, time, hstop, -, rfl⟩ := Operator.suspend_eq_ok.1 h
    dsimp only
    rw [LawfulResource.job_withJob]
    refine ⟨rfl, rfl, fun hmode => Operator.stopJob_eq_null hmode hstop, ?_,
      JobStatus.gains_stopped_iff, ?_⟩
    · rintro rfl
      exact Operator.stopJob_savepoint_eq_ok hconnect hstop
    · rintro rfl
      rfl

/-- An operator that reaches clusters over the network, and has the rest of its world in memory. -/
def networkOperator : Operator (Network Number × World) :=
  let o := World.operator (.text "default") {} []
  { o.onPart .second with
    connect := fun conf => pure ((Rest.client (Rest.settingsOf o.settings conf)).onPart .first) }

/-- A network that carries out a stop, and completes its savepoint without a place. -/
def silentNetwork : Network Number where
  answers
    | 0 => .response 202 "\x7b\"request-id\":\"s1\"\x7d" none
    | _ => .response 200 "\x7b\"status\":\x7b\"id\":\"COMPLETED\"\x7d\x7d" none
  sent := []
  now := .int 0

/-- A cluster whose job runs, and which a savepoint was asked of. -/
def runningDeployment : Deployment where
  status.job := {
    jobId := some "a1"
    state := some (.text "RUNNING")
    savepoints := { triggerId := some (.text "t1") } }

/-- A job whose savepoint was completed without a place is suspended, with no savepoint recorded and
another one still pending. -/
theorem silent_stop_records_nothing :
    ∃ r' w', (networkOperator.suspend .savepoint []).runOn
        (runningDeployment, silentNetwork, { files := { root := "" } }) = (.ok .null, r', w') ∧
      r'.status.job.state = some (.text "SUSPENDED") ∧ r'.status.job.savepoints.isPending = true ∧
      ¬ runningDeployment.status.job.savepoints.Gains r'.status.job.savepoints .null := by
  have hplace : ((networkOperator.suspend .savepoint []).runOn
      (runningDeployment, silentNetwork, { files := { root := "" } })).1 = .ok .null := by
    decide +kernel
  rcases hrun : (networkOperator.suspend .savepoint []).runOn
    (runningDeployment, silentNetwork, { files := { root := "" } }) with ⟨outcome, r', w'⟩
  rw [hrun] at hplace
  obtain rfl : outcome = .ok .null := hplace
  obtain ⟨-, hjob, -, -, hgains, hkept⟩ := suspend_records_savepoint_iff
    (show networkOperator.connect [] = pure ((Rest.client (Rest.settingsOf {} [])).onPart .first)
      from rfl) hrun
  refine ⟨r', w', rfl, congrArg JobStatus.state hjob, ?_, fun h => hgains.1 h rfl⟩
  exact (congrArg SavepointInfo.isPending (hkept rfl)).trans rfl

end FlinkSteward
