import FlinkSteward.Proofs.Control.Frame
import FlinkSteward.Proofs.Observe.Stable
import FlinkSteward.Proofs.Validation.Settled
import Mathlib.Logic.Relation

/-!
# Suspended jobs

A job that was stopped, and whose specification was recorded as suspended, is left alone by the passes
over its cluster. A job on a session cluster is not: nothing in a pass over it looks at whether it is
suspended. A savepoint that was pending before a stop without one is pending afterwards.

## Key results

- `Resource.Suspended`: resources whose job was last applied as suspended
- `Operator.Reaches`: whether something depends on the connections to clusters
- `Operator.observeDeployment_runOn_of_suspended`: all that is left of a pass over a cluster
- `Operator.observeSessionJob_reaches_iff`: when a pass over a job asks its cluster
- `suspended_job_rests`: what is known of both kinds after a stop
-/

namespace FlinkSteward

open RecordedResource

/-! ## Records of suspended jobs -/

namespace Resource

variable {ρ : Type} [Resource ρ]

/-- The job was last applied (`lastReconciled`) as suspended. -/
def Suspended (r : ρ) : Prop :=
  ∃ (applied : Resource.Spec ρ) (job : JobSpec),
    (reconciliation r).lastReconciled = .ok (some applied) ∧ jobSpec applied = some job ∧
      job.state = some .suspended

/-- A specification that asks for a suspended job is recorded as `Suspended`. -/
theorem suspended_appliedAt [RecordedResource ρ] {r : ρ} {job : JobSpec} (time : Int)
    (hvalid : Valid (ρ := ρ) (spec r)) (hjob : jobSpec (spec r) = some job)
    (hstate : job.state = some .suspended) : Suspended (appliedAt r time) :=
  ⟨_, job.arrange .sorted, lastReconciled_appliedAt hvalid, by rw [jobSpec_sorted, hjob]; rfl,
    by rw [JobSpec.arrange, hstate, Option.getD_some]⟩

theorem Suspended.isFirst_eq_false {r : ρ} (h : Suspended r) : (reconciliation r).isFirst = false := by
  obtain ⟨applied, _, hrecord, -⟩ := h
  cases htext : (reconciliation r).lastReconciledSpec with
  | none => simp [ReconciliationStatus.lastReconciled, htext, Spec.deserialize?] at hrecord
  | some text => simp [ReconciliationStatus.isFirst, htext]

end Resource

open Resource

theorem JobStatus.isTracked_iff {s : JobStatus} :
    s.isTracked = true ↔ ∃ id, s.jobId = some id ∧ id ≠ "" := by
  cases hid : s.jobId <;> simp [isTracked, hid]

/-! ## Passes -/

/-- What an operator does depends on how it can `connect` to clusters. -/
def Operator.Reaches {σ τ α : Type} (o : Operator σ) (act : Operator σ → Action τ α) (s : τ) : Prop :=
  ∃ connect, (act { o with connect := connect }).runOn s ≠ (act o).runOn s

namespace Operator

variable {σ : Type} (o : Operator σ)

/-- The part of a pass over a cluster that comes before the look at its job. -/
def observeManagerOnly : Action (Deployment × σ) Unit := do
  match ← Subject.outside (o.deployedConfig (← Subject.get)) with
  | none => pure ()
  | some conf => o.observeManager conf

/-- `Operator.observeDeployment` over a `Suspended` cluster looks at the JobManager, and at nothing
else. -/
theorem observeDeployment_runOn_of_suspended {d : Deployment} (h : Suspended d) (w : σ) :
    o.observeDeployment.runOn (d, w) = o.observeManagerOnly.runOn (d, w) := by
  obtain ⟨applied, job, hrecord, hjob, hstate⟩ := h
  simp only [observeDeployment, observeManagerOnly, Action.runOn_bind, Subject.runOn_get,
    Subject.runOn_outside]
  rcases (o.deployedConfig d).runOn w with ⟨_ | _ | conf, v⟩
  · rfl
  · rfl
  simp only [Action.runOn_bind, observeManager_runOn]
  rcases (o.readManager conf).runOn v with ⟨_ | found, u⟩
  · rfl
  -- the JobManager may be ready now, and then the record says that there is nothing more to do
  simp only [Subject.runOn_get]
  split
  · rw [Action.runOn_bind, Action.runOn_ofOutcome,
      show d.status.reconciliation.lastReconciled = .ok (some applied) from hrecord]
    simp only [observeReady, show applied.job = some job from hjob, if_pos hstate]
    rfl
  · rfl

theorem not_reaches_of_suspended {d : Deployment} (h : Suspended d) (w : σ) :
    ¬ o.Reaches observeDeployment (d, w) := by
  rintro ⟨connect, hne⟩
  rw [observeDeployment_runOn_of_suspended _ h, observeDeployment_runOn_of_suspended _ h] at hne
  exact hne rfl

/-- `Operator.observeDeployment` leaves the job of a `Suspended` cluster, and the record of what was
last applied. -/
theorem observeDeployment_of_suspended {d : Deployment} (h : Suspended d) (w : σ) :
    (o.observeDeployment.runOn (d, w)).2.1.status.job = d.status.job ∧
      (o.observeDeployment.runOn (d, w)).2.1.status.reconciliation = d.status.reconciliation := by
  have hkeeps : Subject.Keeps (fun e : Deployment => e.status.job = d.status.job ∧
      e.status.reconciliation = d.status.reconciliation) o.observeManagerOnly fun _ => True :=
    .bind .get fun _ _ => .bind_option .outside (.pure trivial) fun _ _ =>
      keeps_observeManager fun _ _ h => h
  rw [o.observeDeployment_runOn_of_suspended h]
  exact (hkeeps d w ⟨rfl, rfl⟩).1

/-! ### Jobs on session clusters -/

/-- The cluster of a job can be asked for its jobs: it is `ready`, a configuration of it can be made,
and the time can be told. -/
def Askable (session : Option Deployment) (w : σ) : Prop :=
  ∃ d conf v time u, session = some d ∧ d.status.manager = .ready ∧
    (o.currentConfig d).runOn w = (.ok conf, v) ∧ o.uptime.runOn v = (.ok time, u)

section Job

variable {ρ : Type} [Resource ρ] {r : ρ} {w : σ} (conf : Config)

theorem observeJob_runOn_of_untracked (h : (Resource.job r).isTracked = false)
    (budget : Option Duration) (onTimeout : Action (ρ × σ) Unit) :
    (o.observeJob conf budget onTimeout).runOn (r, w) = (.ok false, r, w) := by
  simp only [observeJob, Action.runOn_bind, Subject.runOn_job]
  cases hid : (Resource.job r).jobId with
  | none => rfl
  | some id =>
    obtain rfl : id = "" := by simpa [JobStatus.isTracked, hid] using h
    rfl

/-- `Operator.observeJob` for a tracked job, whoever takes care of a cluster that does not answer. -/
theorem observeJob_runOn_of_tracked {id : String} (hid : (Resource.job r).jobId = some id)
    (hne : id ≠ "") :
    (o.observeJob conf none (pure ())).runOn (r, w) =
      match o.uptime.runOn w with
      | (.error f, v) => (.error f, r, v)
      | (.ok _, v) =>
        match (o.listJobs conf).runOn v with
        | (.error f, u) => (.error f, r, u)
        | (.ok jobs, u) =>
          match o.uptime.runOn u with
          | (.error f, x) => (.error f, r, x)
          | (.ok _, x) => (o.takeReport id jobs).runOn (r, x) := by
  rw [observeJob_runOn_tracked hid hne]
  rcases o.uptime.runOn w with ⟨_ | start, v⟩
  · rfl
  dsimp only
  rcases (o.listJobs conf).runOn v with ⟨f | jobs, u⟩
  · dsimp only
    cases isTimeout f <;> rfl
  · rfl

end Job

/-- What is done with a job whose cluster can be asked. -/
def observeHeldJob (conf : Config) : Action (SessionJob × σ) Unit := do
  if ← o.observeJob conf none (pure ()) then o.settleSavepoint conf

/-- `Operator.observeSessionJob` over a job that was applied, on a cluster that is `ready`. -/
theorem observeSessionJob_runOn_of_ready {j : SessionJob} {d : Deployment}
    (hfirst : j.status.reconciliation.isFirst = false) (hready : d.status.manager = .ready) (w : σ) :
    (o.observeSessionJob (some d)).runOn (j, w) =
      match (o.currentConfig d).runOn w with
      | (.error f, v) => (.error f, j, v)
      | (.ok conf, v) => (o.observeHeldJob conf).runOn (j, v) := by
  simp only [observeSessionJob, Action.runOn_bind, Subject.runOn_get, hfirst, Bool.false_eq_true,
    ↓reduceIte, hready, Subject.runOn_outside]
  rcases (o.currentConfig d).runOn w with ⟨_ | conf, v⟩
  · rfl
  · simp only [observeHeldJob, Action.runOn_bind]

/-- Without a cluster that is `ready`, `Operator.observeSessionJob` does nothing. -/
theorem observeSessionJob_runOn_of_not_ready {session : Option Deployment}
    (h : ∀ d, session = some d → d.status.manager ≠ .ready) (j : SessionJob) (w : σ) :
    (o.observeSessionJob session).runOn (j, w) = (.ok (), j, w) := by
  simp only [observeSessionJob, Action.runOn_bind, Subject.runOn_get]
  split
  · rfl
  · cases session with
    | none => rfl
    | some d => simp only [if_neg (h d rfl), Action.runOn_pure]

variable {o} {j : SessionJob} {session : Option Deployment} {w : σ}

/-- Without a connection, `Operator.observeSessionJob` fails as soon as it asks the cluster. -/
theorem observeSessionJob_fails {f : Failure} (hconnect : o.connect = fun _ => .fail f)
    (hfirst : j.status.reconciliation.isFirst = false) (htracked : j.status.job.isTracked = true)
    (h : o.Askable session w) : ((o.observeSessionJob session).runOn (j, w)).1 = .error f := by
  obtain ⟨d, conf, v, time, u, rfl, hready, hconf, huptime⟩ := h
  obtain ⟨id, hid, hne⟩ := JobStatus.isTracked_iff.1 htracked
  have hlist : ((o.listJobs conf).runOn u).1 = .error f := by
    rw [listJobs, Client.use, hconnect]
    rfl
  have hjob := o.observeJob_runOn_of_tracked (r := j) (w := v) conf hid hne
  rw [o.observeSessionJob_runOn_of_ready hfirst hready, hconf]
  simp only [observeHeldJob, Action.runOn_bind, hjob, huptime]
  rcases hrun : (o.listJobs conf).runOn u with ⟨g | jobs, x⟩ <;> rw [hrun] at hlist <;> cases hlist
  rfl

/-- Where the cluster is not `Askable`, `Operator.observeSessionJob` does not depend on the
connections and leaves the job. -/
theorem observeSessionJob_of_not_askable (hfirst : j.status.reconciliation.isFirst = false)
    (h : ¬ (j.status.job.isTracked = true ∧ o.Askable session w)) :
    ∃ outcome v, ∀ connect,
      (({ o with connect := connect } : Operator σ).observeSessionJob session).runOn (j, w) =
        (outcome, j, v) := by
  by_cases hready : ∃ d, session = some d ∧ d.status.manager = .ready
  · obtain ⟨d, rfl, hready⟩ := hready
    have hpass := fun connect => observeSessionJob_runOn_of_ready
      ({ o with connect := connect } : Operator σ) hfirst hready w
    -- making the configuration of the cluster needs no connection
    have hconf := fun connect : Config → Action σ (Client σ) =>
      show (({ o with connect := connect } : Operator σ).currentConfig d).runOn w =
        (o.currentConfig d).runOn w from rfl
    rcases hrun : (o.currentConfig d).runOn w with ⟨f | conf, v⟩
    · exact ⟨.error f, v, fun connect => by rw [hpass, hconf, hrun]⟩
    by_cases htracked : j.status.job.isTracked = true
    · obtain ⟨id, hid, hne⟩ := JobStatus.isTracked_iff.1 htracked
      rcases huptime : o.uptime.runOn v with ⟨f | time, u⟩
      · refine ⟨.error f, u, fun connect => ?_⟩
        have hjob := observeJob_runOn_of_tracked ({ o with connect := connect } : Operator σ)
          (r := j) (w := v) conf hid hne
        rw [hpass, hconf, hrun]
        simp only [observeHeldJob, Action.runOn_bind, hjob, huptime]
      · exact absurd ⟨htracked, d, conf, v, time, u, rfl, hready, hrun, huptime⟩ h
    · refine ⟨.ok (), v, fun connect => ?_⟩
      have hjob := observeJob_runOn_of_untracked ({ o with connect := connect } : Operator σ)
        (r := j) (w := v) conf (Bool.eq_false_iff.2 htracked) none (pure ())
      rw [hpass, hconf, hrun]
      simp only [observeHeldJob, Action.runOn_bind, hjob]
      rfl
  · refine ⟨.ok (), w, fun connect => observeSessionJob_runOn_of_not_ready _ (fun d hd h => ?_) j w⟩
    exact hready ⟨d, hd, h⟩

/-- `Operator.observeSessionJob` over a job that was applied `Reaches` the cluster whenever there is a
tracked job and the cluster is `Askable`, whatever was last applied. -/
theorem observeSessionJob_reaches_iff (hfirst : j.status.reconciliation.isFirst = false) :
    o.Reaches (·.observeSessionJob session) (j, w) ↔
      j.status.job.isTracked = true ∧ o.Askable session w := by
  constructor
  · rintro ⟨connect, hne⟩
    by_contra hnot
    obtain ⟨outcome, v, hsame⟩ := observeSessionJob_of_not_askable hfirst hnot
    exact hne ((hsame connect).trans (hsame o.connect).symm)
  · rintro ⟨htracked, haskable⟩
    -- a connection that fails in a way in which the pass does not
    obtain ⟨f, hf⟩ : ∃ f : Failure, ((o.observeSessionJob session).runOn (j, w)).1 ≠ .error f := by
      by_contra hall
      push Not at hall
      exact absurd ((hall noClusterId).symm.trans (hall (.api 503))) nofun
    refine ⟨fun _ => .fail f, fun hsame => hf ?_⟩
    rw [← hsame]
    exact observeSessionJob_fails rfl hfirst htracked haskable

/-- An `Operator.observeSessionJob` that does not reach the cluster leaves the job. -/
theorem observeSessionJob_of_not_reaches (hfirst : j.status.reconciliation.isFirst = false)
    (h : ¬ o.Reaches (·.observeSessionJob session) (j, w)) :
    ((o.observeSessionJob session).runOn (j, w)).2.1 = j := by
  rw [observeSessionJob_reaches_iff hfirst] at h
  obtain ⟨outcome, v, hsame⟩ := observeSessionJob_of_not_askable hfirst h
  rw [show (o.observeSessionJob session).runOn (j, w) = (outcome, j, v) from hsame o.connect]

/-- `Operator.observeSessionJob` takes over what the cluster reports of a job, whatever was last
applied. -/
theorem observeSessionJob_state {d : Deployment} {conf : Config} {id : String}
    {jobs : List JobReport} {elapsed : Double} {now : Int} {report : JobReport} {v x y : σ}
    (hfirst : j.status.reconciliation.isFirst = false) (hready : d.status.manager = .ready)
    (hconf : (o.currentConfig d).runOn w = (.ok conf, v)) (hid : j.status.job.jobId = some id)
    (hne : id ≠ "") (hlist : o.Lists conf v jobs elapsed x)
    (hmatch : matchingJob id jobs = .ok (some report)) (hnow : o.now.runOn x = (.ok now, y)) :
    ((o.observeSessionJob (some d)).runOn (j, w)).2.1.status.job.state = report.state.nonNull? := by
  obtain ⟨start, stop, u, u', hstart, hjobs, hstop, -⟩ := hlist
  have htaken : (o.takeReport id jobs).runOn (j, x) =
      (.ok true, Resource.withJob j ((Resource.job j).observed report now), y) := by
    rw [takeReport, Action.runOn_bind, Action.runOn_ofOutcome, hmatch]
    simp only [Action.runOn_bind, Subject.runOn_outside, hnow]
    rfl
  have hjob := o.observeJob_runOn_of_tracked (r := j) (w := v) conf hid hne
  simp only [hstart, hjobs, hstop, htaken] at hjob
  rw [o.observeSessionJob_runOn_of_ready hfirst hready, hconf]
  simp only [observeHeldJob, Action.runOn_bind, hjob, ↓reduceIte]
  -- the look at the savepoints comes last, and leaves the state
  exact (keeps_settleSavepoint (I := fun k : SessionJob =>
    k.status.job.state = report.state.nonNull?) ⟨fun _ _ h _ => h, fun _ _ h => h⟩ _ y rfl).1

end Operator

/-! ## After a stop -/

variable {σ : Type}

section Stops

variable {ρ : Type} [Resource ρ] [FramedResource ρ] {r s t : ρ}

/-- Passes, of any operators in any worlds. -/
def Passed : ρ → ρ → Prop :=
  Relation.ReflTransGen fun r s => ∃ limit, ObservedResource.Look limit r s

/-- The job of a resource was stopped by `Operator.suspend`, and its specification then recorded as
suspended by `Operator.recordApplied`. -/
structure Stopped (o : Operator σ) (mode : UpgradeMode) (conf : Config) (place : Value) (r t : ρ) :
    Prop where
  valid : Valid (ρ := ρ) (Resource.spec r)
  asks : ∃ job, jobSpec (Resource.spec r) = some job ∧ job.state = some .suspended
  stop : ∃ s w v, (o.suspend mode conf).runOn (r, w) = (.ok place, s, v) ∧
    ∃ u u', o.recordApplied.runOn (s, u) = (.ok (), t, u')

theorem Stopped.eq_appliedAt {o : Operator σ} {mode : UpgradeMode} {conf : Config} {place : Value}
    (h : Stopped o mode conf place r t) : ∃ stop time,
      t = appliedAt (Resource.withJob r ((Resource.job r).stopped place stop)) time := by
  obtain ⟨s, w, v, hstop, u, u', hrecord⟩ := h.stop
  obtain ⟨_, stop, -, -, rfl⟩ := Operator.suspend_eq_ok.1 hstop
  exact ⟨stop, Operator.recordApplied_eq_ok hrecord⟩

theorem Stopped.suspended {o : Operator σ} {mode : UpgradeMode} {conf : Config} {place : Value}
    (h : Stopped o mode conf place r t) : Suspended t := by
  obtain ⟨stop, time, rfl⟩ := h.eq_appliedAt
  obtain ⟨job, hjob, hstate⟩ := h.asks
  exact suspended_appliedAt time (by rw [spec_withJob]; exact h.valid) (by rw [spec_withJob, hjob])
    hstate

/-- A job that was `Stopped` settles a pending savepoint with its own, and leaves it pending without
one. -/
theorem Stopped.isPending_iff {o : Operator σ} {mode : UpgradeMode} {conf : Config} {place : Value}
    (h : Stopped o mode conf place r t) : (Resource.job t).savepoints.isPending = true ↔
      (Resource.job r).savepoints.isPending = true ∧ place = .null := by
  obtain ⟨stop, time, rfl⟩ := h.eq_appliedAt
  rw [appliedAt, LawfulResource.job_withError, LawfulResource.job_withReconciliation,
    LawfulResource.job_withJob]
  by_cases hplace : place = .null
  · simp [hplace]
  · simp [JobStatus.stopped_of_ne hplace, hplace]

/-- Passes (`Passed`) leave the text of what was last applied, and the id of the job. -/
theorem Passed.same (h : Passed s t) :
    (Resource.reconciliation t).lastReconciledSpec = (Resource.reconciliation s).lastReconciledSpec ∧
      (Resource.job t).jobId = (Resource.job s).jobId := by
  induction h with
  | refl => exact ⟨rfl, rfl⟩
  | tail _ hl ih =>
    obtain ⟨limit, hl⟩ := hl
    exact ⟨(ObservedResource.sameRecord_of_look hl).recorded.trans ih.1,
      (FramedResource.framed_of_look hl).jobId.trans ih.2⟩

/-- A `Suspended` resource stays so through passes. -/
theorem Passed.suspended (h : Passed s t) (hs : Suspended s) : Suspended t := by
  obtain ⟨applied, job, hrecord, hjob⟩ := hs
  exact ⟨applied, job, (ReconciliationStatus.lastReconciled_congr h.same.1).trans hrecord, hjob⟩

end Stops

/-- Passes over a `Suspended` cluster leave its job. -/
theorem Passed.job_eq {d e : Deployment} (h : Passed d e) (hd : Suspended d) :
    e.status.job = d.status.job := by
  induction h with
  | refl => rfl
  | tail hfirst hl ih =>
    obtain ⟨limit, ⟨-, w⟩⟩ := hl
    exact ((Operator.observeDeployment_of_suspended _ (Passed.suspended hfirst hd) w).1).trans ih

/-- After a job was `Stopped` in any mode and its specification was recorded as suspended, a savepoint
is pending exactly when one was before and the stop has none of its own. However many passes come then
(`Passed`), the job of a cluster stays as it is, and no pass `Reaches` the Flink cluster. A pass over
a job on a session cluster reaches it whenever the job has an id and the cluster is `Askable`; it
takes over what the cluster reports of the job, and leaves the job otherwise. -/
theorem suspended_job_rests :
    (∀ {o : Operator σ} {mode : UpgradeMode} {conf : Config} {place : Value} {d e f : Deployment},
      Stopped o mode conf place d e → Passed e f →
      (e.status.job.savepoints.isPending = true ↔
        d.status.job.savepoints.isPending = true ∧ place = .null) ∧
      f.status.job = e.status.job ∧
      ∀ {τ : Type} (p : Operator τ) (x : τ), ¬ p.Reaches Operator.observeDeployment (f, x)) ∧
    ∀ {o : Operator σ} {mode : UpgradeMode} {conf : Config} {place : Value} {j k l : SessionJob},
      Stopped o mode conf place j k → Passed k l →
      (k.status.job.savepoints.isPending = true ↔
        j.status.job.savepoints.isPending = true ∧ place = .null) ∧
      ∀ {τ : Type} (p : Operator τ) (x : τ),
        (∀ session, (p.Reaches (·.observeSessionJob session) (l, x) ↔
            k.status.job.isTracked = true ∧ p.Askable session x) ∧
          (¬ p.Reaches (·.observeSessionJob session) (l, x) →
            ((p.observeSessionJob session).runOn (l, x)).2.1 = l)) ∧
        ∀ {d clusterConf id jobs elapsed report v y now z}, d.status.manager = .ready →
          (p.currentConfig d).runOn x = (.ok clusterConf, v) → k.status.job.jobId = some id →
          id ≠ "" → p.Lists clusterConf v jobs elapsed y →
          matchingJob id jobs = .ok (some report) → p.now.runOn y = (.ok now, z) →
          ((p.observeSessionJob (some d)).runOn (l, x)).2.1.status.job.state =
            report.state.nonNull? := by
  refine ⟨fun hstop hpassed => ⟨hstop.isPending_iff, hpassed.job_eq hstop.suspended, fun p x =>
    p.not_reaches_of_suspended (hpassed.suspended hstop.suspended) x⟩, ?_⟩
  intro o mode conf place j k l hstop hpassed
  have hfirst := (hpassed.suspended hstop.suspended).isFirst_eq_false
  have hid : l.status.job.jobId = k.status.job.jobId := hpassed.same.2
  refine ⟨hstop.isPending_iff, fun p x => ⟨fun session => ?_, ?_⟩⟩
  · have hreach : p.Reaches (·.observeSessionJob session) (l, x) ↔
        l.status.job.isTracked = true ∧ p.Askable session x :=
      p.observeSessionJob_reaches_iff hfirst
    rw [JobStatus.isTracked, hid, ← JobStatus.isTracked] at hreach
    exact ⟨hreach, p.observeSessionJob_of_not_reaches hfirst⟩
  · intro d clusterConf id jobs elapsed report v y now z hready hconf htracked hne hlist hmatch hnow
    exact p.observeSessionJob_state hfirst hready hconf (hid.trans htracked) hne hlist hmatch hnow

/-- A cluster whose job is to be suspended without a savepoint, while one is pending. -/
def haltingDeployment : Deployment where
  spec := { job := some { state := some .suspended } }
  status.job := {
    jobId := some "a1"
    savepoints := { triggerId := some (.text "t1") } }

/-- A job on a session cluster that is to be suspended. -/
def haltingJob : SessionJob where
  spec := { job := some { state := some .suspended } }
  status.job.jobId := some "a1"

/-- A cluster that is ready for jobs. -/
def readySession : Deployment where
  status.manager := .ready

/-- A cluster that still runs a job. -/
def busyWorld : Simulation.World where
  files := { root := "" }
  cluster.jobs := [⟨.text "a1", .text "job", .text "RUNNING", .int 0⟩]

theorem haltingDeployment_valid : haltingDeployment.spec.Valid :=
  { DeploymentSpec.valid_empty with job := by rintro _ ⟨⟩; exact { JobSpec.valid_empty with } }

theorem haltingJob_valid : haltingJob.spec.Valid :=
  { SessionJobSpec.valid_empty with job := by rintro _ ⟨⟩; exact { JobSpec.valid_empty with } }

/-- A resource that is stopped and recorded by an operator in memory. -/
def halted {ρ : Type} [Resource ρ] (r : ρ) : ρ :=
  (memoryOperator.recordApplied.runOn
    (((memoryOperator.suspend .stateless []).runOn (r, quietWorld)).2.1, quietWorld)).2.1

/-- A savepoint may be left pending by a stop, and a suspended job on a session cluster counts as
running again as soon as the cluster says so. -/
theorem haltingJob_rests_not :
    (halted haltingDeployment).status.job.savepoints.isPending = true ∧
      memoryOperator.Reaches (·.observeSessionJob (some readySession))
        (halted haltingJob, busyWorld) ∧
      (halted haltingJob).status.job.state = some (.text "SUSPENDED") ∧
      ((memoryOperator.observeSessionJob (some readySession)).runOn
        (halted haltingJob, busyWorld)).2.1.status.job.state = some (.text "RUNNING") := by
  have hcluster : Stopped memoryOperator .stateless [] .null haltingDeployment
      (halted haltingDeployment) :=
    ⟨haltingDeployment_valid, ⟨_, rfl, rfl⟩, _, quietWorld, _, rfl, quietWorld, _, rfl⟩
  have hjob : Stopped memoryOperator .stateless [] .null haltingJob (halted haltingJob) :=
    ⟨haltingJob_valid, ⟨_, rfl, rfl⟩, _, quietWorld, _, rfl, quietWorld, _, rfl⟩
  obtain ⟨conf, v, hconf, hjobs, hmatch⟩ : ∃ conf v,
      (memoryOperator.currentConfig readySession).runOn busyWorld = (.ok conf, v) ∧
      ((memoryOperator.listJobs conf).runOn v).1 = .ok busyWorld.cluster.jobs ∧
      matchingJob "a1" busyWorld.cluster.jobs =
        .ok (some ⟨.text "a1", .text "job", .text "RUNNING", .int 0⟩) :=
    ⟨_, _, rfl, rfl, by decide +kernel⟩
  have hlist : memoryOperator.Lists conf v busyWorld.cluster.jobs _
      ((memoryOperator.listJobs conf).runOn v).2 :=
    ⟨_, _, v, _, rfl, Prod.ext hjobs rfl, rfl, rfl⟩
  have hpending := (suspended_job_rests.1 hcluster .refl).1
  -- a pass takes over the state that the cluster lists
  have hpass := (suspended_job_rests.2 hjob .refl).2 memoryOperator busyWorld
  exact ⟨hpending.2 ⟨rfl, rfl⟩, (hpass.1 (some readySession)).1.2
      ⟨rfl, readySession, conf, v, _, v, rfl, rfl, hconf, rfl⟩, rfl,
    hpass.2 rfl hconf rfl (by decide) hlist hmatch rfl⟩

end FlinkSteward
