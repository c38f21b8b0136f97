import FlinkSteward.Proofs.Validation.Lifetime

/-!
# What stays accepted

Once a specification was recorded, other rules apply to it than before: those for a first deployment
are over, and those for changes compare it with its own record, as that comes back from its text. None
of them objects, whatever is observed meanwhile.

## Key results

- `Operator.recordApplied_runOn`: what a record leaves
- `Validation.checkChangeFrom_of_alike`: no rule objects to a change that changes nothing
- `recorded_stays_accepted`: clusters, and jobs on session clusters
-/

namespace FlinkSteward

open RecordedResource Validation

/-! ## Records -/

section Record

variable {ρ σ : Type} [Resource ρ] {r : ρ} {time : Int}

/-- A resource whose specification was recorded as applied at a time. -/
def Resource.appliedAt (r : ρ) (time : Int) : ρ :=
  withError (withReconciliation r
    { (reconciliation r).record (spec r) with timestamp := .int time }) none

theorem Operator.recordApplied_runOn {o : Operator σ} {w v : σ}
    (hnow : o.now.runOn w = (.ok time, v)) :
    o.recordApplied.runOn (r, w) = (.ok (), Resource.appliedAt r time, v) := by
  rw [recordApplied, Action.runOn_bind, Subject.runOn_outside, hnow]
  rfl

theorem Operator.recordApplied_eq_ok {o : Operator σ} {t : ρ} {w v : σ}
    (h : o.recordApplied.runOn (r, w) = (.ok (), t, v)) : ∃ time, t = Resource.appliedAt r time := by
  rw [recordApplied, Action.runOn_bind, Subject.runOn_outside] at h
  rcases hnow : o.now.runOn w with ⟨_ | time, u⟩ <;> rw [hnow] at h
  · cases h
  · exact ⟨time, (Prod.mk.inj (Prod.mk.inj h).2).1.symm⟩

variable [RecordedResource ρ]

/-- After `appliedAt`, `lastReconciled` is what was asked for, with its maps in the order of their
keys. -/
theorem lastReconciled_appliedAt (hvalid : Valid (ρ := ρ) (Resource.spec r)) :
    (Resource.reconciliation (Resource.appliedAt r time)).lastReconciled =
      .ok (some (sorted (ρ := ρ) (Resource.spec r))) := by
  rw [Resource.appliedAt, reconciliation_withError, reconciliation_withReconciliation]
  exact lastReconciled_record (r := { Resource.reconciliation r with timestamp := .int time }) hvalid

end Record

/-! ## Rules that compare -/

namespace Validation

variable {defaults : Config} {d e : Deployment}

/-- `checkChangeFrom` accepts a job that stays in its mode, and that is not resumed. -/
theorem checkChangeFrom_of_alike {applied : DeploymentSpec}
    (h : applied.job.map (fun job => (job.upgradeMode, decide (job.state = some .suspended))) =
      d.spec.job.map fun job => (job.upgradeMode, decide (job.state = some .suspended))) :
    checkChangeFrom defaults d applied = .ok none := by
  rw [checkChangeFrom]
  cases hold : applied.job with
  | none =>
    cases hnew : d.spec.job with
    | none => rfl
    | some new => simp [hold, hnew] at h
  | some old =>
    cases hnew : d.spec.job with
    | none => simp [hold, hnew] at h
    | some new =>
      simp only [hold, hnew, Option.map_some, Option.some.injEq, Prod.mk.injEq, decide_eq_decide] at h
      obtain ⟨hmode, hstate⟩ := h
      -- both rules ask for a difference between the two jobs first
      have hkept : checkLastStateKept d (Config.overlay defaults applied.flinkConfiguration)
          old new = .ok none := by
        rw [checkLastStateKept, if_neg fun hchange => hchange.1 (hmode.trans hchange.2.1)]
      have hrestore : checkRestore d old new = .ok none := by
        refine if_neg fun hchange => ?_
        have hstays := hstate.1 hchange.1
        rw [hchange.2.1] at hstays
        exact absurd hstays (by decide)
      simp only [hkept, hrestore, firstViolation]

/-- `validateDeployment` judges two clusters of one identity that ask for the same alike but for what
was recorded. -/
theorem accepted_of_same_spec (h : validateDeployment defaults d = .ok none)
    (hspec : e.spec = d.spec) (hmetadata : e.metadata = d.metadata)
    (hinitial : checkInitialState e = .ok none) (hchange : checkChange defaults e = .ok none) :
    validateDeployment defaults e = .ok none := by
  rw [validateDeployment, firstViolation_eq_accept_iff] at h ⊢
  simp only [List.forall_mem_cons] at h ⊢
  obtain ⟨hversion, hoptions, hlogging, hjob, hmanager, htask, hingress, -, -, hnil⟩ := h
  rw [hspec, hmetadata]
  exact ⟨hversion, hoptions, hlogging, hjob, hmanager, htask, hingress, hinitial, hchange, hnil⟩

/-- `validateDeployment` still accepts a cluster when its own specification is what was last
applied. -/
theorem accepted_of_lastReconciled (h : validateDeployment defaults d = .ok none)
    (hspec : e.spec = d.spec) (hmetadata : e.metadata = d.metadata)
    (hrecord : e.status.reconciliation.lastReconciled = .ok (some d.spec.sorted)) :
    validateDeployment defaults e = .ok none := by
  have hrecorded : e.status.reconciliation.isFirst = false := by
    rw [ReconciliationStatus.isFirst, Option.isNone_eq_false_iff, Option.isSome_iff_ne_none]
    intro hnone
    rw [ReconciliationStatus.lastReconciled, hnone] at hrecord
    cases hrecord
  refine accepted_of_same_spec h hspec hmetadata ?_ ?_
  · rw [checkInitialState, hspec, hrecorded]
    cases d.spec.job <;> rfl
  · rw [checkChange, hrecord]
    refine checkChangeFrom_of_alike ?_
    rw [hspec, DeploymentSpec.sorted, DeploymentSpec.arrange, Option.map_map]
    -- a job of which nothing was said is recorded as one that should run
    refine Option.map_congr fun job _ => congrArg (Prod.mk job.upgradeMode) ?_
    rw [JobSpec.arrange]
    cases job.state <;> rfl

/-- `validateSessionJob` still accepts a job when its own specification is what was last applied. -/
theorem accepted_of_lastReconciled_session {j k : SessionJob} {session : Option Deployment}
    (h : validateSessionJob defaults j session = .ok none) (hspec : k.spec = j.spec)
    (hrecord : k.status.reconciliation.lastReconciled = .ok (some j.spec.sorted)) :
    validateSessionJob defaults k session = .ok none := by
  have hchange : checkSessionJobChange k = .ok none := by
    rw [checkSessionJobChange, hrecord, hspec]
    exact congrArg Except.ok (if_neg (by simp [SessionJobSpec.sorted, SessionJobSpec.arrange]))
  rw [validateSessionJob, firstViolation_eq_accept_iff] at h ⊢
  simp only [List.forall_mem_cons] at h ⊢
  obtain ⟨hjob, -, hkind, hcluster, hnil⟩ := h
  have hconf : sessionJobConfig defaults k session = sessionJobConfig defaults j session := by
    rw [sessionJobConfig.eq_def, sessionJobConfig.eq_def, hspec]
  rw [hconf, hspec]
  exact ⟨hjob, hchange, hkind, hcluster, hnil⟩

end Validation

/-- A cluster that `validateDeployment` accepts is still accepted after `Operator.recordApplied`,
whatever is observed of its JobManager and of its job, savepoints included; and so is a job on a
session cluster by `validateSessionJob`, with the same cluster or without one. What is read from a
manifest is valid (`DeploymentSpec.valid_of_decode`, `SessionJobSpec.valid_of_decode`). -/
theorem recorded_stays_accepted {σ : Type} {o : Operator σ} {w v : σ} {time : Int}
    (hnow : o.now.runOn w = (.ok time, v)) (defaults : Config) :
    (∀ d : Deployment, d.spec.Valid → validateDeployment defaults d = .ok none →
      ∃ e : Deployment, o.recordApplied.runOn (d, w) = (.ok (), e, v) ∧ ∀ manager job,
        validateDeployment defaults
          { e with status := { e.status with manager := manager, job := job } } = .ok none) ∧
    (∀ (j : SessionJob) (session : Option Deployment), j.spec.Valid →
      validateSessionJob defaults j session = .ok none →
      ∃ k : SessionJob, o.recordApplied.runOn (j, w) = (.ok (), k, v) ∧ ∀ job,
        validateSessionJob defaults { k with status := { k.status with job := job } } session =
          .ok none) := by
  refine ⟨fun d hvalid haccept => ⟨_, Operator.recordApplied_runOn hnow, fun manager job => ?_⟩,
    fun j session hvalid haccept => ⟨_, Operator.recordApplied_runOn hnow, fun job => ?_⟩⟩
  · -- neither the JobManager nor the job is part of the record
    exact accepted_of_lastReconciled haccept rfl rfl (lastReconciled_appliedAt (r := d) hvalid)
  · exact accepted_of_lastReconciled_session haccept rfl (lastReconciled_appliedAt (r := j) hvalid)

/-- A cluster whose job is to be stopped with a savepoint, while what was last applied lets it run. -/
def stoppingDeployment : Deployment where
  metadata := { name := some "basic" }
  spec := {
    flinkVersion := some .v1_15
    flinkConfiguration := [("state.savepoints.dir", some "file:///savepoints"), ("a", none)]
    job := some {
      jarUri := some "local:///job.jar", upgradeMode := .savepoint, state := some .suspended } }
  status.reconciliation.lastReconciledSpec := some "\x7b\"job\":\x7b\"jarURI\":\"a\"\x7d\x7d"

theorem stoppingDeployment_valid : stoppingDeployment.spec.Valid :=
  { DeploymentSpec.valid_empty with
    flinkConfiguration := by
      simp [stoppingDeployment, Content.texts, Entries.Distinct, Entries.get?]
    job := by rintro _ ⟨⟩; exact { JobSpec.valid_empty with } }

theorem stoppingDeployment_stays_accepted :
    validateDeployment [] stoppingDeployment = .ok none ∧
      (∃ e : Deployment, idleOperator.recordApplied.runOn (stoppingDeployment, ()) =
        (.ok (), e, ()) ∧ ∀ manager job, validateDeployment []
          { e with status := { e.status with manager := manager, job := job } } = .ok none) ∧
      validateSessionJob [] batchJob none = .ok none ∧
      ∃ k : SessionJob, idleOperator.recordApplied.runOn (batchJob, ()) = (.ok (), k, ()) ∧
        ∀ job, validateSessionJob []
          { k with status := { k.status with job := job } } none = .ok none := by
  have hnow : idleOperator.now.runOn () = (.ok 0, ()) := rfl
  have hcluster : validateDeployment [] stoppingDeployment = .ok none := by decide +kernel
  have hjob : validateSessionJob [] batchJob none = .ok none := by decide +kernel
  have hstays := recorded_stays_accepted hnow []
  exact ⟨hcluster, hstays.1 _ stoppingDeployment_valid hcluster, hjob,
    hstays.2 _ none batchJob_valid hjob⟩

end FlinkSteward
