import FlinkSteward.Proofs.Control.Trigger
import FlinkSteward.Proofs.Validation.Availability

/-!
# What never changes of a resource

The rules compare what is asked for with what was last applied, and with nothing before that. What
they let nobody change in one application is the same for the whole life of a resource, because what
was applied then is what the next application is compared with: it comes back from its text, where a
savepoint may have changed its nonce.

## Key results

- `RecordStep`: edits, observations, savepoints, and records of what was accepted
- `RecordStep.record_cases`: what a step does to the record
- `Enduring`, `RecordStep.run_holds`: properties of the record that last
- `recorded_kind_endures`: what lasts for clusters, and for jobs on session clusters
-/

namespace FlinkSteward

open RecordedResource

/-! ## Steps -/

section Steps

variable {ρ : Type} [Resource ρ] [RecordedResource ρ]

/-- What may happen to a resource, of which only accepted specifications are recorded. -/
inductive RecordStep (Accepted : ρ → Prop) (r : ρ) : ρ → Prop where
  /-- The user asks for something else, and anything is observed meanwhile. Whatever is read from a
  manifest is valid (`DeploymentSpec.valid_of_decode`, `SessionJobSpec.valid_of_decode`). -/
  | edited {t : ρ} (hvalid : Valid (ρ := ρ) (Resource.spec t))
    (hrecorded : (Resource.reconciliation t).lastReconciledSpec =
      (Resource.reconciliation r).lastReconciledSpec) : RecordStep Accepted r t
  /-- A savepoint is asked for if one is due, with any outcome. -/
  | triggered {σ : Type} (o : Operator σ) (conf : Config) (w : σ) :
    RecordStep Accepted r ((o.triggerIfDue conf).runOn (r, w)).2.1
  /-- A specification that is accepted is recorded. -/
  | recorded {σ : Type} (o : Operator σ) (w : σ) (h : Accepted r) :
    RecordStep Accepted r (o.recordApplied.runOn (r, w)).2.1

variable {Accepted : ρ → Prop} {r t : ρ}

namespace RecordStep

/-- A `RecordStep` leaves what is asked for `Valid`. -/
theorem valid (h : RecordStep Accepted r t) (hr : Valid (ρ := ρ) (Resource.spec r)) :
    Valid (ρ := ρ) (Resource.spec t) := by
  cases h with
  | edited hvalid => exact hvalid
  | triggered o conf w =>
    rcases o.triggerIfDue_eq_or_requested conf r w with ht | ⟨_, _, _, ht⟩
    · rwa [ht]
    · rwa [ht, Resource.spec_requested]
  | recorded o w =>
    rcases o.recordApplied_eq_or r w with ht | ⟨_, ht⟩
    · rwa [ht]
    · rwa [ht, spec_withError, spec_withReconciliation]

/-- A `RecordStep` leaves the record, or changes the nonce in it, or records what was accepted. -/
theorem record_cases (h : RecordStep Accepted r t) (hr : Valid (ρ := ρ) (Resource.spec r)) :
    (Resource.reconciliation t).lastReconciledSpec =
        (Resource.reconciliation r).lastReconciledSpec ∨
      (∃ (applied : Resource.Spec ρ) (old job : JobSpec),
        (Resource.reconciliation r).lastReconciled = .ok (some applied) ∧
        Resource.jobSpec applied = some old ∧ (Resource.reconciliation t).lastReconciled =
          .ok (some (sorted (ρ := ρ) (Operator.withNonce (ρ := ρ) applied old job)))) ∨
      (Accepted r ∧ (Resource.reconciliation t).lastReconciled =
        .ok (some (sorted (ρ := ρ) (Resource.spec r)))) := by
  cases h with
  | edited _ hrecorded => exact .inl hrecorded
  | triggered o conf w =>
    rcases o.triggerIfDue_eq_or_requested conf r w with ht | ⟨_, _, _, ht⟩
    · exact .inl (by rw [ht])
    rw [ht]
    rcases Resource.reconciliation_requested_eq_or (r := r) with
      hrec | ⟨applied, old, job, hjob, happlied, hold, hrec⟩
    · exact .inl (by rw [hrec])
    · -- what was last applied was read from a text, so that it is valid with another nonce too
      have hvalid := valid_withNonce (valid_of_lastReconciled happlied) hold (valid_job hr hjob)
      exact .inr (.inl ⟨applied, old, job, happlied, hold, by
        rw [hrec, lastReconciled_record hvalid]⟩)
  | recorded o w haccept =>
    rcases o.recordApplied_eq_or r w with ht | ⟨time, ht⟩
    · exact .inl (by rw [ht])
    · refine .inr (.inr ⟨haccept, ?_⟩)
      rw [ht, reconciliation_withError, reconciliation_withReconciliation]
      exact lastReconciled_record (r := { Resource.reconciliation r with timestamp := .int time }) hr

end RecordStep

/-! ## Properties that last -/

/-- A property of the record that survives texts and nonces, and that whatever is `Accepted` has. -/
structure Enduring (Accepted : ρ → Prop) (P : Option (Resource.Spec ρ) → Prop) : Prop where
  sorted : ∀ s, P (some s) → P (some (sorted (ρ := ρ) s))
  renumbered : ∀ s old job, P (some s) → Resource.jobSpec s = some old →
    P (some (Operator.withNonce (ρ := ρ) s old job))
  accepted : ∀ r a, Accepted r → (Resource.reconciliation r).lastReconciled = .ok a → P a →
    P (some (Resource.spec r))

/-- A resource whose record can be read and has a property. -/
structure Holds (P : Option (Resource.Spec ρ) → Prop) (r : ρ) : Prop where
  valid : Valid (ρ := ρ) (Resource.spec r)
  record : ∃ a, (Resource.reconciliation r).lastReconciled = .ok a ∧ P a

variable {P : Option (Resource.Spec ρ) → Prop}

theorem RecordStep.holds (hP : Enduring Accepted P) (h : RecordStep Accepted r t) (hr : Holds P r) :
    Holds P t := by
  obtain ⟨a, ha, hPa⟩ := hr.record
  refine ⟨h.valid hr.valid, ?_⟩
  rcases h.record_cases hr.valid with hsame | ⟨applied, old, job, happlied, hold, ht⟩ | ⟨hacc, ht⟩
  · exact ⟨a, by rwa [ReconciliationStatus.lastReconciled_congr hsame], hPa⟩
  · rw [happlied] at ha
    obtain rfl := Except.ok.inj ha
    exact ⟨_, ht, hP.sorted _ (hP.renumbered applied old job hPa hold)⟩
  · exact ⟨_, ht, hP.sorted _ (hP.accepted r a hacc ha hPa)⟩

/-- What is `Enduring` still `Holds` after any `RecordStep`s. By induction on the run. -/
theorem RecordStep.run_holds (hP : Enduring Accepted P)
    (h : Relation.ReflTransGen (RecordStep Accepted) r t) (hr : Holds P r) : Holds P t := by
  induction h with
  | refl => exact hr
  | tail _ hstep ih => exact hstep.holds hP ih

/-- What `Holds` without a record does so when nothing was recorded yet. -/
theorem holds_of_isFirst (hvalid : Valid (ρ := ρ) (Resource.spec r))
    (hfirst : (Resource.reconciliation r).isFirst = true) (hP : P none) : Holds P r := by
  refine ⟨hvalid, none, ?_, hP⟩
  rw [ReconciliationStatus.isFirst, Option.isNone_iff_eq_none] at hfirst
  rw [ReconciliationStatus.lastReconciled, hfirst]
  rfl

/-- It is `Enduring` that whatever was recorded can be read. -/
theorem enduring_true : Enduring Accepted fun _ : Option (Resource.Spec ρ) => True :=
  ⟨fun _ _ => trivial, fun _ _ _ _ _ => trivial, fun _ _ _ _ _ => trivial⟩

theorem Holds.readable (hr : Holds P r) : Holds (fun _ => True) r := by
  obtain ⟨a, ha, -⟩ := hr.record
  exact ⟨hr.valid, a, ha, trivial⟩

/-- What was recorded is of one `kind` for ever, if texts and nonces leave the kind and acceptance
does not let it change. -/
theorem RecordStep.kind_endures {α : Type} (kind : Resource.Spec ρ → α)
    (hsorted : ∀ s, kind (sorted (ρ := ρ) s) = kind s)
    (hrenumbered : ∀ s old job, Resource.jobSpec s = some old →
      kind (Operator.withNonce (ρ := ρ) s old job) = kind s)
    (haccepted : ∀ r s, Accepted r → (Resource.reconciliation r).lastReconciled = .ok (some s) →
      kind (Resource.spec r) = kind s)
    (h : Relation.ReflTransGen (RecordStep Accepted) r t)
    (hr : Holds (fun _ => True) r) (hrecorded : (Resource.reconciliation r).isFirst = false) :
    ∃ u v, (Resource.reconciliation r).lastReconciled = .ok (some u) ∧
      (Resource.reconciliation t).lastReconciled = .ok (some v) ∧ kind u = kind v := by
  obtain ⟨a, ha, -⟩ := hr.record
  cases a with
  | none => rw [ReconciliationStatus.isFirst_of_lastReconciled ha] at hrecorded; contradiction
  | some u =>
    have hP : Enduring Accepted fun a => ∃ s, a = some s ∧ kind u = kind s :=
      { sorted := by
          rintro s ⟨_, ⟨⟩, hs⟩
          exact ⟨_, rfl, hs.trans (hsorted s).symm⟩
        renumbered := by
          rintro s old job ⟨_, ⟨⟩, hs⟩ hold
          exact ⟨_, rfl, hs.trans (hrenumbered s old job hold).symm⟩
        accepted := by
          rintro r _ hacc hl ⟨s, rfl, hs⟩
          exact ⟨_, rfl, hs.trans (haccepted r s hacc hl).symm⟩ }
    obtain ⟨_, hv, v, rfl, hkind⟩ := (run_holds hP h ⟨hr.valid, _, ha, u, rfl, rfl⟩).record
    exact ⟨u, v, ha, hv, hkind⟩

end Steps

/-! ## What acceptance says -/

/-- A cluster that `validateDeployment` accepts, under some defaults. -/
def Deployment.Accepted (d : Deployment) : Prop :=
  ∃ defaults, Validation.validateDeployment defaults d = .ok none

/-- A job on a session cluster that `validateSessionJob` accepts, under some defaults and with some
session. -/
def SessionJob.Accepted (j : SessionJob) : Prop :=
  ∃ defaults session, Validation.validateSessionJob defaults j session = .ok none

namespace Validation

variable {d : Deployment} {j : SessionJob}

/-- A job of a cluster that is `Accepted` at first runs. -/
theorem running_of_accepted (h : d.Accepted) (hfirst : d.status.reconciliation.isFirst = true)
    {job : JobSpec} (hjob : d.spec.job = some job) : job.state = some .running := by
  obtain ⟨defaults, h⟩ := h
  have hinitial : checkInitialState d = .ok none := (firstViolation_eq_accept_iff _).1 h _ (by simp)
  rw [checkInitialState, hjob] at hinitial
  by_contra hstate
  simp [hfirst, hstate, rejectIf] at hinitial

/-- A cluster that is `Accepted` has a job exactly when it had one. -/
theorem isSome_job_of_accepted (h : d.Accepted) {applied : DeploymentSpec}
    (happlied : d.status.reconciliation.lastReconciled = .ok (some applied)) :
    d.spec.job.isSome = applied.job.isSome := by
  obtain ⟨defaults, h⟩ := h
  have hchange : checkChange defaults d = .ok none :=
    (firstViolation_eq_accept_iff _).1 h _ (by simp)
  have hfrom : checkChangeFrom defaults d applied = .ok none := by
    rw [checkChange, happlied] at hchange
    exact hchange
  rw [checkChangeFrom] at hfrom
  cases hold : applied.job <;> cases hnew : d.spec.job <;> simp_all

/-- A session job that is `Accepted` has a job, and no upgrade from its last state. -/
theorem job_of_accepted (h : j.Accepted) :
    ∃ job, j.spec.job = some job ∧ job.upgradeMode ≠ .lastState := by
  obtain ⟨defaults, session, h⟩ := h
  have hcheck := (firstViolation_eq_accept_iff _).1 h _ List.mem_cons_self
  rw [checkSessionJobSpec] at hcheck
  cases hjob : j.spec.job with
  | none => rw [hjob] at hcheck; exact nomatch hcheck
  | some job =>
    rw [hjob] at hcheck
    refine ⟨job, rfl, fun hmode => ?_⟩
    have hreject := (firstViolation_eq_accept_iff _).1 hcheck _ List.mem_cons_self
    simp [hmode, rejectIf] at hreject

/-- A session job that is `Accepted` stays on its cluster. -/
theorem clusterId_of_accepted (h : j.Accepted) {applied : SessionJobSpec}
    (happlied : j.status.reconciliation.lastReconciled = .ok (some applied)) :
    j.spec.clusterId = applied.clusterId := by
  obtain ⟨defaults, session, h⟩ := h
  have hchange : checkSessionJobChange j = .ok none :=
    (firstViolation_eq_accept_iff _).1 h _ (by simp)
  rw [checkSessionJobChange, happlied] at hchange
  by_contra hne
  have hreject : rejectIf (applied.clusterId ≠ j.spec.clusterId) .clusterIdChanged = .ok none :=
    hchange
  simp [rejectIf, Ne.symm hne] at hreject

end Validation

/-! ## What lasts -/

open Validation

/-- The job that is recorded first runs, when nothing with a job was recorded before. -/
theorem Deployment.running_of_first_record {c d : Deployment}
    (hc : Holds (fun _ => True) c) (h : RecordStep Accepted c d)
    (hnone : ∀ s : DeploymentSpec, c.status.reconciliation.lastReconciled = .ok (some s) →
      s.job = none)
    {t : DeploymentSpec} (ht : d.status.reconciliation.lastReconciled = .ok (some t))
    {job : JobSpec} (hjob : t.job = some job) : job.state = some .running := by
  rcases h.record_cases hc.valid with hsame | ⟨applied, old, new, happlied, hold, -⟩ | ⟨hacc, hrec⟩
  · -- what was recorded before has no job
    have hsaid : c.status.reconciliation.lastReconciled = .ok (some t) :=
      (ReconciliationStatus.lastReconciled_congr hsame).symm.trans ht
    exact nomatch hjob.symm.trans (hnone t hsaid)
  · exact nomatch hold.symm.trans (hnone applied happlied)
  · -- what is recorded now has the job that is accepted
    obtain rfl : c.spec.sorted = t := Option.some.inj (Except.ok.inj (hrec.symm.trans ht))
    obtain ⟨new, hnew, rfl⟩ := Option.map_eq_some_iff.1 hjob
    obtain ⟨a, ha, -⟩ := hc.record
    cases a with
    | none =>
      have hfirst := ReconciliationStatus.isFirst_of_lastReconciled ha
      have hstate : new.state = some .running := running_of_accepted hacc hfirst hnew
      rw [JobSpec.arrange, hstate, Option.getD_some]
    | some s =>
      have hkind := isSome_job_of_accepted hacc ha
      rw [hnew, hnone s ha] at hkind
      exact nomatch hkind

/-- A cluster keeps its kind through any `RecordStep`s: one with a job, or one without. -/
theorem Deployment.job_endures {c d : Deployment}
    (h : Relation.ReflTransGen (RecordStep Accepted) c d) (hc : Holds (fun _ => True) c)
    (hrecorded : c.status.reconciliation.isFirst = false) :
    ∃ s t : DeploymentSpec, c.status.reconciliation.lastReconciled = .ok (some s) ∧
      d.status.reconciliation.lastReconciled = .ok (some t) ∧ s.job.isSome = t.job.isSome :=
  RecordStep.kind_endures (fun s : DeploymentSpec => s.job.isSome)
    (fun _ => Option.isSome_map) (fun _ _ _ hold => (congrArg Option.isSome hold).symm)
    (fun _ _ hacc happlied => isSome_job_of_accepted hacc happlied) h hc hrecorded

/-- A job on a session cluster keeps its `clusterId` through any `RecordStep`s. -/
theorem SessionJob.clusterId_endures {c d : SessionJob}
    (h : Relation.ReflTransGen (RecordStep Accepted) c d) (hc : Holds (fun _ => True) c)
    (hrecorded : c.status.reconciliation.isFirst = false) :
    ∃ s t : SessionJobSpec, c.status.reconciliation.lastReconciled = .ok (some s) ∧
      d.status.reconciliation.lastReconciled = .ok (some t) ∧ s.clusterId = t.clusterId :=
  RecordStep.kind_endures SessionJobSpec.clusterId (fun _ => rfl) (fun _ _ _ _ => rfl)
    (fun _ _ hacc happlied => clusterId_of_accepted hacc happlied) h hc hrecorded

/-- A specification with a job whose `upgradeMode` is not `lastState`. -/
def SessionJobSpec.Restartable (s : SessionJobSpec) : Prop :=
  ∃ job, s.job = some job ∧ job.upgradeMode ≠ .lastState

theorem SessionJobSpec.enduring_restartable :
    Enduring SessionJob.Accepted fun a : Option SessionJobSpec => ∀ s ∈ a, s.Restartable where
  sorted s hs := by
    obtain ⟨job, hjob, hmode⟩ := hs s rfl
    rintro _ ⟨⟩
    exact ⟨job.arrange .sorted, congrArg (Option.map (JobSpec.arrange .sorted)) hjob, hmode⟩
  renumbered s old job hs hold := by
    obtain ⟨_, hjob, hmode⟩ := hs s rfl
    obtain rfl := Option.some.inj (hold.symm.trans hjob)
    rintro _ ⟨⟩
    exact ⟨_, rfl, hmode⟩
  accepted j a hacc _ _ := by
    rintro _ ⟨⟩
    exact job_of_accepted hacc

/-- From a cluster or a job on a session cluster that nothing was recorded of yet, through any
`RecordStep`s, that is edits, observations, requests for savepoints, and records of what the rules
accepted: the first job that is recorded for a cluster runs, and the cluster is one with a job or one
without for ever after; and every job that is recorded on a session cluster is `Restartable`, on the
cluster that it was first recorded for. -/
theorem recorded_kind_endures :
    (∀ {start c : Deployment}, start.spec.Valid → start.status.reconciliation.isFirst = true →
      Relation.ReflTransGen (RecordStep Deployment.Accepted) start c →
      (∀ d, RecordStep Deployment.Accepted c d →
        (∀ s : DeploymentSpec, c.status.reconciliation.lastReconciled = .ok (some s) →
          s.job = none) →
        ∀ t : DeploymentSpec, d.status.reconciliation.lastReconciled = .ok (some t) →
          ∀ job ∈ t.job, job.state = some .running) ∧
      (c.status.reconciliation.isFirst = false →
        ∀ d, Relation.ReflTransGen (RecordStep Deployment.Accepted) c d →
          ∃ s t : DeploymentSpec, c.status.reconciliation.lastReconciled = .ok (some s) ∧
            d.status.reconciliation.lastReconciled = .ok (some t) ∧
            s.job.isSome = t.job.isSome)) ∧
    (∀ {start c : SessionJob}, start.spec.Valid → start.status.reconciliation.isFirst = true →
      Relation.ReflTransGen (RecordStep SessionJob.Accepted) start c →
      c.status.reconciliation.isFirst = false →
      (∃ s : SessionJobSpec, c.status.reconciliation.lastReconciled = .ok (some s) ∧
        s.Restartable) ∧
      ∀ d, Relation.ReflTransGen (RecordStep SessionJob.Accepted) c d →
        ∃ s t : SessionJobSpec, c.status.reconciliation.lastReconciled = .ok (some s) ∧
          d.status.reconciliation.lastReconciled = .ok (some t) ∧
          s.clusterId = t.clusterId) := by
  refine ⟨fun hvalid hfirst hrun => ?_, fun hvalid hfirst hrun hrecorded => ?_⟩
  · have hc := RecordStep.run_holds enduring_true hrun (holds_of_isFirst hvalid hfirst trivial)
    exact ⟨fun d hstep hnone t ht job hjob =>
      Deployment.running_of_first_record hc hstep hnone ht hjob,
      fun hrecorded d hlater => Deployment.job_endures hlater hc hrecorded⟩
  · have hc := RecordStep.run_holds SessionJobSpec.enduring_restartable hrun
      (holds_of_isFirst hvalid hfirst (by simp))
    refine ⟨?_, fun d hlater => SessionJob.clusterId_endures hlater hc.readable hrecorded⟩
    obtain ⟨a, ha, hrestartable⟩ := hc.record
    cases a with
    | none => exact nomatch hrecorded.symm.trans (ReconciliationStatus.isFirst_of_lastReconciled ha)
    | some s => exact ⟨s, ha, hrestartable s rfl⟩

/-- A job on a session cluster. -/
def batchJob : SessionJob where
  metadata := { name := some "batch" }
  spec := { clusterId := some "basic", job := some { jarUri := some "local:///job.jar" } }

theorem batchJob_valid : batchJob.spec.Valid :=
  { SessionJobSpec.valid_empty with job := by rintro _ ⟨⟩; exact { JobSpec.valid_empty with } }

/-- The cluster after it was applied. -/
def appliedDeployment : Deployment :=
  (idleOperator.recordApplied.runOn (cancelledDeployment, ())).2.1

/-- The cluster after its user asked for something else, and that was applied too. -/
def upgradedDeployment : Deployment :=
  (idleOperator.recordApplied.runOn ({ appliedDeployment with spec := lastStateSpec }, ())).2.1

/-- The job after it was applied. -/
def appliedBatchJob : SessionJob :=
  (idleOperator.recordApplied.runOn (batchJob, ())).2.1

theorem recorded_kind_endures_upgrade :
    (∀ t : DeploymentSpec, appliedDeployment.status.reconciliation.lastReconciled = .ok (some t) →
      ∀ job ∈ t.job, job.state = some .running) ∧
    (∃ s t : DeploymentSpec,
      appliedDeployment.status.reconciliation.lastReconciled = .ok (some s) ∧
      upgradedDeployment.status.reconciliation.lastReconciled = .ok (some t) ∧
      s.job.isSome = t.job.isSome) ∧
    (∃ s : SessionJobSpec, appliedBatchJob.status.reconciliation.lastReconciled = .ok (some s) ∧
      s.Restartable) ∧
    ∃ s t : SessionJobSpec, appliedBatchJob.status.reconciliation.lastReconciled = .ok (some s) ∧
      appliedBatchJob.status.reconciliation.lastReconciled = .ok (some t) ∧
      s.clusterId = t.clusterId := by
  have happlied : RecordStep Deployment.Accepted cancelledDeployment appliedDeployment :=
    .recorded idleOperator () ⟨[], by decide +kernel⟩
  have hedited : RecordStep Deployment.Accepted appliedDeployment
      { appliedDeployment with spec := lastStateSpec } := .edited lastStateSpec_valid rfl
  have hupgraded : RecordStep Deployment.Accepted
      { appliedDeployment with spec := lastStateSpec } upgradedDeployment :=
    .recorded idleOperator () ⟨[], by decide +kernel⟩
  have hjob : RecordStep SessionJob.Accepted batchJob appliedBatchJob :=
    .recorded idleOperator () ⟨[], none, by decide +kernel⟩
  have hnone : cancelledDeployment.status.reconciliation.lastReconciled =
      (.ok none : Outcome (Option DeploymentSpec)) := rfl
  have hfirst := (recorded_kind_endures.1 cancelledDeployment_valid rfl .refl).1 _ happlied
    fun s hs => nomatch hnone.symm.trans hs
  have hkind := (recorded_kind_endures.1 cancelledDeployment_valid rfl (.single happlied)).2 rfl _
    ((Relation.ReflTransGen.single hedited).tail hupgraded)
  have hsession := recorded_kind_endures.2 batchJob_valid rfl (.single hjob) rfl
  exact ⟨hfirst, hkind, hsession.1, hsession.2 _ .refl⟩

end FlinkSteward
