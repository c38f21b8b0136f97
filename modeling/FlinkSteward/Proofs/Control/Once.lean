import FlinkSteward.Proofs.Control.Trigger
import FlinkSteward.Proofs.Observe.Passes
import FlinkSteward.Proofs.Value.Same

/-!
# One manual savepoint for one nonce

A manual savepoint that was asked for leaves its nonce in the record of what was last applied, and so
does every application. The record is a text. What comes back of it is the same nonce, so that no
savepoint is due again before the user asks for another one; a request that fails leaves no trace.

## Key results

- `JobSpec.Took`: a record that takes every nonce that is the same as one
- `Tended`: runs, with the manual requests that were accepted
- `Tended.tidy`: the invariant
- `manual_savepoint_once`: what it says for both kinds of resources
-/

namespace FlinkSteward

open RecordedResource

/-! ## Nonces in records -/

namespace JobSpec

/-- Every nonce that is the `same` as this one is the same as the nonce of the job. -/
def Took (nonce : Value) (job : JobSpec) : Prop :=
  ∀ v : Value, v.same nonce = true → v.same job.nonce = true

variable {job : JobSpec} {nonce : Value}

theorem Valid.sound_nonce (h : job.Valid) : job.nonce.Sound := by
  rw [JobSpec.nonce]
  cases hn : job.savepointTriggerNonce with
  | none => trivial
  | some v => exact (h.nonce v hn).1

theorem nonce_arrange_sorted (job : JobSpec) : (job.arrange .sorted).nonce = Json.sorted job.nonce := by
  rw [nonce, nonce, arrange]
  cases job.savepointTriggerNonce with
  | none => simp [Value.ofOption, Json.sorted]
  | some v => rfl

/-- A job that went through a text `Took` the nonces that are the same as its own. -/
theorem Valid.took (h : job.Valid) (hnonce : job.nonce.same nonce = true) :
    (job.arrange .sorted).Took nonce := by
  intro v hv
  rw [nonce_arrange_sorted]
  exact Value.same_sorted (Value.same_of_same h.sound_nonce hv hnonce)

/-- A nonce that a job `Took` makes no savepoint due. -/
theorem Took.not_due {old : JobSpec} (h : old.Took nonce) (hnonce : job.nonce.same nonce = true) :
    isManualDue (some job) (some old) = false := by
  have hsame : (nonceOf (some job)).same (nonceOf (some old)) = true := h _ hnonce
  rw [isManualDue, hsame]
  simp

end JobSpec

/-! ## Runs -/

variable {ρ : Type} [Resource ρ] {nonce : Value} {r s start : ρ} {ids : List Value}

/-- The resource asks for a job with this nonce. -/
def Resource.Asks (nonce : Value) (r : ρ) : Prop :=
  ∃ job, Resource.jobSpec (Resource.spec r) = some job ∧ job.nonce.same nonce = true

/-- The ids of a manual request that was accepted. -/
def acceptedManual : Option (SavepointTrigger × Outcome Value) → List Value
  | some (.manual, .ok id) => [id]
  | _ => []

variable [ObservedResource ρ]

/-- Passes, calls of `Operator.triggerIfDue`, stops and applications in any order, while the user
`Asks` for a job with one nonce and changes anything else. Beside the resource stand the ids of the
manual requests that were accepted, latest first. -/
inductive Tended (nonce : Value) (start : ρ) : ρ → List Value → Prop where
  | start : Tended nonce start start []
  /-- The user asks for something else, with the same nonce. -/
  | edited {r s : ρ} {ids : List Value} (h : Tended nonce start r ids)
    (hvalid : Valid (ρ := ρ) (Resource.spec s)) (hasks : Resource.Asks nonce s)
    (hrecorded : (Resource.reconciliation s).lastReconciledSpec =
      (Resource.reconciliation r).lastReconciledSpec) : Tended nonce start s ids
  | looked {r s : ρ} {ids : List Value} {limit : Int} (h : Tended nonce start r ids)
    (hl : ObservedResource.Look limit r s) : Tended nonce start s ids
  | triggered {r : ρ} {ids : List Value} {σ : Type} {o : Operator σ} (h : Tended nonce start r ids)
    (ho : o.Dependable) (conf : Config) (w : σ) :
    Tended nonce start ((o.triggerIfDue conf).runOn (r, w)).2.1
      (acceptedManual (o.asked conf r w) ++ ids)
  | suspended {r : ρ} {ids : List Value} {σ : Type} (h : Tended nonce start r ids) (o : Operator σ)
    (mode : UpgradeMode) (conf : Config) (w : σ) :
    Tended nonce start ((o.suspend mode conf).runOn (r, w)).2.1 ids
  | applied {r : ρ} {ids : List Value} {σ : Type} (h : Tended nonce start r ids) (o : Operator σ)
    (w : σ) : Tended nonce start (o.recordApplied.runOn (r, w)).2.1 ids

/-- The record of what was last applied has a job, which `Took` the nonce if a request was
accepted. -/
structure Tidy (nonce : Value) (r : ρ) (ids : List Value) : Prop where
  valid : Valid (ρ := ρ) (Resource.spec r)
  asks : Resource.Asks nonce r
  record : ∃ (applied : Resource.Spec ρ) (old : JobSpec),
    (Resource.reconciliation r).lastReconciled = .ok (some applied) ∧
    Resource.jobSpec applied = some old ∧ (ids ≠ [] → old.Took nonce)
  once : ids.length ≤ 1

namespace Tidy

theorem of_sameRecord (h : Tidy nonce r ids) (hs : SameRecord r s) : Tidy nonce s ids where
  valid := by rw [hs.spec]; exact h.valid
  asks := by rw [Resource.Asks, hs.spec]; exact h.asks
  record := by rw [hs.lastReconciled]; exact h.record
  once := h.once

/-- `Operator.recordApplied` leaves a `Tidy` resource, and takes the nonce. -/
theorem recordApplied {σ : Type} (h : Tidy nonce r ids) (o : Operator σ) (w : σ) :
    Tidy nonce (o.recordApplied.runOn (r, w)).2.1 ids := by
  rcases o.recordApplied_eq_or r w with hs | ⟨time, hs⟩
  · rwa [hs]
  · obtain ⟨job, hjob, hnonce⟩ := h.asks
    rw [hs]
    refine ⟨by simpa using h.valid, ⟨job, by simpa using hjob, hnonce⟩, ?_, h.once⟩
    rw [reconciliation_withError, reconciliation_withReconciliation]
    refine ⟨_, job.arrange .sorted, lastReconciled_record
      (r := { Resource.reconciliation r with timestamp := .int time }) h.valid, by simp [hjob], ?_⟩
    exact fun _ => (valid_job h.valid hjob).took hnonce

/-- `Resource.requested` with a manual savepoint leaves a `Tidy` resource; one is due only if nothing
took the nonce before. -/
theorem requested (h : Tidy nonce r ids) {job : JobSpec}
    (hjob : Resource.jobSpec (Resource.spec r) = some job) {applied : Option (Resource.Spec ρ)}
    (happlied : (Resource.reconciliation r).lastReconciled = .ok applied)
    (hdue : isManualDue (some job) (applied.bind Resource.jobSpec) = true) (id : Value) (time : Int) :
    Tidy nonce (Resource.requested r .manual id time) (id :: ids) := by
  obtain ⟨recorded, old, hrecorded, hold, htook⟩ := h.record
  obtain rfl : some recorded = applied := Except.ok.inj (hrecorded.symm.trans happlied)
  obtain ⟨_, hasked, hnonce⟩ := h.asks
  obtain rfl := Option.some.inj (hjob.symm.trans hasked)
  have hids : ids = [] := by
    by_contra hne
    rw [Option.bind_some, hold, (htook hne).not_due hnonce] at hdue
    contradiction
  have hvalid := valid_job h.valid hjob
  refine ⟨by simpa using h.valid, ⟨job, by simpa using hjob, hnonce⟩, ?_, by simp [hids]⟩
  rw [Resource.reconciliation_requested hjob happlied hold]
  refine ⟨_, JobSpec.arrange .sorted { old with savepointTriggerNonce := job.savepointTriggerNonce },
    lastReconciled_record (valid_withNonce (valid_of_lastReconciled happlied) hold hvalid),
    by simp [Operator.withNonce], fun _ => ?_⟩
  -- the nonce is that of the job, and the rest of what was applied is as valid as it was
  have hv := valid_job (valid_of_lastReconciled happlied) hold
  exact JobSpec.Valid.took ⟨hv.parallelism, hvalid.nonce, hv.allowNonRestoredState⟩ hnonce

theorem triggerIfDue {σ : Type} {o : Operator σ} (h : Tidy nonce r ids) (ho : o.Dependable)
    (conf : Config) (w : σ) :
    Tidy nonce ((o.triggerIfDue conf).runOn (r, w)).2.1
      (acceptedManual (o.asked conf r w) ++ ids) := by
  have hcall := o.asked_outcome ho conf r w
  rcases hrun : (o.triggerIfDue conf).runOn (r, w) with ⟨outcome, s, v⟩
  rcases hask : o.asked conf r w with _ | ⟨trigger, _ | id⟩ <;> rw [hask, hrun] at hcall
  · obtain ⟨rfl, -⟩ := hcall
    exact h
  · obtain ⟨rfl, -⟩ := hcall
    cases trigger <;> exact h
  obtain ⟨-, time, rfl⟩ := hcall
  cases trigger with
  | periodic => exact h.of_sameRecord ⟨by simp, by simp [Resource.requested, Resource.begun]⟩
  | unknown => exact h.of_sameRecord ⟨by simp, by simp [Resource.requested, Resource.begun]⟩
  | manual =>
    obtain ⟨job, haskable, applied, happlied, hdue⟩ := (Operator.asked_manual_iff ho).1 ⟨_, hask⟩
    exact h.requested (Resource.askable_eq_some haskable).1 happlied hdue id time

end Tidy

/-- A resource that is `Tended` stays `Tidy`. By induction on the run, with a case for each of its
steps. -/
theorem Tended.tidy (h : Tended nonce start r ids) (hstart : Tidy nonce start []) :
    Tidy nonce r ids := by
  induction h with
  | start => exact hstart
  | edited _ hvalid hasks hrecorded ih =>
    have hrecord := ih.record
    rw [← ReconciliationStatus.lastReconciled_congr hrecorded] at hrecord
    exact ⟨hvalid, hasks, hrecord, ih.once⟩
  | looked _ hl ih => exact ih.of_sameRecord (ObservedResource.sameRecord_of_look hl)
  | triggered _ ho conf w ih => exact ih.triggerIfDue ho conf w
  | suspended _ o mode conf w ih =>
    exact ih.of_sameRecord (Operator.keeps_suspend (SameRecord.lasting _) _ w (.refl _)).1
  | applied _ o w ih => exact ih.recordApplied o w

/-- Whatever the user changes but the nonce (`Asks`), whatever the clusters answer and in whatever
order a resource is `Tended`, that is looked at, stopped, applied and asked for savepoints: since a
job was last applied, at most one manual savepoint for the nonce is accepted. A call of
`Operator.triggerIfDue` whose request is accepted changes the nonce in the record of what was last
applied, and nothing else of it; a call whose request fails leaves the resource as it is, so that the
next call asks again. -/
theorem manual_savepoint_once (hvalid : Valid (ρ := ρ) (Resource.spec r))
    {applied : Resource.Spec ρ} {old : JobSpec}
    (happlied : (Resource.reconciliation r).lastReconciled = .ok (some applied))
    (hold : Resource.jobSpec applied = some old) :
    (∀ {nonce s ids}, Resource.Asks nonce r → Tended nonce r s ids → ids.length ≤ 1) ∧
    ∀ {σ : Type} {o : Operator σ}, o.Dependable → ∀ conf w,
      (∀ id, o.asked conf r w = some (.manual, .ok id) →
        ((o.triggerIfDue conf).runOn (r, w)).1 = .ok (some .manual) ∧
        ∃ job, Resource.jobSpec (Resource.spec r) = some job ∧ ∃ t : Resource.Spec ρ,
          (Resource.reconciliation ((o.triggerIfDue conf).runOn (r, w)).2.1).lastReconciled =
            .ok (some t) ∧
          Alike (ρ := ρ) t (Resource.withJobSpec (ρ := ρ) applied
            { old with savepointTriggerNonce := job.savepointTriggerNonce })) ∧
      ∀ trigger f, o.asked conf r w = some (trigger, .error f) →
        ((o.triggerIfDue conf).runOn (r, w)).1 = .error f ∧
        ((o.triggerIfDue conf).runOn (r, w)).2.1 = r ∧
        (trigger = .manual → ∀ {τ : Type} {o' : Operator τ}, o'.Dependable → ∀ conf' w',
          ∃ answer, o'.asked conf' r w' = some (.manual, answer)) := by
  refine ⟨fun hasks h => (h.tidy ⟨hvalid, hasks, ⟨applied, old, happlied, hold, by simp⟩,
    by simp⟩).once, fun ho conf w => ?_⟩
  have hcall := Operator.asked_outcome ho conf r w
  generalize (Operator.triggerIfDue _ conf).runOn (r, w) = call at hcall ⊢
  refine ⟨fun id hask => ?_, fun trigger f hask => ?_⟩ <;> rw [hask] at hcall
  · obtain ⟨houtcome, time, hs⟩ := hcall
    obtain ⟨job, haskable, -⟩ := (Operator.asked_manual_iff ho).1 ⟨_, hask⟩
    have hjob := (Resource.askable_eq_some haskable).1
    refine ⟨houtcome, job, hjob, _, ?_, alike_sorted (ρ := ρ) _⟩
    rw [hs, Resource.reconciliation_requested hjob happlied hold]
    exact lastReconciled_record (valid_withNonce (valid_of_lastReconciled happlied) hold
      (valid_job hvalid hjob))
  · refine ⟨hcall.2, hcall.1, ?_⟩
    rintro rfl τ o' ho' conf' w'
    -- whether a manual savepoint is due depends on the resource alone, which is as it was
    exact (Operator.asked_manual_iff ho').2 ((Operator.asked_manual_iff ho).1 ⟨_, hask⟩)

/-- A cluster whose user has asked for a savepoint since its job was applied. -/
def numberedDeployment : Deployment where
  metadata := { name := some "basic" }
  spec := { job := some { savepointTriggerNonce := some (.int 1) } }
  status.job := { jobId := some "a1" }
  status.reconciliation := {
    lastReconciledSpec := some (Spec.serialize { job := some {} : DeploymentSpec }) }

theorem numberedDeployment_valid : numberedDeployment.spec.Valid :=
  { DeploymentSpec.valid_empty with
    job := by
      rintro _ ⟨⟩
      exact { JobSpec.valid_empty with nonce := by rintro _ ⟨⟩; exact Content.valid_int 1 } }

/-- One manual savepoint of its job is accepted, and its nonce recorded. -/
theorem numberedDeployment_once :
    (∀ {d ids}, Tended (.int 1) numberedDeployment d ids → ids.length ≤ 1) ∧
    ∃ d, Tended (.int 1) numberedDeployment d [.text "trigger-1"] ∧ ∃ t : DeploymentSpec,
      d.status.reconciliation.lastReconciled = .ok (some t) ∧
      t.Alike { job := some { savepointTriggerNonce := some (.int 1) } } := by
  have happlied : numberedDeployment.status.reconciliation.lastReconciled =
      .ok (some { job := some {} : DeploymentSpec }) := by decide +kernel
  have hold : Resource.jobSpec (ρ := Deployment) { job := some {} : DeploymentSpec } = some {} := rfl
  have hasks : Resource.Asks (.int 1) numberedDeployment := ⟨_, rfl, by decide⟩
  have hasked : memoryOperator.asked [] numberedDeployment quietWorld =
      some (.manual, .ok (.text "trigger-1")) := by decide +kernel
  obtain ⟨honce, hcall⟩ := manual_savepoint_once (r := numberedDeployment) numberedDeployment_valid
    happlied hold
  have hstart : Tended (.int 1) numberedDeployment numberedDeployment [] := .start
  have hrun := hstart.triggered memoryOperator_dependable [] quietWorld
  rw [hasked] at hrun
  obtain ⟨-, _, hjob, t, ht, halike⟩ := (hcall memoryOperator_dependable [] quietWorld).1 _ hasked
  cases hjob
  exact ⟨honce hasks, _, hrun, t, ht, halike⟩

end FlinkSteward
