import FlinkSteward.Proofs.Along
import FlinkSteward.Proofs.Control.Suspend
import FlinkSteward.Proofs.Control.Trigger
import FlinkSteward.Proofs.Observe.Passes

/-!
# What the operator leaves alone

Passes, requests for savepoints, stops and records change a resource in place, and each may fail half
way. Each has fields of its own and leaves the others as they are, also where it fails, so that a run
changes a field only through a step that may.

## Key results

- `SameAim`: resources of one identity that ask for the same and track the same job, with `lasting`
- `Framed`: what a step of a kind leaves, with a lemma for each kind
- `Deed.Did`, `Recounted`: steps, and runs with an account of their steps
- `Operator.observeSessionJob_session`: a pass over a job leaves the session cluster
- `run_changes_only`: what a run leaves, and through which steps it changes the rest
-/

namespace FlinkSteward

open RecordedResource Subject

/-! ## What is left alone -/

section Frames

variable {ρ : Type} [Resource ρ]

/-- Resources of one identity that ask for the same and track the same job. -/
structure SameAim (r s : ρ) : Prop where
  metadata : Resource.metadata s = Resource.metadata r
  spec : Resource.spec s = Resource.spec r
  jobId : (Resource.job s).jobId = (Resource.job r).jobId

/-- What is done to a resource, with what came of it where that matters. -/
inductive Deed where
  /-- A pass over a cluster. -/
  | observedCluster
  /-- A pass over a job on a session cluster. -/
  | observedJob
  /-- A request for a savepoint if one is due. -/
  | asked (outcome : Outcome (Option SavepointTrigger))
  /-- A stop of the job. -/
  | stopped
  /-- A record of the specification as the one that was applied. -/
  | applied
  /-- A record of an error. -/
  | erred

/-- Whether the deed records a specification as applied. A request for a manual savepoint that was
accepted does so too, for the nonce. -/
def Deed.Records (deed : Deed) : Prop :=
  deed = .applied ∨ deed = .asked (.ok (some .manual))

/-- What a deed leaves of a resource: the `SameAim`, and the parts of the record that it does not
touch. -/
structure Framed (deed : Deed) (r s : ρ) : Prop extends SameAim r s where
  recorded : ¬ deed.Records → (Resource.reconciliation s).lastReconciledSpec =
    (Resource.reconciliation r).lastReconciledSpec
  timestamp : deed ≠ .applied →
    (Resource.reconciliation s).timestamp = (Resource.reconciliation r).timestamp
  stable : (Resource.reconciliation s).lastStableSpec =
      (Resource.reconciliation r).lastStableSpec ∨
    deed = .observedCluster ∧ (Resource.reconciliation s).lastStableSpec =
      (Resource.reconciliation r).lastReconciledSpec

namespace SameAim

variable {r s t : ρ}

theorem refl (r : ρ) : SameAim r r :=
  ⟨rfl, rfl, rfl⟩

theorem trans (hrs : SameAim r s) (hst : SameAim s t) : SameAim r t :=
  ⟨hst.metadata.trans hrs.metadata, hst.spec.trans hrs.spec, hst.jobId.trans hrs.jobId⟩

/-- `SameAim` with the same record is within the frame of every deed. -/
theorem framed (h : SameAim r s) (hsame : Resource.reconciliation s = Resource.reconciliation r)
    (deed : Deed) : Framed deed r s :=
  { h with
    recorded := fun _ => by rw [hsame]
    timestamp := fun _ => by rw [hsame]
    stable := .inl (by rw [hsame]) }

end SameAim

end Frames

/-! ## Deeds -/

/-- A resource whose passes are known, and whose identity does not depend on its status. -/
class FramedResource (ρ : Type) [Resource ρ] extends ObservedResource ρ where
  /-- What a pass over it is. -/
  observed : Deed
  metadata_withJob : ∀ (r : ρ) s, Resource.metadata (Resource.withJob r s) = Resource.metadata r
  metadata_withReconciliation : ∀ (r : ρ) s,
    Resource.metadata (Resource.withReconciliation r s) = Resource.metadata r
  metadata_withError : ∀ (r : ρ) e, Resource.metadata (Resource.withError r e) = Resource.metadata r
  framed_of_look : ∀ {limit} {r s : ρ}, ObservedResource.Look limit r s → Framed observed r s

attribute [simp] FramedResource.metadata_withJob FramedResource.metadata_withReconciliation
  FramedResource.metadata_withError

/-- Whatever is observed of a cluster is `Framed` by a pass over it, which may mark what was last
applied as stable. -/
theorem Lasting.framed (d : Deployment) : Lasting (Framed .observedCluster d) where
  job e s h hs := { h with
    jobId := by
      rw [← h.jobId]
      cases hs <;> rfl }
  stable e h := { h with stable := .inr ⟨rfl, h.recorded (by simp [Deed.Records])⟩ }
  error e _ h := { h with }

theorem Deployment.Looked.framed {limit : Int} {d e : Deployment} (h : d.Looked limit e) :
    Framed .observedCluster d e := by
  obtain ⟨rfl, w⟩ := h
  exact (Operator.keeps_observeDeployment (fun _ _ h => { h with }) (.framed d) d w
    ((SameAim.refl d).framed rfl _)).1

/-- Whatever is observed of a job on a session cluster is `Framed` by a pass over it, which marks
nothing as stable. -/
theorem Watching.framed (limit : Int) (j : SessionJob) : Watching limit (Framed .observedJob j) where
  settled _ _ h _ := { h with }
  error _ _ h := { h with }
  reported _ _ _ h := { h with }

theorem SessionJob.Looked.framed {limit : Int} {j k : SessionJob} (h : j.Looked limit k) :
    Framed .observedJob j k := by
  obtain ⟨rfl, session, w⟩ := h
  exact (Operator.keeps_observeSessionJob_of_watching (.framed _ j) j w
    ((SameAim.refl j).framed rfl _)).1

instance : FramedResource Deployment where
  observed := .observedCluster
  metadata_withJob _ _ := rfl
  metadata_withReconciliation _ _ := rfl
  metadata_withError _ _ := rfl
  framed_of_look := Deployment.Looked.framed

instance : FramedResource SessionJob where
  observed := .observedJob
  metadata_withJob _ _ := rfl
  metadata_withReconciliation _ _ := rfl
  metadata_withError _ _ := rfl
  framed_of_look := SessionJob.Looked.framed

section Deeds

variable {ρ σ : Type} [Resource ρ] [FramedResource ρ] {o : Operator σ} {conf : Config}

namespace Resource

variable {r : ρ} {trigger : SavepointTrigger} {id : Value} {time : Int}

@[simp] theorem metadata_requested : metadata (requested r trigger id time) = metadata r := by
  unfold requested
  split
  · split <;> simp [begun]
  · simp [begun]

/-- `Resource.requested` leaves the nonce of a manual savepoint only in the record. -/
theorem reconciliation_requested_of_ne (htrigger : trigger ≠ .manual) :
    reconciliation (requested r trigger id time) = reconciliation r := by
  cases trigger with
  | manual => exact absurd rfl htrigger
  | periodic => simp [requested, begun]
  | unknown => simp [requested, begun]

theorem framed_requested :
    Framed (.asked (.ok (some trigger))) r (requested r trigger id time) where
  metadata := metadata_requested
  spec := spec_requested
  jobId := by rw [job_requested]
  recorded hother := by
    rw [reconciliation_requested_of_ne]
    rintro rfl
    exact hother (.inr rfl)
  timestamp _ := by
    rcases @reconciliation_requested_eq_or ρ _ _ r trigger id time with
      h | ⟨_, _, _, -, -, -, h⟩ <;> rw [h]
    rfl
  stable := .inl <| by
    rcases @reconciliation_requested_eq_or ρ _ _ r trigger id time with
      h | ⟨_, _, _, -, -, -, h⟩ <;> rw [h]
    rfl

end Resource

namespace Operator

variable (o conf) (r : ρ) (w : σ)

/-- `Operator.triggerIfDue` is `Framed`: a request that comes to nothing leaves everything, and one
that is accepted says so. -/
theorem framed_triggerIfDue :
    Framed (.asked ((o.triggerIfDue conf).runOn (r, w)).1) r
      ((o.triggerIfDue conf).runOn (r, w)).2.1 := by
  rw [triggerIfDue_runOn]
  -- what may fail comes first, and the resource changes only at the end
  rcases (o.findDue conf r).runOn w with ⟨_ | _ | trigger, v⟩
  · exact (SameAim.refl r).framed rfl _
  · exact (SameAim.refl r).framed rfl _
  dsimp only
  rcases (o.requestSavepoint conf (Resource.job r).jobIdValue).runOn v with ⟨_ | id, u⟩
  · exact (SameAim.refl r).framed rfl _
  dsimp only
  rcases o.now.runOn u with ⟨_ | time, x⟩
  · exact (SameAim.refl r).framed rfl _
  · exact Resource.framed_requested

theorem framed_suspend (mode : UpgradeMode) :
    Framed .stopped r ((o.suspend mode conf).runOn (r, w)).2.1 := by
  rcases hrun : (o.suspend mode conf).runOn (r, w) with ⟨_ | place, s, v⟩
  · rw [suspend_eq_error hrun]
    exact (SameAim.refl r).framed rfl _
  · obtain ⟨_, time, -, -, rfl⟩ := suspend_eq_ok.1 hrun
    exact SameAim.framed ⟨by simp, by simp, by simp [JobStatus.stopped]⟩ (by simp) _

theorem framed_recordApplied : Framed .applied r (o.recordApplied.runOn (r, w)).2.1 := by
  rcases o.recordApplied_eq_or r w with h | ⟨time, h⟩ <;> rw [h]
  · exact (SameAim.refl r).framed rfl _
  · exact {
      metadata := by simp
      spec := by simp
      jobId := by simp
      recorded := fun hother => absurd (.inl rfl) hother
      timestamp := fun hother => absurd rfl hother
      stable := .inl (by simp [ReconciliationStatus.record]) }

end Operator

theorem Subject.framed_recordError (message : String) (r : ρ) (w : σ) :
    Framed .erred r ((Subject.recordError message : Action (ρ × σ) Unit).runOn (r, w)).2.1 := by
  rw [Subject.recordError, Subject.setError, Subject.runOn_modify]
  exact SameAim.framed ⟨by simp, by simp, by simp⟩ (by simp) _

end Deeds

/-! ## Runs -/

section Runs

variable {ρ : Type} [Resource ρ] {start r s : ρ}

/-- A step in an account of a run. -/
structure Recorded (ρ : Type) where
  deed : Deed
  before : ρ
  after : ρ

/-- What a run leaves of a resource, by an account of its steps, each of which is `Framed`. -/
structure RunFramed (start : ρ) (account : List (Recorded ρ)) (r : ρ) : Prop
    extends SameAim start r where
  steps : ∀ step ∈ account, Framed step.deed step.before step.after
  recorded : (∀ step ∈ account, ¬ step.deed.Records) →
    (Resource.reconciliation r).lastReconciledSpec =
      (Resource.reconciliation start).lastReconciledSpec
  timestamp : (∀ step ∈ account, step.deed ≠ .applied) →
    (Resource.reconciliation r).timestamp = (Resource.reconciliation start).timestamp
  stable : (Resource.reconciliation r).lastStableSpec =
      (Resource.reconciliation start).lastStableSpec ∨
    ∃ step ∈ account, step.deed = .observedCluster ∧
      (Resource.reconciliation r).lastStableSpec =
        (Resource.reconciliation step.before).lastReconciledSpec

/-- A run that is `RunFramed` stays so with one more step that is `Framed`. -/
theorem RunFramed.step {account : List (Recorded ρ)} {deed : Deed} (h : RunFramed start account r)
    (hs : Framed deed r s) : RunFramed start (⟨deed, r, s⟩ :: account) s where
  toSameAim := h.toSameAim.trans hs.toSameAim
  steps := List.forall_mem_cons.2 ⟨hs, h.steps⟩
  recorded hnone := by
    rw [List.forall_mem_cons] at hnone
    exact (hs.recorded hnone.1).trans (h.recorded hnone.2)
  timestamp hnone := by
    rw [List.forall_mem_cons] at hnone
    exact (hs.timestamp hnone.1).trans (h.timestamp hnone.2)
  stable := by
    rcases hs.stable with hsame | ⟨hdeed, hmarked⟩
    · -- the pass that marked what is stable now is among the earlier steps
      rw [hsame]
      exact h.stable.imp_right fun ⟨step, hstep, hmarked⟩ => ⟨step, .tail _ hstep, hmarked⟩
    · exact .inr ⟨_, .head _, hdeed, hmarked⟩

variable [FramedResource ρ]

/-- The steps that the operator takes on a resource, in any world, also those that fail. -/
inductive Deed.Did : Deed → ρ → ρ → Prop where
  | observed {limit : Int} {r s : ρ} (h : ObservedResource.Look limit r s) :
    Did (FramedResource.observed ρ) r s
  | asked {σ : Type} (o : Operator σ) (conf : Config) (r : ρ) (w : σ) :
    Did (.asked ((o.triggerIfDue conf).runOn (r, w)).1) r ((o.triggerIfDue conf).runOn (r, w)).2.1
  | stopped {σ : Type} (o : Operator σ) (mode : UpgradeMode) (conf : Config) (r : ρ) (w : σ) :
    Did .stopped r ((o.suspend mode conf).runOn (r, w)).2.1
  | applied {σ : Type} (o : Operator σ) (r : ρ) (w : σ) :
    Did .applied r (o.recordApplied.runOn (r, w)).2.1
  | erred {σ : Type} (message : String) (r : ρ) (w : σ) :
    Did .erred r ((Subject.recordError message : Action (ρ × σ) Unit).runOn (r, w)).2.1

/-- Every step that a deed `Did` is `Framed` by its kind. -/
theorem Deed.Did.framed {deed : Deed} (h : deed.Did r s) : Framed deed r s := by
  cases h with
  | observed hl => exact FramedResource.framed_of_look hl
  | asked o conf r w => exact o.framed_triggerIfDue conf r w
  | stopped o mode conf r w => exact o.framed_suspend conf r w mode
  | applied o r w => exact o.framed_recordApplied r w
  | erred message r w => exact Subject.framed_recordError message r w

/-- Steps that the operator `Did` in any order, with an account of them, latest first. -/
inductive Recounted (start : ρ) : List (Recorded ρ) → ρ → Prop where
  | start : Recounted start [] start
  | step {account : List (Recorded ρ)} {deed : Deed} {r s : ρ} (h : Recounted start account r)
    (hdid : deed.Did r s) : Recounted start (⟨deed, r, s⟩ :: account) s

/-- A run that is `Recounted` is `RunFramed`. By induction on the run, with the frame of each step. -/
theorem Recounted.framed {account : List (Recorded ρ)} (h : Recounted start account r) :
    RunFramed start account r := by
  induction h with
  | start =>
    exact { SameAim.refl _ with
      steps := nofun
      recorded := fun _ => rfl
      timestamp := fun _ => rfl
      stable := .inl rfl }
  | step _ hdid ih => exact ih.step hdid.framed

/-- The passes in a run that is `Recounted` are those over its kind of resource. -/
theorem Recounted.observed {account : List (Recorded ρ)} (h : Recounted start account r) :
    ∀ step ∈ account, step.deed = .observedCluster →
      FramedResource.observed ρ = .observedCluster := by
  induction h with
  | start => nofun
  | step _ hdid ih =>
    refine List.forall_mem_cons.2 ⟨fun hdeed => ?_, ih⟩
    cases hdid with
    | observed _ => exact hdeed
    | _ => exact nomatch hdeed

end Runs

/-! ## The session cluster -/

namespace Operator

variable {σ τ : Type}

/-- `Operator.onPart` leaves what an operator works beside alone. -/
theorem respects_onPart_second (o : Operator σ) :
    (o.onPart Part.second).Respects fun w v : τ × σ => v.1 = w.1 where
  send _ _ := rfl
  connect _ w := by
    simp only [onPart, Action.runOn_bind, Action.runOn_onPart]
    split <;> rename_i h <;> obtain ⟨-, rfl⟩ := Prod.mk.inj h <;> rfl
  client h := by
    obtain ⟨c, _, -, hc⟩ := Action.runOn_bind_eq_ok.1 h
    obtain ⟨rfl, -⟩ := Action.runOn_pure_eq_ok.1 hc
    exact ⟨fun _ => rfl, fun _ _ => rfl, fun _ _ _ _ => rfl, fun _ _ _ _ => rfl, fun _ _ _ => rfl,
      fun _ => rfl⟩
  now _ := rfl
  uptime _ := rfl
  files _ _ := rfl

instance : IsPreorder (τ × σ) fun w v => v.1 = w.1 where
  refl _ := rfl
  trans _ _ _ h h' := h'.trans h

/-- `Operator.observeSessionJob` leaves the session cluster that is kept beside the operator. -/
theorem observeSessionJob_session (o : Operator σ) (session : Option Deployment) (j : SessionJob)
    (w : σ) :
    (((o.onPart Part.second).observeSessionJob session).runOn (j, session, w)).2.2.1 = session :=
  o.respects_onPart_second.heeds.observeSessionJob session (j, session, w)

end Operator

/-- However a cluster or a job on a session cluster is `Recounted`, that is looked at, asked for
savepoints, stopped and recorded, whatever is answered and wherever a step fails, the run is
`RunFramed`: its identity, what it asks for and the id of its job stay. What was last applied changes
only through a record of an application and through a request for a manual savepoint that was
accepted, its time only through the former, and `lastStableSpec` only through a pass over a cluster,
and then to what was last applied at that time; for a job it never changes.
`Operator.observeSessionJob` leaves the session cluster that it is given. -/
theorem run_changes_only :
    (∀ {start d : Deployment} {account : List (Recorded Deployment)},
      Recounted start account d → RunFramed start account d) ∧
    (∀ {start j : SessionJob} {account : List (Recorded SessionJob)},
      Recounted start account j → RunFramed start account j ∧
        j.status.reconciliation.lastStableSpec = start.status.reconciliation.lastStableSpec) ∧
    ∀ {σ : Type} (o : Operator σ) (session : Option Deployment) (j : SessionJob) (w : σ),
      (((o.onPart Part.second).observeSessionJob session).runOn (j, session, w)).2.2.1 = session := by
  refine ⟨fun h => h.framed, fun h => ⟨h.framed, ?_⟩, fun o => o.observeSessionJob_session⟩
  exact h.framed.stable.resolve_right fun ⟨step, hstep, hdeed, _⟩ =>
    nomatch h.observed step hstep hdeed

/-- A cluster whose user asks for a savepoint of a job that was applied. -/
def requestingDeployment : Deployment where
  spec := { job := some { savepointTriggerNonce := some (.int 1) } }
  status := {
    job.jobId := some "a1"
    reconciliation := { lastReconciledSpec := some "\x7b\"job\":\x7b\x7d\x7d" } }

/-- A manual savepoint and a stop change what was last applied, and nothing else of the record; an
error changes nothing of the record of a job. -/
theorem requestingDeployment_changes_only :
    (∃ (d : Deployment) (account : List (Recorded Deployment)),
      Recounted requestingDeployment account d ∧
      account.map Recorded.deed = [.stopped, .asked (.ok (some .manual))] ∧
      d.status.reconciliation.lastReconciledSpec ≠
        requestingDeployment.status.reconciliation.lastReconciledSpec ∧
      d.spec = requestingDeployment.spec ∧ d.status.reconciliation.timestamp = .int 0) ∧
    ∃ j : SessionJob, Recounted {} [⟨.erred, {}, j⟩] j ∧ j.status.error = some "late" ∧
      j.status.reconciliation.lastStableSpec = none := by
  have hasked : ((memoryOperator.triggerIfDue []).runOn (requestingDeployment, quietWorld)).1 =
      .ok (some .manual) := by decide +kernel
  have hchanged : ((memoryOperator.suspend .stateless []).runOn
      (((memoryOperator.triggerIfDue []).runOn (requestingDeployment, quietWorld)).2.1,
        quietWorld)).2.1.status.reconciliation.lastReconciledSpec ≠
      requestingDeployment.status.reconciliation.lastReconciledSpec := by decide +kernel
  have hstart : Recounted requestingDeployment [] requestingDeployment := .start
  have hrun := (hstart.step (.asked memoryOperator [] _ quietWorld)).step
    (.stopped memoryOperator .stateless [] _ quietWorld)
  rw [hasked] at hrun
  generalize ((memoryOperator.suspend .stateless []).runOn (((memoryOperator.triggerIfDue []).runOn
    (requestingDeployment, quietWorld)).2.1, quietWorld)).2.1 = d at hrun hchanged
  have hframed := run_changes_only.1 hrun
  have htime := hframed.timestamp (by simp)
  have hjob := Recounted.start.step (.erred "late" ({} : SessionJob) ())
  exact ⟨⟨d, _, hrun, rfl, hchanged, hframed.spec, htime⟩,
    _, hjob, rfl, (run_changes_only.2.1 hjob).2⟩

end FlinkSteward
