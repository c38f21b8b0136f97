import FlinkSteward.Proofs.Control.History
import FlinkSteward.Proofs.Observe.Look
import FlinkSteward.Proofs.Resource.Recorded

/-!
# What passes make of savepoints

A pass looks at the pending savepoint once, and at nothing of the savepoints otherwise. If it finds
out that the savepoint failed or took too long, it says so on the resource. It leaves what is asked
for and the record of what was last applied.

## Key results

- `SavepointInfo.Resolution`: what a look makes of the savepoints, and what it says
- `Subject.Leads`: actions that lead from one property of the resource to another
- `Operator.observeSavepoint_resolution`: a look
- `ObservedResource`: passes over both kinds of resources
-/

namespace FlinkSteward

/-- What a look makes of the savepoints of a job, and what is told if one came to nothing, for an
operator that remembers so many. -/
inductive SavepointInfo.Resolution (limit : Int) (s : SavepointInfo) :
    SavepointInfo → Option String → Prop where
  /-- There is nothing to look at, or nothing new. -/
  | same : Resolution limit s s none
  /-- Nobody knows when the pending savepoint was asked for, and its time counts from now. -/
  | dated (hpending : s.isPending = true) (hsince : s.triggerTimestamp = none) (time : Int) :
    Resolution limit s { s with triggerTimestamp := some (.int time) } none
  /-- The pending savepoint has failed. -/
  | failed (hpending : s.isPending = true) (cause : Value) :
    Resolution limit s s.clear (some (savepointFailed cause))
  /-- The pending savepoint took too long. -/
  | timedOut (hpending : s.isPending = true) (job : Value) (budget : Duration) :
    Resolution limit s s.clear (some (savepointTimedOut (Value.ofOption s.triggerId) job budget))
  /-- The pending savepoint is there. -/
  | completed (hpending : s.isPending = true) (time : Int) (place : Value) :
    Resolution limit s (s.complete {
      timeStamp := .int time
      location := place.nonNull?
      trigger := s.triggerType.getD .unknown } (some limit)) none

/-! ## Looks -/

namespace Operator

variable {ρ σ : Type} [Resource ρ] [LawfulResource ρ]

theorem Looks.resolution {o : Operator σ} {job : Value} {conf : Config} {s t : SavepointInfo}
    {w u : σ} {message : Option String} (h : o.Looks job conf s w (.ok message) t u) :
    s.Resolution o.settings.historyLimit t message := by
  cases h with
  | idle => exact .same
  | failed hpending => exact .failed hpending _
  | overdue hpending => exact .timedOut hpending job _
  | found hpending => exact .completed hpending _ _
  | @waits v u now hpending =>
    cases hsince : s.triggerTimestamp with
    | none =>
      rw [SavepointInfo.waiting_of_none hsince]
      exact .dated hpending hsince now
    | some since =>
      rw [SavepointInfo.waiting_of_some hsince]
      exact .same

/-- `observeSavepoint` fails without a change, or brings the `Resolution` of the pending savepoint. -/
theorem observeSavepoint_resolution (o : Operator σ) (job : Value) (conf : Config) (r : ρ) (w : σ) :
    match (o.observeSavepoint job conf).runOn (r, w) with
    | (.ok message, s, _) => ∃ info,
      (Resource.job r).savepoints.Resolution o.settings.historyLimit info message ∧
      s = Resource.withJob r { Resource.job r with savepoints := info }
    | (.error _, s, _) => s = r := by
  obtain ⟨info, hleft, hlook⟩ := o.observeSavepoint_looks job conf r w
  rcases hrun : (o.observeSavepoint job conf).runOn (r, w) with ⟨f | message, s, v⟩ <;>
    rw [hrun] at hleft hlook
  · rw [hlook.eq_of_error, LawfulResource.withJob_job] at hleft
    exact hleft
  · exact ⟨info, hlook.resolution, hleft⟩

end Operator

/-! ## Passes -/

/-- A resource after the `Resolution` of the savepoints that it had, and of its last error. -/
def Resolved {ρ : Type} [Resource ρ] [RecordedResource ρ] (limit : Int) (r s : ρ) : Prop :=
  ∃ message, (Resource.job r).savepoints.Resolution limit (Resource.job s).savepoints message ∧
    RecordedResource.error s = message.or (RecordedResource.error r)

/-- Resources with the same savepoints and the same last error. -/
structure SameSavepoints {ρ : Type} [Resource ρ] [RecordedResource ρ] (r s : ρ) : Prop where
  savepoints : (Resource.job s).savepoints = (Resource.job r).savepoints
  error : RecordedResource.error s = RecordedResource.error r

namespace SameSavepoints

variable {ρ : Type} [Resource ρ] [RecordedResource ρ] {limit : Int} {r s : ρ}

theorem refl (r : ρ) : SameSavepoints r r :=
  ⟨rfl, rfl⟩

theorem resolved (h : SameSavepoints r s) : Resolved limit r s :=
  ⟨none, by rw [h.savepoints]; exact .same, h.error⟩

end SameSavepoints

/-- Two resources with the same savepoints were `Resolved` alike. -/
theorem Resolved.trans_same {ρ : Type} [Resource ρ] [RecordedResource ρ] {limit : Int} {r s t : ρ}
    (h : Resolved limit r s) (hst : SameSavepoints s t) : Resolved limit r t := by
  obtain ⟨message, hres, herror⟩ := h
  exact ⟨message, by rwa [hst.savepoints], by rw [hst.error, herror]⟩

namespace Subject

variable {ρ σ α β : Type} {I J : ρ → Prop} {P : α → Prop} {Q : β → Prop}

/-- Whatever the world is, the action leads from one property of the resource to another one, also
when it fails. -/
def Leads (I : ρ → Prop) (a : Action (ρ × σ) α) (J : ρ → Prop) : Prop :=
  ∀ r w, I r → J (a.runOn (r, w)).2.1

namespace Leads

theorem pure {x : α} (hJ : ∀ r, I r → J r) : Leads I (Pure.pure x : Action (ρ × σ) α) J :=
  fun r _ hr => hJ r hr

/-- `a >>= f` leads on from where `a` stays. -/
theorem after {a : Action (ρ × σ) α} {f : α → Action (ρ × σ) β} (ha : Keeps I a P)
    (hJ : ∀ r, I r → J r) (hf : ∀ x, P x → Leads I (f x) J) : Leads I (a >>= f) J := by
  intro r w hr
  obtain ⟨hI, hP⟩ := ha r w hr
  rw [Action.runOn_bind]
  rcases hrun : a.runOn (r, w) with ⟨_ | x, t, v⟩
  · rw [hrun] at hI
    exact hJ t hI
  · rw [hrun] at hI hP
    exact hf x (hP x rfl) t v hI

/-- `a >>= f` stays where `a` leads. -/
theorem before {a : Action (ρ × σ) α} {f : α → Action (ρ × σ) β} (ha : Leads I a J)
    (hf : ∀ x, Keeps J (f x) Q) : Leads I (a >>= f) J := by
  intro r w hr
  have hJ := ha r w hr
  rw [Action.runOn_bind]
  rcases hrun : a.runOn (r, w) with ⟨_ | x, t, v⟩
  · rwa [hrun] at hJ
  · rw [hrun] at hJ
    exact (hf x t v hJ).1

end Leads

end Subject

namespace Operator

open Subject

section Settle

variable {ρ σ : Type} [Resource ρ] [RecordedResource ρ] {o : Operator σ} {conf : Config} {start : ρ}

/-- `settleSavepoint` leads to the pending savepoint `Resolved`, and says what went wrong. -/
theorem settleSavepoint_leads : Leads (SameSavepoints start)
    (o.settleSavepoint conf : Action (ρ × σ) Unit) (Resolved o.settings.historyLimit start) := by
  intro r w hr
  simp only [settleSavepoint, Action.runOn_bind, Subject.runOn_job]
  have hlook := o.observeSavepoint_resolution (Resource.job r).jobIdValue conf r w
  rcases hrun : (o.observeSavepoint (Resource.job r).jobIdValue conf).runOn (r, w) with
    ⟨f | message, s, v⟩ <;> rw [hrun] at hlook
  · obtain rfl : s = r := hlook
    exact hr.resolved
  obtain ⟨info, hres, rfl⟩ := hlook
  rw [hr.savepoints] at hres
  cases message with
  | none => exact ⟨none, by simpa using hres, by simp [hr.error]⟩
  | some message =>
    refine ⟨some message, ?_, ?_⟩
    · simpa [recordError, setError] using hres
    · simp [recordError, setError]

/-- `observeJob` leaves the savepoints of a job. -/
theorem keeps_savepoints_observeJob {budget : Option Duration} {onTimeout : Action (ρ × σ) Unit}
    (htimeout : Keeps (SameSavepoints start) onTimeout fun _ => True) :
    Keeps (SameSavepoints start) (o.observeJob conf budget onTimeout) fun _ => True :=
  keeps_observeJob (fun _ _ _ hr => ⟨by simp [← hr.savepoints, JobStatus.observed],
    by simp [hr.error]⟩) htimeout

theorem resolved_markStable {limit : Int} (r : ρ) (hr : Resolved limit start r) :
    Resolved limit start
      (Resource.withReconciliation r (Resource.reconciliation r).markStable) :=
  hr.trans_same ⟨by simp, by simp⟩

end Settle

variable {σ : Type} (o : Operator σ)

theorem observeApplication_leads {conf : Config} {start : Deployment} :
    Leads (SameSavepoints start) (o.observeApplication conf)
      (Resolved o.settings.historyLimit start) := by
  have hmanager : Keeps (SameSavepoints start)
      (o.observeManager conf : Action (Deployment × σ) Unit) fun _ => True :=
    keeps_observeManager fun _ _ h => ⟨h.savepoints, h.error⟩
  refine .after (keeps_savepoints_observeJob hmanager) (fun _ h => h.resolved) fun found _ => ?_
  split
  · refine .before settleSavepoint_leads fun _ => .bind (R := fun _ => True) .job fun status _ => ?_
    split
    · exact .modify resolved_markStable
    · exact .pure trivial
  · exact .pure fun _ h => h.resolved

/-- `observeDeployment` looks at the savepoints of a cluster at most once. -/
theorem observeDeployment_resolved (d : Deployment) (w : σ) :
    Resolved o.settings.historyLimit d (o.observeDeployment.runOn (d, w)).2.1 := by
  have hresolved : ∀ e, SameSavepoints d e → Resolved o.settings.historyLimit d e :=
    fun _ h => h.resolved
  -- until the job is looked at, the savepoints are as they were
  have hpass : Leads (SameSavepoints d) o.observeDeployment
      (Resolved o.settings.historyLimit d) := by
    refine .after .get hresolved fun _ _ => .after .outside hresolved fun conf _ => ?_
    cases conf with
    | none => exact .pure hresolved
    | some conf =>
      refine .after (keeps_observeManager fun _ _ h => ⟨h.savepoints, h.error⟩) hresolved
        fun _ _ => .after .get hresolved fun e _ => ?_
      split
      · refine .after .ofOutcome hresolved fun applied _ => ?_
        cases applied with
        | none => exact .pure hresolved
        | some applied =>
          simp only [observeReady]
          split
          · exact fun r w hr => resolved_markStable r hr.resolved
          · split
            · exact .pure hresolved
            · exact o.observeApplication_leads
      · exact .pure hresolved
  exact hpass d w (.refl d)

/-- `observeSessionJob` looks at the savepoints of a job at most once, too. -/
theorem observeSessionJob_resolved (session : Option Deployment) (j : SessionJob) (w : σ) :
    Resolved o.settings.historyLimit j ((o.observeSessionJob session).runOn (j, w)).2.1 := by
  have hresolved : ∀ e, SameSavepoints j e → Resolved o.settings.historyLimit j e :=
    fun _ h => h.resolved
  -- as for clusters, only what settles a savepoint touches them
  have hpass : Leads (SameSavepoints j) (o.observeSessionJob session)
      (Resolved o.settings.historyLimit j) := by
    refine .after .get hresolved fun e _ => ?_
    split
    · exact .pure hresolved
    split
    · exact .pure hresolved
    split
    · refine .after .outside hresolved fun conf _ => .after
        (keeps_savepoints_observeJob (.pure (Q := fun _ => True) trivial)) hresolved
        fun found _ => ?_
      split
      · exact settleSavepoint_leads
      · exact .pure hresolved
    · exact .pure hresolved
  exact hpass j w (.refl j)

end Operator

/-- A resource with the passes that are made over it. -/
class ObservedResource (ρ : Type) [Resource ρ] extends RecordedResource ρ where
  /-- The passes of operators that remember so many savepoints. -/
  Look : Int → ρ → ρ → Prop
  sameRecord_of_look : ∀ {limit r s}, Look limit r s → SameRecord r s
  resolved_of_look : ∀ {limit r s}, Look limit r s → Resolved limit r s

instance : ObservedResource Deployment where
  Look := Deployment.Looked
  sameRecord_of_look := by
    rintro _ d _ ⟨rfl, w⟩
    exact (Operator.keeps_observeDeployment (fun _ _ h => ⟨h.spec, h.recorded⟩)
      (SameRecord.lasting d) d w (.refl d)).1
  resolved_of_look := by
    rintro _ d _ ⟨rfl, w⟩
    exact Operator.observeDeployment_resolved _ d w

instance : ObservedResource SessionJob where
  Look := SessionJob.Looked
  sameRecord_of_look := by
    rintro _ j _ ⟨rfl, session, w⟩
    exact (Operator.keeps_observeSessionJob (SameRecord.lasting j) j w (.refl j)).1
  resolved_of_look := by
    rintro _ j _ ⟨rfl, session, w⟩
    exact Operator.observeSessionJob_resolved _ session j w

end FlinkSteward
