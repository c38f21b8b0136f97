import FlinkSteward.Control.Trigger
import FlinkSteward.Observe.Deployment

/-!
# What actions on resources keep

An action on a resource changes it a few times at most, and each change is of a known kind. A
property that holds through each of them holds after the action too, whatever the world answers and
whether the action fails or not.

## Key results

- `Subject.Keeps`: a property that an action keeps, with what is known of its result
- `Subject.Keeps.broken_after`: a property that a sequence breaks is broken by the rest of it
- `LawfulResource`: the parts of a resource do not depend on each other
- `Lasting`: a property that holds through everything that is observed
- `Watching`: a property that holds through looks at a job, `Settling` through those at its
  savepoints
- `Operator.keeps_suspend`, `Operator.keeps_triggerIfDue`, `Operator.keeps_observeDeployment`,
  `Operator.keeps_observeSessionJob`: what the operator's actions keep
-/

namespace FlinkSteward

namespace Subject

variable {ρ σ α β : Type} {I : ρ → Prop} {P Q : α → Prop} {R : β → Prop}

/-- Whatever the world is, the action leaves a property of the resource as it was, also when it
fails, and the results that it gives have a property of their own. -/
def Keeps (I : ρ → Prop) (a : Action (ρ × σ) α) (Q : α → Prop) : Prop :=
  ∀ r w, I r → I (a.runOn (r, w)).2.1 ∧ ∀ x, (a.runOn (r, w)).1 = .ok x → Q x

namespace Keeps

theorem pure {x : α} (hx : Q x) : Keeps I (Pure.pure x : Action (ρ × σ) α) Q := by
  intro r w hr
  refine ⟨hr, fun y hy => ?_⟩
  rw [← Except.ok.inj hy]
  exact hx

theorem bind {a : Action (ρ × σ) α} {f : α → Action (ρ × σ) β} (ha : Keeps I a P)
    (hf : ∀ x, P x → Keeps I (f x) R) : Keeps I (a >>= f) R := by
  intro r w hr
  obtain ⟨hI, hP⟩ := ha r w hr
  rw [Action.runOn_bind]
  rcases hrun : a.runOn (r, w) with ⟨_ | x, t, v⟩
  · rw [hrun] at hI
    exact ⟨hI, fun _ h => nomatch h⟩
  · rw [hrun] at hI hP
    exact hf x (hP x rfl) t v hI

/-- An action that gives something or nothing, and what is done in either case. -/
theorem bind_option {a : Action (ρ × σ) (Option α)} {P : Option α → Prop}
    {f : Option α → Action (ρ × σ) β} (ha : Keeps I a P) (hnone : Keeps I (f none) R)
    (hsome : ∀ x, P (some x) → Keeps I (f (some x)) R) : Keeps I (a >>= f) R := by
  refine ha.bind fun x hx => ?_
  cases x with
  | none => exact hnone
  | some x => exact hsome x hx

/-- `Subject.get` tells that the resource has the property. -/
theorem get : Keeps I (Subject.get : Action (ρ × σ) ρ) I := by
  intro r w hr
  refine ⟨hr, fun y hy => ?_⟩
  rw [← Except.ok.inj hy]
  exact hr

theorem outside {a : Action σ α} : Keeps I (Subject.outside a) fun _ => True :=
  fun _ _ hr => ⟨hr, fun _ _ => trivial⟩

theorem ofOutcome {x : Outcome α} : Keeps I (.ofOutcome x : Action (ρ × σ) α) fun y => x = .ok y :=
  fun _ _ hr => ⟨hr, fun _ hy => hy⟩

theorem modify {f : ρ → ρ} (hf : ∀ r, I r → I (f r)) :
    Keeps I (Subject.modify f : Action (ρ × σ) Unit) fun _ => True :=
  fun r _ hr => ⟨hf r hr, fun _ _ => trivial⟩

/-- An action outside of the resource keeps a property, with another one that keeps it before certain
failures. -/
theorem outside_beforeFailing {a : Action σ α} {applies : Failure → Bool}
    {last : Action (ρ × σ) Unit} (hlast : Keeps I last fun _ => True) :
    Keeps I ((Subject.outside a).beforeFailing applies last) fun _ => True := by
  intro r w hr
  refine ⟨?_, fun _ _ => trivial⟩
  simp only [Action.beforeFailing, Action.runOn_ofRun, Subject.outside, Action.onPart, Part.second]
  rcases a.runOn w with ⟨f | x, v⟩
  · have hI := (hlast r v hr).1
    dsimp only
    split
    · rcases hrun : last.runOn (r, v) with ⟨_ | _, t, u⟩ <;> simpa [hrun] using hI
    · exact hr
  · exact hr

/-- When `a >>= f` breaks a property that `a` keeps, `a` succeeded and `f` breaks it. -/
theorem broken_after {a : Action (ρ × σ) α} {f : α → Action (ρ × σ) β} (ha : Keeps I a P)
    {r t : ρ} {w u : σ} {outcome : Outcome β} (h : (a >>= f).runOn (r, w) = (outcome, t, u))
    (hr : I r) (hbroken : ¬ I t) :
    ∃ x s v, a.runOn (r, w) = (.ok x, s, v) ∧ I s ∧ P x ∧
      (f x).runOn (s, v) = (outcome, t, u) := by
  obtain ⟨hI, hP⟩ := ha r w hr
  rw [Action.runOn_bind] at h
  rcases hrun : a.runOn (r, w) with ⟨_ | x, s, v⟩
  · rw [hrun] at hI h
    obtain rfl : s = t := (Prod.mk.inj (Prod.mk.inj h).2).1
    exact absurd hI hbroken
  · rw [hrun] at hI hP h
    exact ⟨x, s, v, rfl, hI, hP x rfl, h⟩

variable [Resource ρ]

theorem job : Keeps I (Subject.job : Action (ρ × σ) JobStatus) fun _ => True :=
  fun _ _ hr => ⟨hr, fun _ _ => trivial⟩

end Keeps

end Subject

/-! ## Parts of resources -/

/-- A resource whose parts do not depend on each other. -/
class LawfulResource (ρ : Type) [Resource ρ] : Prop where
  job_withJob : ∀ (r : ρ) s, Resource.job (Resource.withJob r s) = s
  withJob_job : ∀ r : ρ, Resource.withJob r (Resource.job r) = r
  withJob_withJob : ∀ (r : ρ) s t, Resource.withJob (Resource.withJob r s) t = Resource.withJob r t
  job_withReconciliation : ∀ (r : ρ) s,
    Resource.job (Resource.withReconciliation r s) = Resource.job r
  job_withError : ∀ (r : ρ) e, Resource.job (Resource.withError r e) = Resource.job r

attribute [simp] LawfulResource.job_withJob LawfulResource.withJob_job
  LawfulResource.withJob_withJob LawfulResource.job_withReconciliation LawfulResource.job_withError

instance : LawfulResource Deployment :=
  ⟨fun _ _ => rfl, fun _ => rfl, fun _ _ _ => rfl, fun _ _ => rfl, fun _ _ => rfl⟩

instance : LawfulResource SessionJob :=
  ⟨fun _ _ => rfl, fun _ => rfl, fun _ _ _ => rfl, fun _ _ => rfl, fun _ _ => rfl⟩

/-! ## Changes -/

/-- What the operator may change of the savepoints of a job. -/
inductive SavepointInfo.Change (s : SavepointInfo) : SavepointInfo → Prop where
  /-- A savepoint is asked for. -/
  | begun (id : Value) (trigger : SavepointTrigger) (time : Int) :
    Change s (s.begin id.nonNull? trigger (.int time))
  /-- The time of a pending savepoint is not known, and counts from now. -/
  | dated (time : Int) : Change s { s with triggerTimestamp := some (.int time) }
  /-- The pending savepoint has failed. -/
  | cleared : Change s s.clear
  /-- A savepoint is there. -/
  | completed (time : Int) (location : Value) (trigger : SavepointTrigger) (limit : Option Int) :
    Change s (s.complete
      { timeStamp := .int time, location := location.nonNull?, trigger := trigger } limit)

/-- What a look at a pending savepoint may change, for an operator that keeps `limit` of them. -/
inductive SavepointInfo.Settled (limit : Int) (s : SavepointInfo) : SavepointInfo → Prop where
  /-- Nobody knows when it was asked for, and its time counts from now. -/
  | dated (time : Int) : Settled limit s { s with triggerTimestamp := some (.int time) }
  /-- It has failed. -/
  | cleared : Settled limit s s.clear
  /-- It is there. -/
  | completed (time : Int) (location : Value) (trigger : SavepointTrigger) :
    Settled limit s (s.complete
      { timeStamp := .int time, location := location.nonNull?, trigger := trigger } (some limit))

theorem SavepointInfo.Settled.change {limit : Int} {s t : SavepointInfo} (h : s.Settled limit t) :
    s.Change t := by
  cases h with
  | dated time => exact .dated time
  | cleared => exact .cleared
  | completed time location trigger => exact .completed time location trigger _

/-- What the operator may change of what was observed of a job. -/
inductive JobStatus.Change (s : JobStatus) : JobStatus → Prop where
  /-- The cluster reports the job. -/
  | observed (report : JobReport) (time : Int) : Change s (s.observed report time)
  /-- The job was stopped. -/
  | suspended : Change s { s with state := some (.text "SUSPENDED") }
  /-- Its savepoints change. -/
  | savepoints {t : SavepointInfo} (h : s.savepoints.Change t) : Change s { s with savepoints := t }

/-- A property of resources that holds through every `JobStatus.Change`, `markStable` and errors. -/
structure Lasting {ρ : Type} [Resource ρ] (I : ρ → Prop) : Prop where
  job : ∀ r s, I r → (Resource.job r).Change s → I (Resource.withJob r s)
  stable : ∀ r, I r → I (Resource.withReconciliation r (Resource.reconciliation r).markStable)
  error : ∀ r error, I r → I (Resource.withError r error)

/-- A property of resources that holds through looks at pending savepoints (`SavepointInfo.Settled`),
by an operator that keeps `limit` of them. -/
structure Settling {ρ : Type} [Resource ρ] (limit : Int) (I : ρ → Prop) : Prop where
  settled : ∀ r s, I r → (Resource.job r).savepoints.Settled limit s →
    I (Resource.withJob r { Resource.job r with savepoints := s })
  error : ∀ r error, I r → I (Resource.withError r error)

/-- A property of resources that is `Settling`, and holds through looks at their jobs too. -/
structure Watching {ρ : Type} [Resource ρ] (limit : Int) (I : ρ → Prop) : Prop
    extends Settling limit I where
  reported : ∀ r report time, I r →
    I (Resource.withJob r ((Resource.job r).observed report time))

theorem Lasting.watching {ρ : Type} [Resource ρ] {I : ρ → Prop} (hI : Lasting I) (limit : Int) :
    Watching limit I where
  settled r _ hr hs := hI.job r _ hr (.savepoints hs.change)
  error := hI.error
  reported r report time hr := hI.job r _ hr (.observed report time)

/-! ## Actions -/

namespace Subject

variable {ρ σ : Type} [Resource ρ] {I : ρ → Prop}

theorem keeps_modifyJob (hI : Lasting I) {f : JobStatus → JobStatus}
    (hf : ∀ s : JobStatus, s.Change (f s)) :
    Keeps I (modifyJob f : Action (ρ × σ) Unit) fun _ => True :=
  .modify fun r hr => hI.job r _ hr (hf _)

theorem keeps_modifySavepoints (hI : Lasting I) {f : SavepointInfo → SavepointInfo}
    (hf : ∀ s : SavepointInfo, s.Change (f s)) :
    Keeps I (modifySavepoints f : Action (ρ × σ) Unit) fun _ => True :=
  keeps_modifyJob hI fun _ => .savepoints (hf _)

theorem keeps_settle {limit : Int} (hI : Settling limit I) {f : SavepointInfo → SavepointInfo}
    (hf : ∀ s : SavepointInfo, s.Settled limit (f s)) :
    Keeps I (modifySavepoints f : Action (ρ × σ) Unit) fun _ => True :=
  .modify fun r hr => hI.settled r _ hr (hf _)

theorem keeps_recordError {limit : Int} (hI : Settling limit I) (message : String) :
    Keeps I (recordError message : Action (ρ × σ) Unit) fun _ => True :=
  .modify fun r hr => hI.error r _ hr

end Subject

namespace Operator

open Subject

variable {ρ σ : Type} [Resource ρ] {I : ρ → Prop} {o : Operator σ} {conf : Config}

theorem keeps_recordApplied
    (happlied : ∀ r time, I r → I (Resource.withError (Resource.withReconciliation r
      { (Resource.reconciliation r).record (Resource.spec r) with timestamp := .int time }) none)) :
    Keeps I (o.recordApplied : Action (ρ × σ) Unit) fun _ => True :=
  .bind .outside fun time _ => .modify fun r hr => happlied r time hr

theorem keeps_suspend (hI : Lasting I) {mode : UpgradeMode} :
    Keeps I (o.suspend mode conf : Action (ρ × σ) Value) fun _ => True := by
  refine .bind .job fun job _ => .bind .outside fun place _ => .bind .outside fun now _ =>
    .bind (keeps_modifyJob hI fun _ => .suspended) fun _ _ => ?_
  dsimp only
  split
  · exact .pure trivial
  · rename_i hne
    rw [← Value.nonNull?_of_ne hne]
    exact .bind (keeps_modifySavepoints hI fun _ => .completed now _ .unknown none)
      fun _ _ => .pure trivial

section Trigger

variable (hbegun : ∀ r (id : Value) trigger time, I r → I (Resource.withJob r { Resource.job r with
  savepoints := (Resource.job r).savepoints.begin id.nonNull? trigger (.int time) }))

include hbegun

theorem keeps_triggerSavepoint {job : Value} {trigger : SavepointTrigger} :
    Keeps I (o.triggerSavepoint job conf trigger : Action (ρ × σ) Value) fun _ => True :=
  .bind .outside fun id _ => .bind .outside fun now _ =>
    .bind (.modify fun r hr => hbegun r id trigger now hr) fun _ _ => .pure trivial

/-- `Operator.triggerIfDue` keeps what is left by a record of the specification that was last applied,
with the nonce of the job that there is. -/
theorem keeps_triggerIfDue_of_begun
    (hnonce : ∀ r applied old job, I r → Resource.jobSpec (Resource.spec r) = some job →
      (Resource.reconciliation r).lastReconciled = .ok (some applied) →
      Resource.jobSpec applied = some old → ∀ t, I t → I (Resource.withReconciliation t
        ((Resource.reconciliation t).record (withNonce (ρ := ρ) applied old job)))) :
    Keeps I (o.triggerIfDue conf : Action (ρ × σ) (Option SavepointTrigger)) fun _ => True := by
  refine .bind .get fun r hr => ?_
  dsimp only
  cases hjob : Resource.jobSpec (Resource.spec r) with
  | none => exact .pure trivial
  | some job =>
    dsimp only
    split
    · exact .pure trivial
    refine .bind .ofOutcome fun applied happlied => .bind .outside fun now _ =>
      .bind_option .ofOutcome (.pure trivial) fun trigger _ =>
        .bind (keeps_triggerSavepoint hbegun) fun _ _ => ?_
    split
    · rename_i hold _
      exact .bind (.modify fun t ht => hnonce r _ _ job hr hjob happlied hold t ht)
        fun _ _ => .pure trivial
    · exact .pure trivial

end Trigger

theorem keeps_triggerIfDue (hI : Lasting I)
    (hnonce : ∀ r applied old job, I r → Resource.jobSpec (Resource.spec r) = some job →
      (Resource.reconciliation r).lastReconciled = .ok (some applied) →
      Resource.jobSpec applied = some old → ∀ t, I t → I (Resource.withReconciliation t
        ((Resource.reconciliation t).record (withNonce (ρ := ρ) applied old job)))) :
    Keeps I (o.triggerIfDue conf : Action (ρ × σ) (Option SavepointTrigger)) fun _ => True :=
  keeps_triggerIfDue_of_begun
    (fun r id trigger time hr => hI.job r _ hr (.savepoints (.begun id trigger time))) hnonce

/-! ### Looks -/

theorem keeps_observePending (hI : Settling o.settings.historyLimit I) {info : SavepointInfo}
    {trigger job : Value} :
    Keeps I (o.observePending info trigger job conf : Action (ρ × σ) _) fun _ => True := by
  unfold observePending
  split
  · exact .bind .outside fun now _ =>
      .bind (keeps_settle hI fun _ => .dated now) fun _ _ => .pure trivial
  · refine .bind .ofOutcome fun budget _ => .bind .outside fun now _ =>
      .bind .ofOutcome fun overdue _ => ?_
    split
    · exact .bind (keeps_settle hI fun _ => .cleared) fun _ _ => .pure trivial
    · exact .pure trivial

theorem keeps_observeSavepoint (hI : Settling o.settings.historyLimit I) {job : Value} :
    Keeps I (o.observeSavepoint job conf : Action (ρ × σ) _) fun _ => True := by
  refine .bind .job fun status _ => ?_
  dsimp only
  split
  · exact .pure trivial
  refine .bind .outside fun poll _ => ?_
  cases poll with
  | failed cause => exact .bind (keeps_settle hI fun _ => .cleared) fun _ _ => .pure trivial
  | pending => exact keeps_observePending hI
  | completed place =>
    exact .bind .outside fun now _ =>
      .bind (keeps_settle hI fun _ => .completed now place _) fun _ _ => .pure trivial

theorem keeps_settleSavepoint (hI : Settling o.settings.historyLimit I) :
    Keeps I (o.settleSavepoint conf : Action (ρ × σ) Unit) fun _ => True := by
  refine .bind .job fun status _ => .bind_option (keeps_observeSavepoint hI) ?_ fun message _ => ?_
  · exact .pure trivial
  · exact keeps_recordError hI message

theorem keeps_observeJob
    (hreported : ∀ r report time, I r →
      I (Resource.withJob r ((Resource.job r).observed report time)))
    {budget : Option Duration} {onTimeout : Action (ρ × σ) Unit}
    (htimeout : Keeps I onTimeout fun _ => True) :
    Keeps I (o.observeJob conf budget onTimeout) fun _ => True := by
  refine .bind .job fun status _ => ?_
  split
  · exact .pure trivial
  split
  · exact .pure trivial
  refine .bind .outside fun start _ => .bind (.outside_beforeFailing htimeout) fun jobs _ =>
    .bind .outside fun stop _ => ?_
  -- whether the budget was kept or not, the report on the job is taken afterwards
  have hreport : ∀ report : JobReport, Keeps I (do
      let now ← Subject.outside o.now
      Subject.modifyJob fun s => s.observed report now
      return true : Action (ρ × σ) Bool) fun _ => True := fun report =>
    .bind .outside fun now _ =>
      .bind (.modify fun r hr => hreported r report now hr) fun _ _ => .pure trivial
  dsimp only
  split
  · exact .bind htimeout fun _ _ =>
      .bind_option .ofOutcome (.pure trivial) fun report _ => hreport report
  · exact .bind_option .ofOutcome (.pure trivial) fun report _ => hreport report

/-! ### Passes -/

section Deployment

variable {I : Deployment → Prop}
  (hmanager : ∀ d m, I d → I { d with status := { d.status with manager := m } })

include hmanager

theorem keeps_observeManager :
    Keeps I (o.observeManager conf : Action (Deployment × σ) Unit) fun _ => True :=
  .bind .outside fun found _ => .modify fun d hd => hmanager d (d.status.manager.next found) hd

section Watching

variable (hI : Watching o.settings.historyLimit I)
  (hstable : ∀ d, I d →
    I (Resource.withReconciliation d (Resource.reconciliation d).markStable))

include hI hstable

theorem keeps_observeApplication : Keeps I (o.observeApplication conf) fun _ => True := by
  refine .bind (keeps_observeJob hI.reported (keeps_observeManager hmanager)) fun found _ => ?_
  split
  · refine .bind (keeps_settleSavepoint hI.toSettling) fun _ _ => .bind .job fun status _ => ?_
    split
    · exact .modify hstable
    · exact .pure trivial
  · exact .pure trivial

theorem keeps_observeDeployment_of_watching : Keeps I o.observeDeployment fun _ => True := by
  refine .bind .get fun d _ => .bind_option .outside (.pure trivial) fun conf _ =>
    .bind (keeps_observeManager hmanager) fun _ _ => .bind .get fun d _ => ?_
  split
  · refine .bind_option .ofOutcome (.pure trivial) fun applied _ => ?_
    simp only [observeReady]
    split
    · exact .modify hstable
    · split
      · exact .pure trivial
      · exact keeps_observeApplication hmanager hI hstable
  · exact .pure trivial

end Watching

theorem keeps_observeDeployment (hI : Lasting I) : Keeps I o.observeDeployment fun _ => True :=
  keeps_observeDeployment_of_watching hmanager (hI.watching _) hI.stable

end Deployment

section SessionJob

variable {I : SessionJob → Prop} {session : Option Deployment}

theorem keeps_observeSessionJob_of_watching (hI : Watching o.settings.historyLimit I) :
    Keeps I (o.observeSessionJob session) fun _ => True := by
  refine .bind .get fun j _ => ?_
  split
  · exact .pure trivial
  split
  · exact .pure trivial
  split
  · refine .bind .outside fun conf _ =>
      .bind (keeps_observeJob hI.reported (.pure trivial)) fun found _ => ?_
    split
    · exact keeps_settleSavepoint hI.toSettling
    · exact .pure trivial
  · exact .pure trivial

theorem keeps_observeSessionJob (hI : Lasting I) :
    Keeps I (o.observeSessionJob session) fun _ => True :=
  keeps_observeSessionJob_of_watching (hI.watching _)

end SessionJob

end Operator

end FlinkSteward
