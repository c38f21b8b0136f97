import FlinkSteward.Proofs.Along
import FlinkSteward.Proofs.Control.Suspend
import FlinkSteward.Proofs.Control.Trigger
import FlinkSteward.Proofs.Observe.Look

/-!
# Savepoints by the clock

The operator reads the time now and then, on a clock that never goes back. A pass settles the pending
savepoint at most once, and the savepoint that it records then has a time between the start and the end
of the pass.

## Key results

- `Operator.Clocked`: operators in worlds with a clock that never goes back
- `SavepointInfo.Course`: what becomes of savepoints between two times, a preorder by `Course.trans`
- `Operator.Clocked.observeDeployment`, `Operator.Clocked.observeSessionJob`: passes
- `Deployment.Seen`, `SessionJob.Seen`: passes of any such operator
-/

namespace FlinkSteward

variable {ρ σ : Type} {time : σ → Int}

/-! ## Clocks -/

instance isPreorder_clock : IsPreorder σ fun w v => time w ≤ time v where
  refl _ := Int.le_refl _
  trans _ _ _ := Int.le_trans

/-- An operator in a world with a clock: nothing that it does turns the clock back, and the time that it
reads is one that the clock shows meanwhile. -/
structure Operator.Clocked (time : σ → Int) (o : Operator σ) : Prop
    extends o.Respects fun w v => time w ≤ time v where
  reads : ∀ {w t v}, o.now.runOn w = (.ok t, v) → time w ≤ t ∧ t ≤ time v

/-! ## Savepoints between two times -/

namespace SavepointInfo

/-- What becomes of the savepoints of a job between two times, as long as none is asked for. -/
inductive Course (start stop : Int) (s : SavepointInfo) : SavepointInfo → Prop where
  | same : Course start stop s s
  /-- The time of the pending one counts from another moment. -/
  | dated (hpending : s.isPending = true) (since : Option Value) :
    Course start stop s { s with triggerTimestamp := since }
  /-- The pending one has come to nothing. -/
  | cleared (hpending : s.isPending = true) : Course start stop s s.clear
  /-- The pending one is there. -/
  | taken (hpending : s.isPending = true) {t : Int} (hstart : start ≤ t) (hstop : t ≤ stop)
    (place : Option Value) (limit : Option Int) :
    Course start stop s (s.complete {
      timeStamp := .int t
      location := place
      trigger := s.triggerType.getD .unknown } limit)

namespace Course

variable {start middle stop : Int} {s t u : SavepointInfo}

/-- No `Course` changes savepoints of which none is pending. -/
theorem eq_of_not_pending (h : Course start stop s t) (hs : s.isPending = false) : t = s := by
  cases h with
  | same => rfl
  | dated hpending => exact nomatch hs.symm.trans hpending
  | cleared hpending => exact nomatch hs.symm.trans hpending
  | taken hpending => exact nomatch hs.symm.trans hpending

theorem mono {start' stop' : Int} (h : Course start stop s t) (hstart : start' ≤ start)
    (hstop : stop ≤ stop') : Course start' stop' s t := by
  cases h with
  | same => exact .same
  | dated hpending since => exact .dated hpending since
  | cleared hpending => exact .cleared hpending
  | taken hpending hbegun hended place limit =>
    exact .taken hpending (hstart.trans hbegun) (hended.trans hstop) place limit

theorem trans (h : Course start middle s t) (h' : Course middle stop t u) (hstart : start ≤ middle)
    (hstop : middle ≤ stop) : Course start stop s u := by
  cases h with
  | same => exact h'.mono hstart le_rfl
  | cleared hpending =>
    rw [h'.eq_of_not_pending (isPending_clear s)]
    exact .cleared hpending
  | taken hpending hbegun hended place limit =>
    rw [h'.eq_of_not_pending (isPending_complete ..)]
    exact .taken hpending hbegun (hended.trans hstop) place limit
  | dated hpending since =>
    -- what comes after it overwrites the moment from which time counts
    cases h' with
    | same => exact .dated hpending since
    | dated _ since' => exact .dated hpending since'
    | cleared => exact .cleared hpending
    | taken _ hbegun hended place limit =>
      exact .taken hpending (hstart.trans hbegun) hended place limit

end Course

end SavepointInfo

/-- The clock goes on, and the savepoints of the job take their course meanwhile. -/
def Courses [Resource ρ] (time : σ → Int) (s t : ρ × σ) : Prop :=
  time s.2 ≤ time t.2 ∧
    (Resource.job s.1).savepoints.Course (time s.2) (time t.2) (Resource.job t.1).savepoints

instance [Resource ρ] : IsPreorder (ρ × σ) (Courses time) where
  refl _ := ⟨Int.le_refl _, .same⟩
  trans _ _ _ h h' := ⟨h.1.trans h'.1, h.2.trans h'.2 h.1 h'.1⟩

/-- What leaves the savepoints is part of their `Courses`. -/
theorem Courses.of_same [Resource ρ] {r s : ρ} {w v : σ} (hw : time w ≤ time v)
    (h : (Resource.job s).savepoints = (Resource.job r).savepoints) :
    Courses time (r, w) (s, v) :=
  ⟨hw, by rw [h]; exact .same⟩

/-! ## Passes -/

namespace Operator.Clocked

variable {o : Operator σ} (h : o.Clocked time)

include h

section Looks

variable [Resource ρ] [LawfulResource ρ]

/-- What a look leaves (`Looks`) is a `Course` of the savepoints. -/
theorem course_of_looks {job : Value} {conf : Config} {s t : SavepointInfo} {w u : σ}
    {outcome : Outcome (Option String)} (hlook : o.Looks job conf s w outcome t u) :
    s.Course (time w) (time u) t := by
  cases hlook with
  | idle => exact .same
  | broken => exact .same
  | failed hpending => exact .cleared hpending
  | waits hpending => exact .dated hpending _
  | overdue hpending => exact .cleared hpending
  | found hpending hpoll hnow =>
    have hclock := h.pollSavepoint conf job (Value.ofOption s.triggerId) w
    rw [hpoll] at hclock
    obtain ⟨hbegun, hended⟩ := h.reads hnow
    exact .taken hpending (hclock.trans hbegun) hended _ _

/-- `observeSavepoint` goes along the `Courses` of the savepoints. -/
theorem observeSavepoint (job : Value) (conf : Config) :
    (o.observeSavepoint job conf : Action (ρ × σ) _).Along (Courses time) := by
  rintro ⟨r, w⟩
  obtain ⟨t, hleft, hlook⟩ := o.observeSavepoint_looks job conf r w
  refine ⟨h.toRespects.observeSavepoint job conf (r, w), ?_⟩
  rw [hleft, LawfulResource.job_withJob]
  exact h.course_of_looks hlook

theorem heeds : o.Heeds (ρ := ρ) (Courses time) where
  world := ⟨_, inferInstance, h.toRespects, fun _ _ _ hw => .of_same hw rfl⟩
  savepoint := h.observeSavepoint
  reported r w report now := .of_same le_rfl (by rw [LawfulResource.job_withJob, JobStatus.observed])
  error r w e := .of_same le_rfl (by rw [LawfulResource.job_withError])

end Looks

theorem observeDeployment : o.observeDeployment.Along (Courses time) :=
  h.heeds.observeDeployment (fun _ _ _ => .of_same le_rfl rfl) fun _ _ => .of_same le_rfl rfl

theorem observeSessionJob (session : Option Deployment) :
    (o.observeSessionJob session).Along (Courses time) :=
  h.heeds.observeSessionJob session

end Operator.Clocked

/-- Passes over clusters in worlds with a clock. -/
def Deployment.Seen (time : σ → Int) (s t : Deployment × σ) : Prop :=
  ∃ o : Operator σ, o.Clocked time ∧ t = (o.observeDeployment.runOn s).2

/-- Passes over jobs on session clusters in worlds with a clock. -/
def SessionJob.Seen (time : σ → Int) (s t : SessionJob × σ) : Prop :=
  ∃ o : Operator σ, o.Clocked time ∧ ∃ session, t = ((o.observeSessionJob session).runOn s).2

theorem Deployment.Seen.courses {s t : Deployment × σ} (h : Seen time s t) : Courses time s t := by
  obtain ⟨o, ho, rfl⟩ := h
  exact ho.observeDeployment s

theorem SessionJob.Seen.courses {s t : SessionJob × σ} (h : Seen time s t) : Courses time s t := by
  obtain ⟨o, ho, session, rfl⟩ := h
  exact ho.observeSessionJob session s

end FlinkSteward
