import FlinkSteward.Proofs.Action
import FlinkSteward.Proofs.Subject

/-!
# Looks at savepoints

A look at the savepoints of a job changes nothing when it fails. Otherwise it says that the pending one
came to nothing exactly when it gives it up, and is silent exactly when there was none, when it is still
pending, or when it was recorded.

## Key results

- `SavepointInfo.waiting`, `SavepointInfo.found`: what a silent look leaves
- `Operator.Looks`: looks at the savepoints of a job, by what the operator is told
- `Operator.Looks.isSome_iff`, `Operator.Looks.eq_none_iff`: what a look says
- `Operator.observeSavepoint_looks`: the operator's look is one of them
-/

namespace FlinkSteward

namespace SavepointInfo

variable (s : SavepointInfo)

/-- Savepoints of which the pending one was found pending at a time, from which its time counts unless
it counted already. -/
def waiting (now : Int) : SavepointInfo :=
  { s with triggerTimestamp := s.triggerTimestamp.or (some (.int now)) }

/-- Savepoints of which the pending one was found at a place, for an operator that remembers so many. -/
def found (now : Int) (place : Value) (limit : Int) : SavepointInfo :=
  s.complete {
    timeStamp := .int now
    location := place.nonNull?
    trigger := s.triggerType.getD .unknown } (some limit)

@[simp] theorem isPending_waiting (now : Int) : (s.waiting now).isPending = s.isPending := rfl

theorem clear_ne_waiting {s : SavepointInfo} (h : s.isPending = true) (now : Int) :
    s.clear ≠ s.waiting now := by
  intro hclear
  have hkept := congrArg isPending hclear
  rw [isPending_clear, isPending_waiting, h] at hkept
  exact nomatch hkept

theorem waiting_of_some {s : SavepointInfo} {since : Value} (h : s.triggerTimestamp = some since)
    (now : Int) : s.waiting now = s := by
  rw [waiting, h, Option.some_or, ← h]

theorem waiting_of_none {s : SavepointInfo} (h : s.triggerTimestamp = none) (now : Int) :
    s.waiting now = { s with triggerTimestamp := some (.int now) } := by
  rw [waiting, h, Option.none_or]

/-- The time of a savepoint that is `waiting` counts from one moment. -/
@[simp] theorem waiting_waiting (first now : Int) :
    (s.waiting first).waiting now = s.waiting first := by
  cases h : s.triggerTimestamp <;> simp [waiting, h]

@[simp] theorem getD_triggerTimestamp_waiting (first now : Int) :
    (s.waiting first).triggerTimestamp.getD (.int now) = s.triggerTimestamp.getD (.int first) := by
  cases h : s.triggerTimestamp <;> simp [waiting, h]

end SavepointInfo

/-! ## Looks -/

namespace Operator

variable {σ : Type} (o : Operator σ) (job : Value) (conf : Config)

/-- A look of `Operator.observeSavepoint` in a world, by what the operator is told: what it gives, and
what savepoints and world it leaves. -/
inductive Looks (s : SavepointInfo) (w : σ) :
    Outcome (Option String) → SavepointInfo → σ → Prop where
  /-- There is nothing to look at. -/
  | idle (hidle : s.isPending = false) : Looks s w (.ok none) s w
  /-- The look fails, for whatever reason. -/
  | broken (f : Failure) (u : σ) : Looks s w (.error f) s u
  /-- The savepoint has failed. -/
  | failed {cause : Value} {u : σ} (hpending : s.isPending = true)
    (hpoll : (o.pollSavepoint conf job (Value.ofOption s.triggerId)).runOn w =
      (.ok (.failed cause), u)) :
    Looks s w (.ok (some (savepointFailed cause))) s.clear u
  /-- The savepoint is pending, and has time left. -/
  | waits {v u : σ} {now : Int} (hpending : s.isPending = true)
    (hpoll : (o.pollSavepoint conf job (Value.ofOption s.triggerId)).runOn w = (.ok .pending, v))
    (hnow : o.now.runOn v = (.ok now, u)) : Looks s w (.ok none) (s.waiting now) u
  /-- The savepoint is pending, and its time is over. -/
  | overdue {v u : σ} {budget : Duration} (hpending : s.isPending = true)
    (hpoll : (o.pollSavepoint conf job (Value.ofOption s.triggerId)).runOn w = (.ok .pending, v)) :
    Looks s w (.ok (some (savepointTimedOut (Value.ofOption s.triggerId) job budget))) s.clear u
  /-- The savepoint is there. -/
  | found {v u : σ} {now : Int} {place : Value} (hpending : s.isPending = true)
    (hpoll : (o.pollSavepoint conf job (Value.ofOption s.triggerId)).runOn w =
      (.ok (.completed place), v))
    (hnow : o.now.runOn v = (.ok now, u)) :
    Looks s w (.ok none) (s.found now place o.settings.historyLimit) u

variable {o job conf}

namespace Looks

variable {s t : SavepointInfo} {w u : σ} {message : Option String}

theorem eq_of_error {f : Failure} (h : o.Looks job conf s w (.error f) t u) : t = s := by
  cases h
  rfl

/-- A look (`Looks`) says something exactly when it gives the pending savepoint up. -/
theorem isSome_iff (h : o.Looks job conf s w (.ok message) t u) :
    message.isSome = true ↔ s.isPending = true ∧ t = s.clear ∧ ¬ ∃ place,
      ((o.pollSavepoint conf job (Value.ofOption s.triggerId)).runOn w).1 =
        .ok (.completed place) := by
  cases h with
  | idle hidle => simp [hidle]
  | failed hpending hpoll => simp [hpending, hpoll]
  | overdue hpending hpoll => simp [hpending, hpoll]
  | waits hpending hpoll hnow => simp [(SavepointInfo.clear_ne_waiting hpending _).symm]
  | found hpending hpoll hnow => simp [hpoll]

/-- A look (`Looks`) is silent exactly when there was nothing to look at, or the savepoint is still
pending, or it is recorded. -/
theorem eq_none_iff (h : o.Looks job conf s w (.ok message) t u) :
    message = none ↔ s.isPending = false ∧ t = s ∨ s.isPending = true ∧
      let poll := (o.pollSavepoint conf job (Value.ofOption s.triggerId)).runOn w
      ∃ now, o.now.runOn poll.2 = (.ok now, u) ∧
        (poll.1 = .ok .pending ∧ t = s.waiting now ∨
          ∃ place, poll.1 = .ok (.completed place) ∧
            t = s.found now place o.settings.historyLimit) := by
  cases h with
  | idle hidle => simp [hidle]
  | failed hpending hpoll => simp [hpending, hpoll]
  | overdue hpending hpoll => simp [hpending, hpoll, SavepointInfo.clear_ne_waiting hpending]
  | waits hpending hpoll hnow => simp [hpending, hpoll, hnow]
  | found hpending hpoll hnow => simp [hpending, hpoll, hnow]

end Looks

section Looking

variable {ρ : Type} [Resource ρ] [LawfulResource ρ]

/-- `observePending` at a savepoint that is still pending. -/
theorem observePending_looks {r : ρ} {w v : σ}
    (hpending : (Resource.job r).savepoints.isPending = true)
    (hpoll : (o.pollSavepoint conf job
      (Value.ofOption (Resource.job r).savepoints.triggerId)).runOn w = (.ok .pending, v)) :
    let run := (o.observePending (Resource.job r).savepoints
      (Value.ofOption (Resource.job r).savepoints.triggerId) job conf).runOn (r, v)
    ∃ t, run.2.1 = Resource.withJob r { Resource.job r with savepoints := t } ∧
      o.Looks job conf (Resource.job r).savepoints w run.1 t run.2.2 := by
  have hsame : r = Resource.withJob r
      { Resource.job r with savepoints := (Resource.job r).savepoints } :=
    (LawfulResource.withJob_job r).symm
  rw [observePending]
  cases hsince : (Resource.job r).savepoints.triggerTimestamp with
  -- the time counts from now, and nothing can be overdue yet
  | none =>
    simp only [Action.runOn_bind, Subject.runOn_outside]
    rcases hnow : o.now.runOn v with ⟨_ | now, u⟩
    · exact ⟨_, hsame, .broken ..⟩
    · refine ⟨_, ?_, .waits hpending hpoll hnow⟩
      rw [SavepointInfo.waiting_of_none hsince]
      rfl
  | some since =>
    simp only [Action.runOn_bind, Action.runOn_ofOutcome]
    rcases conf.duration Config.savepointTimeoutKey o.settings.savepointTimeout with _ | budget
    · exact ⟨_, hsame, .broken ..⟩
    simp only [Subject.runOn_outside]
    rcases hnow : o.now.runOn v with ⟨_ | now, u⟩
    · exact ⟨_, hsame, .broken ..⟩
    dsimp only
    rcases isOverdue budget (.int now) since with _ | overdue
    · exact ⟨_, hsame, .broken ..⟩
    -- in time, what counts from a moment goes on doing so
    cases overdue with
    | true => exact ⟨_, rfl, .overdue hpending hpoll⟩
    | false =>
      refine ⟨_, ?_, .waits hpending hpoll hnow⟩
      rw [SavepointInfo.waiting_of_some hsince, LawfulResource.withJob_job]
      rfl

/-- `observeSavepoint` `Looks` at the savepoints of a job, and at nothing else of it. -/
theorem observeSavepoint_looks (o : Operator σ) (job : Value) (conf : Config) (r : ρ) (w : σ) :
    let run := (o.observeSavepoint job conf).runOn (r, w)
    ∃ t, run.2.1 = Resource.withJob r { Resource.job r with savepoints := t } ∧
      o.Looks job conf (Resource.job r).savepoints w run.1 t run.2.2 := by
  have hsame : r = Resource.withJob r
      { Resource.job r with savepoints := (Resource.job r).savepoints } :=
    (LawfulResource.withJob_job r).symm
  simp only [observeSavepoint, Action.runOn_bind, Subject.runOn_job]
  cases hpending : (Resource.job r).savepoints.isPending with
  | false => exact ⟨_, hsame, .idle hpending⟩
  | true =>
    simp only [Bool.true_eq_false, ↓reduceIte, Action.runOn_bind, Subject.runOn_outside]
    rcases hpoll : (o.pollSavepoint conf job
      (Value.ofOption (Resource.job r).savepoints.triggerId)).runOn w with ⟨_ | poll, v⟩
    · exact ⟨_, hsame, .broken ..⟩
    -- what is found out says how the look ends, unless the clock fails
    cases poll with
    | failed cause => exact ⟨_, rfl, .failed hpending hpoll⟩
    | pending => exact observePending_looks hpending hpoll
    | completed place =>
      simp only [Action.runOn_bind, Subject.runOn_outside]
      rcases hnow : o.now.runOn v with ⟨_ | now, u⟩
      · exact ⟨_, hsame, .broken ..⟩
      · exact ⟨_, rfl, .found hpending hpoll hnow⟩

end Looking

end Operator

end FlinkSteward
