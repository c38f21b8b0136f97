import FlinkSteward.Proofs.Action
import FlinkSteward.Proofs.Resource.Recorded
import FlinkSteward.Simulation.Script

/-!
# Requests for savepoints

A call that asks for a savepoint if one is due finds out first whether that is so, then sends the
request, and records what came of it last. Before the record nothing of the resource changes.

## Key results

- `Operator.findDue`, `Operator.askSavepoint`: the parts of a call that look and ask
- `Resource.requested`: the resource after a request that was accepted
- `Operator.triggerIfDue_runOn`: a call from its parts
- `Resource.reconciliation_requested`: the record of what was last applied after that
- `Operator.Dependable`: clocks and connections that do not fail
- `Operator.asked_outcome`: what became of a call, by what it asked
- `Operator.asked_manual_iff`: when a manual savepoint is asked for
-/

namespace FlinkSteward

/-! ## Parts of a call -/

namespace Resource

variable {ρ : Type} [Resource ρ]

/-- The job that a savepoint may be asked of: it runs, and no savepoint of it is pending. -/
def askable (r : ρ) : Option JobSpec :=
  match jobSpec (spec r) with
  | none => none
  | some job =>
    let status := Resource.job r
    if job.state ≠ some .running ∨ status.isTracked = false ∨ status.savepoints.isPending then none
    else some job

theorem askable_eq_some {r : ρ} {job : JobSpec} (h : askable r = some job) :
    jobSpec (spec r) = some job ∧ job.state = some .running ∧ (Resource.job r).isTracked = true ∧
      (Resource.job r).savepoints.isPending = false := by
  unfold askable at h
  split at h
  · exact nomatch h
  · dsimp only at h
    split at h
    · exact nomatch h
    · rename_i hjob hno
      obtain rfl := Option.some.inj h
      simp only [ne_eq, not_or, not_not, Bool.not_eq_false, Bool.not_eq_true] at hno
      exact ⟨hjob, hno⟩

/-- A job with a pending savepoint is not `askable` for another one. -/
theorem askable_of_pending {r : ρ} (h : (Resource.job r).savepoints.isPending = true) :
    askable r = none := by
  cases hask : askable r with
  | none => rfl
  | some job =>
    obtain ⟨-, -, -, hno⟩ := askable_eq_some hask
    exact nomatch h.symm.trans hno

/-- The resource with a pending savepoint. -/
def begun (r : ρ) (trigger : SavepointTrigger) (id : Value) (time : Int) : ρ :=
  withJob r { job r with
    savepoints := (job r).savepoints.begin id.nonNull? trigger (.int time) }

/-- The resource after a request for a savepoint was accepted: it is pending, and the nonce of a
manual one counts as applied. -/
def requested (r : ρ) (trigger : SavepointTrigger) (id : Value) (time : Int) : ρ :=
  let pending := begun r trigger id time
  match trigger, jobSpec (spec r), (reconciliation r).lastReconciled (σ := Resource.Spec ρ) with
  | .manual, some job, .ok (some applied) =>
    match jobSpec applied with
    | some old => withReconciliation pending
        ((reconciliation pending).record (Operator.withNonce (ρ := ρ) applied old job))
    | none => pending
  | _, _, _ => pending

end Resource

namespace Operator

variable {ρ σ : Type} [Resource ρ]

/-- Finds out whether a savepoint is due that may be asked for. -/
def findDue (o : Operator σ) (conf : Config) (r : ρ) : Action σ (Option SavepointTrigger) :=
  match Resource.askable r with
  | none => pure none
  | some job => do
    let applied : Option (Resource.Spec ρ) ← .ofOutcome (Resource.reconciliation r).lastReconciled
    let now ← o.now
    .ofOutcome (dueTrigger (some job) (applied.bind Resource.jobSpec)
      (Resource.job r).savepoints conf (.int now))

theorem triggerSavepoint_runOn (o : Operator σ) (job : Value) (conf : Config)
    (trigger : SavepointTrigger) (r : ρ) (w : σ) :
    (o.triggerSavepoint job conf trigger).runOn (r, w) =
      match (o.requestSavepoint conf job).runOn w with
      | (.error f, v) => (.error f, r, v)
      | (.ok id, v) =>
        match o.now.runOn v with
        | (.error f, u) => (.error f, r, u)
        | (.ok time, u) => (.ok id, Resource.begun r trigger id time, u) := by
  simp only [triggerSavepoint, Action.runOn_bind, Subject.runOn_outside]
  rcases (o.requestSavepoint conf job).runOn w with ⟨_ | id, v⟩
  · rfl
  simp only [Subject.runOn_outside]
  rcases o.now.runOn v with ⟨_ | time, u⟩
  · rfl
  rfl

/-- `Operator.triggerIfDue` asks, if `Operator.findDue` finds a savepoint due, and records what it was
told. -/
theorem triggerIfDue_runOn (o : Operator σ) (conf : Config) (r : ρ) (w : σ) :
    (o.triggerIfDue conf).runOn (r, w) =
      match (o.findDue conf r).runOn w with
      | (.error f, v) => (.error f, r, v)
      | (.ok none, v) => (.ok none, r, v)
      | (.ok (some trigger), v) =>
        match (o.requestSavepoint conf (Resource.job r).jobIdValue).runOn v with
        | (.error f, u) => (.error f, r, u)
        | (.ok id, u) =>
          match o.now.runOn u with
          | (.error f, x) => (.error f, r, x)
          | (.ok time, x) => (.ok (some trigger), Resource.requested r trigger id time, x) := by
  simp only [triggerIfDue, findDue, Resource.askable, Action.runOn_bind, Subject.runOn_get]
  cases hjob : Resource.jobSpec (Resource.spec r) with
  | none => rfl
  | some job =>
    dsimp only
    split
    · rfl
    simp only [Action.runOn_bind, Action.runOn_ofOutcome]
    cases happlied : (Resource.reconciliation r).lastReconciled (σ := Resource.Spec ρ) with
    | error f => rfl
    | ok applied =>
      simp only [Subject.runOn_outside]
      rcases o.now.runOn w with ⟨_ | now, v⟩
      · rfl
      dsimp only
      rcases dueTrigger (some job) (applied.bind Resource.jobSpec) (Resource.job r).savepoints conf
        (.int now) with _ | _ | trigger
      · rfl
      · rfl
      simp only [Action.runOn_bind, triggerSavepoint_runOn]
      rcases (o.requestSavepoint conf (Resource.job r).jobIdValue).runOn v with ⟨_ | id, u⟩
      · rfl
      dsimp only
      rcases o.now.runOn u with ⟨_ | time, x⟩
      · rfl
      simp only [Resource.requested, hjob, happlied]
      -- only a manual savepoint of a job that was applied counts its nonce as applied
      cases trigger with
      | periodic => rfl
      | unknown => rfl
      | manual =>
        cases applied with
        | none => rfl
        | some applied => dsimp only [Option.bind_some]; cases Resource.jobSpec applied <;> rfl

/-- `Operator.triggerIfDue` leaves the resource as it is, or as `Resource.requested`. -/
theorem triggerIfDue_eq_or_requested (o : Operator σ) (conf : Config) (r : ρ) (w : σ) :
    ((o.triggerIfDue conf).runOn (r, w)).2.1 = r ∨ ∃ trigger id time,
      ((o.triggerIfDue conf).runOn (r, w)).2.1 = Resource.requested r trigger id time := by
  rw [triggerIfDue_runOn]
  rcases (o.findDue conf r).runOn w with ⟨_ | _ | trigger, v⟩
  · exact .inl rfl
  · exact .inl rfl
  dsimp only
  rcases (o.requestSavepoint conf (Resource.job r).jobIdValue).runOn v with ⟨_ | id, u⟩
  · exact .inl rfl
  dsimp only
  rcases o.now.runOn u with ⟨_ | time, x⟩
  · exact .inl rfl
  · exact .inr ⟨trigger, id, time, rfl⟩

end Operator

/-! ## What is recorded of a request -/

namespace Resource

variable {ρ : Type} [Resource ρ] [RecordedResource ρ] {r : ρ} {trigger : SavepointTrigger}
  {id : Value} {time : Int}

@[simp] theorem spec_requested : spec (requested r trigger id time) = spec r := by
  unfold requested
  split
  · split <;> simp [begun]
  · simp [begun]

@[simp] theorem job_requested : job (requested r trigger id time) = { job r with
    savepoints := (job r).savepoints.begin id.nonNull? trigger (.int time) } := by
  unfold requested
  split
  · split <;> simp [begun]
  · simp [begun]

/-- `Resource.requested` counts the nonce of a manual savepoint as applied, and nothing else of the
specification. -/
theorem reconciliation_requested {applied : Resource.Spec ρ} {old job : JobSpec}
    (hjob : jobSpec (spec r) = some job)
    (happlied : (reconciliation r).lastReconciled = .ok (some applied))
    (hold : jobSpec applied = some old) :
    reconciliation (requested r .manual id time) =
      (reconciliation r).record (Operator.withNonce (ρ := ρ) applied old job) := by
  simp [requested, hjob, happlied, hold, begun]

/-- `Resource.requested` makes no other records of what was last applied. -/
theorem reconciliation_requested_eq_or :
    reconciliation (requested r trigger id time) = reconciliation r ∨
      ∃ applied old job, jobSpec (spec r) = some job ∧
        (reconciliation r).lastReconciled (σ := Resource.Spec ρ) = .ok (some applied) ∧
        jobSpec applied = some old ∧ reconciliation (requested r trigger id time) =
          (reconciliation r).record (Operator.withNonce (ρ := ρ) applied old job) := by
  cases trigger with
  | periodic => exact .inl (by simp [requested, begun])
  | unknown => exact .inl (by simp [requested, begun])
  | manual =>
    rcases hjob : jobSpec (spec r) with _ | job
    · exact .inl (by simp [requested, hjob, begun])
    rcases happlied : (reconciliation r).lastReconciled (σ := Resource.Spec ρ) with _ | _ | applied
    · exact .inl (by simp [requested, hjob, happlied, begun])
    · exact .inl (by simp [requested, hjob, happlied, begun])
    rcases hold : jobSpec applied with _ | old
    · exact .inl (by simp [requested, hjob, happlied, hold, begun])
    · exact .inr ⟨applied, old, job, rfl, rfl, hold, reconciliation_requested hjob happlied hold⟩

end Resource

/-! ## What a call asks -/

namespace Operator

variable {ρ σ : Type} [Resource ρ] {o : Operator σ} {conf : Config} {r : ρ} {w : σ}

/-- Asks for a savepoint of a job, and leaves the connection open. -/
def askSavepoint (o : Operator σ) (conf : Config) (job : Value) : Action σ Value := do
  let c ← o.connect conf
  let directory ← .ofOutcome conf.savepointDirectory
  c.triggerSavepoint job directory false

/-- The request for a savepoint that a call sends, if it sends one, and what the cluster makes of it.
-/
def asked (o : Operator σ) (conf : Config) (r : ρ) (w : σ) :
    Option (SavepointTrigger × Outcome Value) :=
  match (o.findDue conf r).runOn w with
  | (.ok (some trigger), v) =>
    some (trigger, ((o.askSavepoint conf (Resource.job r).jobIdValue).runOn v).1)
  | _ => none

/-- The clock tells the time, and connections can be closed: neither ever fails. -/
structure Dependable (o : Operator σ) : Prop where
  now : ∀ w, ∃ time v, o.now.runOn w = (.ok time, v)
  close : ∀ {conf w c v}, (o.connect conf).runOn w = (.ok c, v) →
    ∀ u, ∃ t, c.close.runOn u = (.ok (), t)

/-- For an operator that is `Dependable`, `Operator.requestSavepoint` comes out as the cluster
says. -/
theorem Dependable.requestSavepoint (ho : o.Dependable) (job : Value) :
    ((o.requestSavepoint conf job).runOn w).1 = ((o.askSavepoint conf job).runOn w).1 := by
  rw [Operator.requestSavepoint, askSavepoint, Client.use, Action.runOn_bind, Action.runOn_bind]
  rcases hc : (o.connect conf).runOn w with ⟨_ | c, v⟩
  · rfl
  exact Action.runOn_always_fst (ho.close hc) v

/-- What became of `Operator.triggerIfDue`, by what it `asked`. Without a request, and without one
that is accepted, the resource is as it was. -/
theorem asked_outcome (ho : o.Dependable) (conf : Config) (r : ρ) (w : σ) :
    match o.asked conf r w, (o.triggerIfDue conf).runOn (r, w) with
    | none, (outcome, s, _) => s = r ∧ ∀ trigger, outcome ≠ .ok (some trigger)
    | some (_, .error f), (outcome, s, _) => s = r ∧ outcome = .error f
    | some (trigger, .ok id), (outcome, s, _) =>
      outcome = .ok (some trigger) ∧ ∃ time, s = Resource.requested r trigger id time := by
  rw [triggerIfDue_runOn, asked]
  rcases (o.findDue conf r).runOn w with ⟨_ | _ | trigger, v⟩
  · exact ⟨rfl, nofun⟩
  · exact ⟨rfl, nofun⟩
  dsimp only
  rw [← ho.requestSavepoint]
  rcases (o.requestSavepoint conf (Resource.job r).jobIdValue).runOn v with ⟨f | id, u⟩
  · exact ⟨rfl, rfl⟩
  dsimp only
  obtain ⟨time, x, hnow⟩ := ho.now u
  rw [hnow]
  exact ⟨rfl, time, rfl⟩

/-- A request is `asked` only for a job that is `askable`. -/
theorem askable_of_asked {request : SavepointTrigger × Outcome Value}
    (h : o.asked conf r w = some request) : ∃ job, Resource.askable r = some job := by
  rw [asked, findDue] at h
  cases hask : Resource.askable r with
  | none => rw [hask] at h; exact nomatch h
  | some job => exact ⟨job, rfl⟩

/-- While a savepoint is pending, `Operator.triggerIfDue` sends nothing, and does nothing. -/
theorem triggerIfDue_of_pending (h : (Resource.job r).savepoints.isPending = true) :
    o.asked conf r w = none ∧ (o.triggerIfDue conf).runOn (r, w) = (.ok none, r, w) := by
  have hnone : (o.findDue conf r).runOn w = (.ok none, w) := by
    rw [findDue, Resource.askable_of_pending h]
    rfl
  rw [asked, triggerIfDue_runOn, hnone]
  exact ⟨rfl, rfl⟩

/-- `dueTrigger` looks at a changed nonce first. -/
theorem dueTrigger_eq_manual_iff {job applied : Option JobSpec} (info : SavepointInfo)
    (conf : Config) (now : Value) :
    dueTrigger job applied info conf now = .ok (some .manual) ↔ isManualDue job applied = true := by
  rw [dueTrigger]
  cases isManualDue job applied with
  | true => exact iff_of_true rfl rfl
  | false => rcases isPeriodicDue info conf now with _ | _ | _ <;> exact iff_of_false nofun nofun

/-- A manual savepoint is `asked` for exactly when its nonce has changed. -/
theorem asked_manual_iff (ho : o.Dependable) :
    (∃ answer, o.asked conf r w = some (.manual, answer)) ↔
      ∃ job, Resource.askable r = some job ∧ ∃ applied : Option (Resource.Spec ρ),
        (Resource.reconciliation r).lastReconciled = .ok applied ∧
          isManualDue (some job) (applied.bind Resource.jobSpec) = true := by
  rw [asked, findDue]
  cases hask : Resource.askable r with
  | none => simp
  | some job =>
    simp only [Action.runOn_bind, Action.runOn_ofOutcome, Option.some.injEq, exists_eq_left']
    cases (Resource.reconciliation r).lastReconciled (σ := Resource.Spec ρ) with
    | error f => simp
    | ok applied =>
      obtain ⟨now, v, hnow⟩ := ho.now w
      simp only [hnow, Except.ok.injEq, exists_eq_left',
        ← dueTrigger_eq_manual_iff (Resource.job r).savepoints conf (.int now)]
      rcases dueTrigger (some job) (applied.bind Resource.jobSpec) (Resource.job r).savepoints conf
        (.int now) with _ | _ | trigger <;> simp

end Operator

/-! ## Clusters in memory -/

/-- An operator of a cluster in memory. -/
def memoryOperator : Operator Simulation.World :=
  Simulation.World.operator .null {} []

/-- A cluster in memory on which nothing has happened. -/
def quietWorld : Simulation.World where
  files := { root := "" }

/-- The clock and the cluster of the `memoryOperator` are always there. -/
theorem memoryOperator_dependable : memoryOperator.Dependable where
  now w := ⟨_, w, rfl⟩
  close h u := by
    cases h
    exact ⟨_, rfl⟩

end FlinkSteward
