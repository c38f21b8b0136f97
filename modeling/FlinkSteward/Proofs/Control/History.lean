import FlinkSteward.Proofs.Control.Suspend

/-!
# How many savepoints are remembered

A pass that records a savepoint forgets older ones beyond the operator's limit. The savepoint of a
stop is remembered without a look at the limit, until a pass records one again.

## Key results

- `Watching.history`: what a pass does to the savepoints that are remembered
- `Operator.history_suspend`, `Operator.history_triggerIfDue`: what other actions do to them
- `savepointHistory_length_of_worked`: how many are remembered after any run
-/

namespace FlinkSteward

open Simulation

/-- The savepoints that are remembered of the job of a resource. -/
def Resource.history {ρ : Type} [Resource ρ] (r : ρ) : List (Option Savepoint) :=
  (Resource.job r).savepoints.history

namespace Resource

variable {ρ : Type} [Resource ρ] [LawfulResource ρ]

@[simp] theorem history_withJob (r : ρ) (s : JobStatus) :
    history (withJob r s) = s.savepoints.history := by
  rw [history, LawfulResource.job_withJob]

@[simp] theorem history_withReconciliation (r : ρ) (s : ReconciliationStatus) :
    history (withReconciliation r s) = history r := by
  rw [history, LawfulResource.job_withReconciliation, history]

@[simp] theorem history_withError (r : ρ) (error : Option String) :
    history (withError r error) = history r := by
  rw [history, LawfulResource.job_withError, history]

end Resource

/-! ## Steps -/

/-- A pass leaves the `history` as it is, or within the limit. -/
theorem Watching.history {ρ : Type} [Resource ρ] [LawfulResource ρ] (limit : Int)
    (old : List (Option Savepoint)) :
    Watching limit fun r : ρ =>
      Resource.history r = old ∨ (Resource.history r).length ≤ limit.toNat where
  settled r s hr hs := by
    rw [Resource.history_withJob]
    cases hs with
    | dated => exact hr
    | cleared => exact hr
    | completed => exact .inr (SavepointInfo.length_lastItems_le _ _)
  error r error hr := by rwa [Resource.history_withError]
  reported r report time hr := by
    rw [Resource.history_withJob]
    exact hr

namespace Operator

variable {ρ σ : Type} [Resource ρ] [LawfulResource ρ] {conf : Config}

/-- `Operator.triggerIfDue` leaves the `history` as it is. -/
theorem history_triggerIfDue (o : Operator σ) (r : ρ) (w : σ) :
    Resource.history ((o.triggerIfDue conf).runOn (r, w)).2.1 = Resource.history r := by
  refine (keeps_triggerIfDue_of_begun (I := fun s => Resource.history s = Resource.history r)
    ?_ ?_ r w rfl).1
  · intro s id trigger time hs
    rw [Resource.history_withJob, ← hs]
    rfl
  · intro _ _ _ _ _ _ _ _ t ht
    rw [Resource.history_withReconciliation, ht]

/-- How many savepoints a stop with this outcome has recorded. -/
def recordedBy : Outcome Value → Nat
  | .error _ => 0
  | .ok place => if place = .null then 0 else 1

/-- `Operator.suspend` adds the savepoint that it records to the `history`, whatever the limit is. -/
theorem history_suspend (o : Operator σ) (mode : UpgradeMode) (r : ρ) (w : σ) :
    (Resource.history ((o.suspend mode conf).runOn (r, w)).2.1).length =
      (Resource.history r).length + recordedBy ((o.suspend mode conf).runOn (r, w)).1 := by
  rcases hrun : (o.suspend mode conf).runOn (r, w) with ⟨f | place, s, v⟩
  · rw [suspend_eq_error hrun]
    rfl
  · obtain ⟨_, time, -, -, rfl⟩ := suspend_eq_ok.1 hrun
    dsimp only
    rw [Resource.history_withJob]
    by_cases hplace : place = .null
    · subst hplace
      rfl
    · rw [JobStatus.stopped_of_ne hplace, recordedBy, if_neg hplace]
      exact List.length_append

end Operator

/-- The passes of `Operator.observeDeployment` by operators that remember `limit` savepoints. -/
inductive Deployment.Looked (limit : Int) (d : Deployment) : Deployment → Prop where
  | observed {σ : Type} {o : Operator σ} (ho : o.settings.historyLimit = limit) (w : σ) :
    Looked limit d (o.observeDeployment.runOn (d, w)).2.1

/-- The passes of `Operator.observeSessionJob` by operators that remember `limit` savepoints. -/
inductive SessionJob.Looked (limit : Int) (j : SessionJob) : SessionJob → Prop where
  | observed {σ : Type} {o : Operator σ} (ho : o.settings.historyLimit = limit)
    (session : Option Deployment) (w : σ) :
    Looked limit j ((o.observeSessionJob session).runOn (j, w)).2.1

theorem Deployment.Looked.history {limit : Int} {d e : Deployment} (h : Looked limit d e) :
    Resource.history e = Resource.history d ∨ (Resource.history e).length ≤ limit.toNat := by
  obtain ⟨rfl, w⟩ := h
  exact (Operator.keeps_observeDeployment_of_watching (fun _ _ h => h) (.history _ _)
    (fun _ h => h) d w (.inl rfl)).1

theorem SessionJob.Looked.history {limit : Int} {j e : SessionJob} (h : Looked limit j e) :
    Resource.history e = Resource.history j ∨ (Resource.history e).length ≤ limit.toNat := by
  obtain ⟨rfl, session, w⟩ := h
  exact (Operator.keeps_observeSessionJob_of_watching (.history _ _) j w (.inl rfl)).1

/-! ## Runs -/

/-- Passes (`Look`), requests for due savepoints and stops in any order, from a resource. Beside the
resource stand how many savepoints were remembered after the last pass that changed them, or else at
the start, and how many were recorded by stops since then. -/
inductive Worked {ρ : Type} [Resource ρ] (Look : ρ → ρ → Prop) (start : ρ) : ρ → Nat → Nat → Prop
    where
  | start : Worked Look start start (Resource.history start).length 0
  /-- A pass that leaves what is remembered as it is. -/
  | kept {r s : ρ} {base stops : Nat} (h : Worked Look start r base stops) (hl : Look r s)
    (hsame : Resource.history s = Resource.history r) : Worked Look start s base stops
  /-- A pass that changes it. -/
  | changed {r s : ρ} {base stops : Nat} (h : Worked Look start r base stops) (hl : Look r s)
    (hother : Resource.history s ≠ Resource.history r) :
    Worked Look start s (Resource.history s).length 0
  | triggered {r : ρ} {base stops : Nat} {σ : Type} (h : Worked Look start r base stops)
    (o : Operator σ) (conf : Config) (w : σ) :
    Worked Look start ((o.triggerIfDue conf).runOn (r, w)).2.1 base stops
  | suspended {r : ρ} {base stops : Nat} {σ : Type} (h : Worked Look start r base stops)
    (o : Operator σ) (mode : UpgradeMode) (conf : Config) (w : σ) :
    Worked Look start ((o.suspend mode conf).runOn (r, w)).2.1 base
      (stops + Operator.recordedBy ((o.suspend mode conf).runOn (r, w)).1)

/-- The `history` after a run has what the last pass that changed it left, and what was stopped with
since then. -/
theorem Worked.history {ρ : Type} [Resource ρ] [LawfulResource ρ] {Look : ρ → ρ → Prop}
    {limit : Int} (hlook : ∀ {r s}, Look r s →
      Resource.history s = Resource.history r ∨ (Resource.history s).length ≤ limit.toNat)
    {start r : ρ} {base stops : Nat} (h : Worked Look start r base stops)
    (hstart : (Resource.history start).length ≤ limit.toNat) :
    (Resource.history r).length = base + stops ∧ base ≤ limit.toNat := by
  -- by induction on the run: the limit bounds what passes leave, and stops only add to that
  induction h with
  | start => exact ⟨rfl, hstart⟩
  | kept _ _ hsame ih => rwa [hsame]
  | changed _ hl hother => exact ⟨rfl, (hlook hl).resolve_left hother⟩
  | triggered _ o conf w ih => rwa [o.history_triggerIfDue]
  | suspended _ o mode conf w ih =>
    rw [o.history_suspend, ih.1, Nat.add_assoc]
    exact ⟨rfl, ih.2⟩

/-- However often a cluster or a job is `Worked` on, that is looked at, asked for savepoints and
stopped, from a time when the `history` was no longer than the operator's limit: what a pass left of
it is within the limit, and what exceeds it are the savepoints of stops since then. -/
theorem savepointHistory_length_of_worked {limit : Int} :
    (∀ {start d : Deployment} {base stops : Nat},
      Worked (Deployment.Looked limit) start d base stops →
      start.status.job.savepoints.history.length ≤ limit.toNat →
        d.status.job.savepoints.history.length = base + stops ∧ base ≤ limit.toNat) ∧
    (∀ {start j : SessionJob} {base stops : Nat},
      Worked (SessionJob.Looked limit) start j base stops →
      start.status.job.savepoints.history.length ≤ limit.toNat →
        j.status.job.savepoints.history.length = base + stops ∧ base ≤ limit.toNat) :=
  ⟨fun h => h.history Deployment.Looked.history, fun h => h.history SessionJob.Looked.history⟩

/-- An operator that remembers a single savepoint. -/
def forgetfulOperator : Operator World :=
  World.operator (.text "default") { historyLimit := 1 } []

/-- A cluster of whose job a savepoint is remembered. -/
def savedDeployment : Deployment where
  status.job := {
    jobId := some "a1"
    savepoints := { history := [some { location := some (.text "file:///savepoints/1") }] } }

/-- One stop is enough to exceed the limit of an operator that remembers a single savepoint. -/
theorem savepointHistory_length_after_stop :
    savedDeployment.status.job.savepoints.history.length ≤ Int.toNat 1 ∧
      ∃ d, Worked (Deployment.Looked forgetfulOperator.settings.historyLimit) savedDeployment
          d 1 1 ∧
        d.status.job.savepoints.history.length = 2 := by
  have hstart : Worked (Deployment.Looked forgetfulOperator.settings.historyLimit) savedDeployment
      savedDeployment 1 0 := .start
  have hstopped := hstart.suspended forgetfulOperator .savepoint [] { files := { root := "" } }
  have hrecorded : Operator.recordedBy ((forgetfulOperator.suspend .savepoint []).runOn
      (savedDeployment, { files := { root := "" } })).1 = 1 := by decide +kernel
  rw [hrecorded] at hstopped
  exact ⟨by decide, _, hstopped, (savepointHistory_length_of_worked.1 hstopped (by decide)).1⟩

end FlinkSteward
