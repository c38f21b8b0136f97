import FlinkSteward.Operator

/-!
# Runs of actions

What the parts of an action did, when the whole succeeded.

## Key results

- `Action.runOn_bind_eq_ok`, `Action.runOn_bind_eq_error`: two actions one after the other
- `Action.runOn_beforeFailing_eq_ok`: an action that succeeds without the one that comes before
  failures
- `Subject.runOn_outside`: an action that does not touch the resource
-/

namespace FlinkSteward

namespace Action

variable {σ τ α β : Type}

@[simp] theorem runOn_fail (f : Failure) (s : σ) :
    (fail f : Action σ α).runOn s = (.error f, s) := rfl

@[simp] theorem runOn_onPart (p : Part σ τ) (a : Action τ α) (s : σ) :
    (onPart p a).runOn s = ((a.runOn (p.get s)).1, p.set (a.runOn (p.get s)).2 s) := rfl

theorem runOn_bind_eq_ok {a : Action σ α} {f : α → Action σ β} {s u : σ} {b : β} :
    (a >>= f).runOn s = (.ok b, u) ↔
      ∃ x t, a.runOn s = (.ok x, t) ∧ (f x).runOn t = (.ok b, u) := by
  rw [runOn_bind]
  rcases a.runOn s with ⟨_ | x, t⟩
  · simp
  · exact ⟨fun h => ⟨x, t, rfl, h⟩, by rintro ⟨_, _, ⟨⟩, h⟩; exact h⟩

/-- `a >>= f` fails when `a` fails, or else what comes after it. -/
theorem runOn_bind_eq_error {a : Action σ α} {f : α → Action σ β} {s u : σ} {e : Failure} :
    (a >>= f).runOn s = (.error e, u) ↔ a.runOn s = (.error e, u) ∨
      ∃ x t, a.runOn s = (.ok x, t) ∧ (f x).runOn t = (.error e, u) := by
  rw [runOn_bind]
  rcases a.runOn s with ⟨_ | x, t⟩
  · simp
  · exact ⟨fun h => .inr ⟨x, t, rfl, h⟩, by rintro (⟨⟨⟩⟩ | ⟨_, _, ⟨⟩, h⟩); exact h⟩

theorem runOn_ofOutcome_eq_ok {r : Outcome α} {s t : σ} {x : α} :
    (ofOutcome r : Action σ α).runOn s = (.ok x, t) ↔ r = .ok x ∧ s = t := by
  rw [runOn_ofOutcome, Prod.mk.injEq]

theorem runOn_pure_eq_ok {x y : α} {s t : σ} :
    (pure x : Action σ α).runOn s = (.ok y, t) ↔ x = y ∧ s = t := by
  rw [runOn_pure, Prod.mk.injEq, Except.ok.injEq]

/-- `a.always last` succeeds when `a` does and `last` does after it. -/
theorem runOn_always_eq_ok {a : Action σ α} {last : Action σ Unit} {s t : σ} {x : α} :
    (a.always last).runOn s = (.ok x, t) ↔
      ∃ u, a.runOn s = (.ok x, u) ∧ last.runOn u = (.ok (), t) := by
  rw [always, runOn_ofRun]
  rcases a.runOn s with ⟨r, u⟩
  dsimp only
  rcases hlast : last.runOn u with ⟨_ | _, v⟩
  · simp only [Prod.mk.injEq, reduceCtorEq, false_and, false_iff]
    rintro ⟨_, ⟨-, rfl⟩, h⟩
    rw [hlast] at h
    exact nomatch h
  · constructor
    · rintro ⟨⟩
      exact ⟨u, rfl, hlast⟩
    · rintro ⟨_, ⟨⟩, h⟩
      rw [hlast] at h
      cases h
      rfl

/-- A `last` that never fails leaves the outcome of `a`. -/
theorem runOn_always_fst {a : Action σ α} {last : Action σ Unit}
    (h : ∀ u, ∃ v, last.runOn u = (.ok (), v)) (s : σ) :
    ((a.always last).runOn s).1 = (a.runOn s).1 := by
  obtain ⟨v, hv⟩ := h (a.runOn s).2
  simp only [always, runOn_ofRun, hv]

/-- `a.beforeFailing applies last` does nothing else when `a` succeeds. -/
theorem runOn_beforeFailing_eq_ok {a : Action σ α} {applies : Failure → Bool}
    {last : Action σ Unit} {s t : σ} {x : α} :
    (a.beforeFailing applies last).runOn s = (.ok x, t) ↔ a.runOn s = (.ok x, t) := by
  rw [beforeFailing, runOn_ofRun]
  rcases a.runOn s with ⟨f | y, u⟩
  · -- a failure stays one, whatever comes before it
    dsimp only
    split
    · rcases last.runOn u with ⟨_ | _, v⟩ <;> simp
    · simp
  · rfl

end Action

namespace Subject

variable {ρ σ α : Type} {r s : ρ} {w v : σ} {x : α}

@[simp] theorem runOn_outside (a : Action σ α) (r : ρ) (w : σ) :
    (outside a : Action (ρ × σ) α).runOn (r, w) = ((a.runOn w).1, r, (a.runOn w).2) := rfl

@[simp] theorem runOn_get (r : ρ) (w : σ) :
    (get : Action (ρ × σ) ρ).runOn (r, w) = (.ok r, r, w) := rfl

@[simp] theorem runOn_modify (f : ρ → ρ) (r : ρ) (w : σ) :
    (modify f : Action (ρ × σ) Unit).runOn (r, w) = (.ok (), f r, w) := rfl

theorem runOn_outside_eq_ok {a : Action σ α} :
    (outside a : Action (ρ × σ) α).runOn (r, w) = (.ok x, s, v) ↔
      a.runOn w = (.ok x, v) ∧ r = s := by
  rw [runOn_outside, Prod.mk.injEq, Prod.mk.injEq, Prod.ext_iff, and_assoc, and_comm (a := r = s)]

theorem eq_of_runOn_pure {outcome : Outcome α}
    (h : (pure x : Action (ρ × σ) α).runOn (r, w) = (outcome, s, v)) : r = s :=
  (Prod.mk.inj (Prod.mk.inj h).2).1

@[simp] theorem runOn_job [Resource ρ] (r : ρ) (w : σ) :
    (job : Action (ρ × σ) JobStatus).runOn (r, w) = (.ok (Resource.job r), r, w) := rfl

end Subject

end FlinkSteward
