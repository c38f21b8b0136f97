import FlinkSteward.Proofs.Observe.Stable

/-!
# Passes in two worlds

Two operators in worlds of their own, which see the same of a cluster, make the same of it. The worlds
may differ in everything that is not looked at: one may remember more than the other, or be nothing but
the answers that it gives.

## Key results

- `Subject.Alike`: actions that come out alike, with rules for each way to put actions together
- `Operator.SeesAlike`: operators that see the same
- `Operator.SeesAlike.observeDeployment`: passes of such operators come out alike
-/

namespace FlinkSteward

namespace Subject

variable {σ τ α β : Type} {R : Deployment → σ → τ → Prop}

/-- From worlds that stand in `R`, two actions on a cluster have the same outcome, also a failure, and
leave the same cluster, in worlds that stand in `R` again. -/
def Alike (R : Deployment → σ → τ → Prop) (a : Action (Deployment × σ) α)
    (b : Action (Deployment × τ) α) : Prop :=
  ∀ d w v, R d w v → ∃ outcome e w' v', a.runOn (d, w) = (outcome, e, w') ∧
    b.runOn (d, v) = (outcome, e, v') ∧ R e w' v'

/-- A relation between worlds that depends on the cluster by the status of its JobManager at most. -/
def ByManager (R : Deployment → σ → τ → Prop) : Prop :=
  ∀ ⦃d e w v⦄, R d w v → e.status.manager = d.status.manager → R e w v

namespace Alike

theorem pure (x : α) : Alike R (Pure.pure x) (Pure.pure x) :=
  fun d w v h => ⟨.ok x, d, w, v, rfl, rfl, h⟩

theorem ofOutcome (r : Outcome α) : Alike R (.ofOutcome r) (.ofOutcome r) :=
  fun d w v h => ⟨r, d, w, v, rfl, rfl, h⟩

theorem get : Alike R Subject.get Subject.get :=
  fun d w v h => ⟨.ok d, d, w, v, rfl, rfl, h⟩

theorem job : Alike R Subject.job Subject.job :=
  fun d w v h => ⟨.ok (Resource.job d), d, w, v, rfl, rfl, h⟩

/-- `>>=` of actions that are `Alike` is so. -/
theorem bind {a : Action (Deployment × σ) α} {b : Action (Deployment × τ) α}
    {f : α → Action (Deployment × σ) β} {g : α → Action (Deployment × τ) β} (h : Alike R a b)
    (hrest : ∀ x, Alike R (f x) (g x)) : Alike R (a >>= f) (b >>= g) := by
  intro d w v hd
  obtain ⟨outcome, e, w', v', ha, hb, he⟩ := h d w v hd
  rw [Action.runOn_bind, Action.runOn_bind, ha, hb]
  cases outcome with
  | error f => exact ⟨.error f, e, w', v', rfl, rfl, he⟩
  | ok x => exact hrest x e w' v' he

/-- `beforeFailing` of actions that are `Alike` is so. -/
theorem beforeFailing {a : Action (Deployment × σ) α} {b : Action (Deployment × τ) α}
    {applies : Failure → Bool} {last : Action (Deployment × σ) Unit}
    {last' : Action (Deployment × τ) Unit} (h : Alike R a b) (hlast : Alike R last last') :
    Alike R (a.beforeFailing applies last) (b.beforeFailing applies last') := by
  intro d w v hd
  obtain ⟨outcome, e, w', v', ha, hb, he⟩ := h d w v hd
  simp only [Action.beforeFailing, Action.runOn_ofRun, ha, hb]
  cases outcome with
  | ok x => exact ⟨.ok x, e, w', v', rfl, rfl, he⟩
  | error f =>
    dsimp only
    split
    · obtain ⟨outcome, e', w'', v'', ha', hb', he'⟩ := hlast e w' v' he
      rw [ha', hb']
      cases outcome with
      | ok x => exact ⟨.error f, e', w'', v'', rfl, rfl, he'⟩
      | error g => exact ⟨.error g, e', w'', v'', rfl, rfl, he'⟩
    · exact ⟨.error f, e, w', v', rfl, rfl, he⟩

theorem modify (hR : ByManager R) {f : Deployment → Deployment}
    (hf : ∀ d, (f d).status.manager = d.status.manager) :
    Alike R (Subject.modify f) (Subject.modify f) :=
  fun d w v h => ⟨.ok (), f d, w, v, rfl, rfl, hR h (hf d)⟩

theorem modifyJob (hR : ByManager R) (f : JobStatus → JobStatus) :
    Alike R (Subject.modifyJob f) (Subject.modifyJob f) :=
  modify hR (f := fun d => Resource.withJob d (f (Resource.job d))) fun _ => rfl

theorem modifySavepoints (hR : ByManager R) (f : SavepointInfo → SavepointInfo) :
    Alike R (Subject.modifySavepoints f) (Subject.modifySavepoints f) :=
  modifyJob hR fun s => { s with savepoints := f s.savepoints }

theorem recordError (hR : ByManager R) (message : String) :
    Alike R (Subject.recordError message) (Subject.recordError message) :=
  modify hR (f := fun d => Resource.withError d (some message)) fun _ => rfl

theorem markStable (hR : ByManager R) : Alike R Operator.markStable Operator.markStable :=
  modify hR
    (f := fun d => Resource.withReconciliation d (Resource.reconciliation d).markStable) fun _ => rfl

end Alike

end Subject

open Subject

/-- All means of two operators are `Alike` on clusters, in worlds that stand in `R`. -/
structure Operator.SeesAlike {σ τ : Type} (R : Deployment → σ → τ → Prop) (o : Operator σ)
    (p : Operator τ) : Prop where
  byManager : ByManager R
  settings : o.settings = p.settings
  deployed : ∀ d, Alike R (outside (o.deployedConfig d)) (outside (p.deployedConfig d))
  manager : ∀ conf, Alike R (o.observeManager conf) (p.observeManager conf)
  jobs : ∀ conf, Alike R (outside (o.listJobs conf)) (outside (p.listJobs conf))
  savepoint : ∀ conf job trigger,
    Alike R (outside (o.pollSavepoint conf job trigger)) (outside (p.pollSavepoint conf job trigger))
  now : Alike R (outside o.now) (outside p.now)
  uptime : Alike R (outside o.uptime) (outside p.uptime)

namespace Operator.SeesAlike

variable {σ τ : Type} {R : Deployment → σ → τ → Prop} {o : Operator σ} {p : Operator τ}
  (h : SeesAlike R o p) (conf : Config)

include h

theorem observePending (info : SavepointInfo) (trigger job : Value) :
    Alike R (o.observePending info trigger job conf) (p.observePending info trigger job conf) := by
  unfold Operator.observePending
  rw [h.settings]
  split
  · exact .bind h.now fun now => .bind (.modifySavepoints h.byManager _) fun _ => .pure _
  · refine .bind (.ofOutcome _) fun budget => .bind h.now fun now =>
      .bind (.ofOutcome _) fun overdue => ?_
    split
    · exact .bind (.modifySavepoints h.byManager _) fun _ => .pure _
    · exact .pure _

theorem observeSavepoint (job : Value) :
    Alike R (o.observeSavepoint job conf) (p.observeSavepoint job conf) := by
  unfold Operator.observeSavepoint
  rw [h.settings]
  refine .bind .job fun status => ?_
  dsimp only
  split
  · exact .pure _
  refine .bind (h.savepoint conf job _) fun poll => ?_
  cases poll with
  | failed cause => exact .bind (.modifySavepoints h.byManager _) fun _ => .pure _
  | pending => exact h.observePending conf _ _ _
  | completed place =>
    exact .bind h.now fun now => .bind (.modifySavepoints h.byManager _) fun _ => .pure _

theorem settleSavepoint : Alike R (o.settleSavepoint conf) (p.settleSavepoint conf) := by
  refine .bind .job fun status => .bind (h.observeSavepoint conf _) fun message => ?_
  cases message with
  | none => exact .pure ()
  | some message => exact .recordError h.byManager message

theorem takeReport (id : String) (jobs : List JobReport) :
    Alike R (o.takeReport id jobs) (p.takeReport id jobs) := by
  refine .bind (.ofOutcome _) fun report => ?_
  cases report with
  | none => exact .pure false
  | some report =>
    exact .bind h.now fun now => .bind (.modifyJob h.byManager _) fun _ => .pure true

theorem observeJob (budget : Option Duration) :
    Alike R (o.observeJob conf budget (o.observeManager conf))
      (p.observeJob conf budget (p.observeManager conf)) := by
  refine .bind .job fun status => ?_
  split
  · exact .pure false
  split
  · exact .pure false
  refine .bind h.uptime fun start => .bind (.beforeFailing (h.jobs conf) (h.manager conf)) fun jobs =>
    .bind h.uptime fun stop => ?_
  -- the report is taken whether there was another look at the JobManager or not
  dsimp only
  split
  · exact .bind (h.manager conf) fun _ => h.takeReport _ jobs
  · exact h.takeReport _ jobs

theorem observeApplication : Alike R (o.observeApplication conf) (p.observeApplication conf) := by
  unfold Operator.observeApplication
  rw [h.settings]
  refine .bind (h.observeJob conf _) fun found => ?_
  split
  · refine .bind (h.settleSavepoint conf) fun _ => .bind .job fun status => ?_
    split
    · exact .markStable h.byManager
    · exact .pure ()
  · exact .pure ()

theorem observeReady (applied : DeploymentSpec) :
    Alike R (o.observeReady conf applied) (p.observeReady conf applied) := by
  unfold Operator.observeReady
  split
  · exact .markStable h.byManager
  · split
    · exact .pure ()
    · exact h.observeApplication conf

/-- `observeDeployment` is `Alike` for operators that see the same. -/
theorem observeDeployment : Alike R o.observeDeployment p.observeDeployment := by
  refine .bind .get fun d => .bind (h.deployed d) fun conf => ?_
  cases conf with
  | none => exact .pure ()
  | some conf =>
    refine .bind (h.manager conf) fun _ => .bind .get fun d => ?_
    split
    · refine .bind (.ofOutcome _) fun applied => ?_
      cases applied with
      | none => exact .pure ()
      | some applied => exact h.observeReady conf applied
    · exact .pure ()

end Operator.SeesAlike

end FlinkSteward
