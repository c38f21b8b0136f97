import FlinkSteward.Proofs.Subject
import Mathlib.Order.Defs.Unbundled

/-!
# Where actions take the world

The operator reaches its world through what it is given: requests to Kubernetes, connections to
clusters, clocks and the directory of generated files. If each of these leads along a preorder of
worlds, such as "no part of this changes" or "the clock goes on", then so does everything that the
operator does, also where it fails.

## Key results

- `Action.Along`: an action that leads along a relation, with rules for putting actions together
- `Operator.Respects`: an operator all of whose means lead along a relation of worlds
- `Operator.Respects.requestSavepoint`, `Operator.Respects.stopJob`: single questions
- `Operator.Heeds`: a relation of worlds with resources that the parts of a pass lead along
- `Operator.Heeds.observeDeployment`, `Operator.Heeds.observeSessionJob`: whole passes
- `Operator.Respects.heeds`: what passes do to the world alone
-/

namespace FlinkSteward

namespace Action

variable {σ α β : Type} {R : σ → σ → Prop}

/-- From every state the action leads to one that stands in `R` to it, also when it fails. -/
def Along (R : σ → σ → Prop) (a : Action σ α) : Prop :=
  ∀ s, R s (a.runOn s).2

namespace Along

variable [IsPreorder σ R]

theorem pure (x : α) : (Pure.pure x : Action σ α).Along R :=
  fun s => refl_of R s

theorem ofOutcome (r : Outcome α) : (Action.ofOutcome r : Action σ α).Along R :=
  fun s => refl_of R s

/-- `a >>= f` goes along `R` when `a` does, and `f` for whatever `a` gives. -/
theorem bind_of_result {a : Action σ α} {f : α → Action σ β} (ha : a.Along R)
    (hf : ∀ {s x t}, a.runOn s = (.ok x, t) → (f x).Along R) : (a >>= f).Along R := by
  intro s
  have hfirst := ha s
  rw [runOn_bind]
  rcases hrun : a.runOn s with ⟨_ | x, t⟩ <;> rw [hrun] at hfirst
  · exact hfirst
  · exact trans_of R hfirst (hf hrun t)

theorem bind {a : Action σ α} {f : α → Action σ β} (ha : a.Along R) (hf : ∀ x, (f x).Along R) :
    (a >>= f).Along R :=
  ha.bind_of_result fun _ => hf _

/-- An action that gives something or nothing, and what is done in either case. -/
theorem bind_option {a : Action σ (Option α)} {f : Option α → Action σ β} (ha : a.Along R)
    (hnone : (f none).Along R) (hsome : ∀ x, (f (some x)).Along R) : (a >>= f).Along R := by
  refine ha.bind fun x => ?_
  cases x with
  | none => exact hnone
  | some x => exact hsome x

theorem always {a : Action σ α} {last : Action σ Unit} (ha : a.Along R) (hlast : last.Along R) :
    (a.always last).Along R := by
  intro s
  have hfirst := ha s
  simp only [Action.always, runOn_ofRun]
  rcases hrun : a.runOn s with ⟨r, t⟩
  rw [hrun] at hfirst
  have hboth := trans_of R hfirst (hlast t)
  dsimp only
  rcases hrest : last.runOn t with ⟨_ | _, u⟩ <;> rw [hrest] at hboth <;> exact hboth

theorem beforeFailing {a : Action σ α} {applies : Failure → Bool} {last : Action σ Unit}
    (ha : a.Along R) (hlast : last.Along R) : (a.beforeFailing applies last).Along R := by
  intro s
  have hfirst := ha s
  simp only [Action.beforeFailing, runOn_ofRun]
  rcases hrun : a.runOn s with ⟨f | x, t⟩ <;> rw [hrun] at hfirst
  · dsimp only
    split
    · have hboth := trans_of R hfirst (hlast t)
      rcases hrest : last.runOn t with ⟨_ | _, u⟩ <;> rw [hrest] at hboth <;> exact hboth
    · exact hfirst
  · exact hfirst

end Along

end Action

/-! ## Means -/

variable {ρ σ : Type} {W : σ → σ → Prop}

/-- Everything that a client is asked goes `Along` a relation of worlds. -/
structure Client.Respects (W : σ → σ → Prop) (c : Client σ) : Prop where
  listJobs : c.listJobs.Along W
  cancel : ∀ job, (c.cancel job).Along W
  stopWithSavepoint : ∀ job drain directory, (c.stopWithSavepoint job drain directory).Along W
  triggerSavepoint : ∀ job directory cancel, (c.triggerSavepoint job directory cancel).Along W
  savepointStatus : ∀ job trigger, (c.savepointStatus job trigger).Along W
  close : c.close.Along W

/-- All means of an operator go `Along` a relation of worlds. -/
structure Operator.Respects (W : σ → σ → Prop) (o : Operator σ) : Prop where
  send : ∀ request, (o.kubernetes.send request).Along W
  connect : ∀ conf, (o.connect conf).Along W
  client : ∀ {conf w c v}, (o.connect conf).runOn w = (.ok c, v) → c.Respects W
  now : o.now.Along W
  uptime : o.uptime.Along W
  files : ∀ w files, W w (o.files.set files w)

namespace Operator.Respects

variable {o : Operator σ} (h : o.Respects W) (conf : Config)

include h

theorem orMissing (request : Kubernetes.Request) :
    (Kubernetes.orMissing (o.kubernetes.send request)).Along W := by
  intro w
  have hsend := h.send request w
  rw [Kubernetes.orMissing, Action.runOn_ofRun]
  rcases hrun : (o.kubernetes.send request).runOn w with ⟨_ | _, v⟩ <;> rw [hrun] at hsend <;>
    exact hsend

theorem onFiles {α : Type} (a : Action Files α) : (Action.onPart o.files a).Along W :=
  fun w => h.files w _

theorem deployedConfig (d : Deployment) : (o.deployedConfig d).Along W :=
  h.onFiles _

variable [IsPreorder σ W]

theorem currentConfig (d : Deployment) : (o.currentConfig d).Along W :=
  .bind_option (h.deployedConfig d) (h.onFiles _) fun _ => .pure _

/-- `Client.use` respects a relation of worlds, from the connection until it is closed. -/
theorem use {α : Type} {job : Client σ → Action σ α} (hjob : ∀ c, c.Respects W → (job c).Along W) :
    (Client.use (o.connect conf) job).Along W :=
  (h.connect conf).bind_of_result fun hc => (hjob _ (h.client hc)).always (h.client hc).close

theorem listJobs : (o.listJobs conf).Along W :=
  h.use conf fun _ hc => hc.listJobs

theorem requestSavepoint (job : Value) : (o.requestSavepoint conf job).Along W :=
  h.use conf fun _ hc => .bind (.ofOutcome _) fun _ => hc.triggerSavepoint _ _ _

theorem pollSavepoint (job trigger : Value) : (o.pollSavepoint conf job trigger).Along W :=
  h.use conf fun _ hc => hc.savepointStatus _ _

theorem deleteCluster (space clusterId : Value) (withRecoveryData : Bool) :
    (o.deleteCluster space clusterId withRecoveryData).Along W := by
  refine .bind (.bind (h.orMissing _) fun _ => .pure ()) fun _ => ?_
  split
  · exact h.send _
  · exact .pure ()

theorem stopJob (job : Value) (mode : UpgradeMode) : (o.stopJob job mode conf).Along W := by
  cases mode with
  | stateless => exact .bind (h.use conf fun _ hc => hc.cancel _) fun _ => .pure _
  | savepoint =>
    exact .bind (.ofOutcome _) fun _ => h.use conf fun _ hc => hc.stopWithSavepoint _ _ _
  | lastState =>
    simp only [Operator.stopJob]
    split
    · exact .ofOutcome _
    · exact .bind (h.deleteCluster _ _ _) fun _ => .pure _

end Operator.Respects

/-! ## Passes -/

/-- The parts of a pass go `Along` a relation of worlds with resources. -/
structure Operator.Heeds [Resource ρ] (R : ρ × σ → ρ × σ → Prop) (o : Operator σ) : Prop where
  world : ∃ W, IsPreorder σ W ∧ o.Respects W ∧ ∀ (r : ρ) {w v}, W w v → R (r, w) (r, v)
  savepoint : ∀ job conf, (o.observeSavepoint job conf).Along R
  reported : ∀ (r : ρ) w report time,
    R (r, w) (Resource.withJob r ((Resource.job r).observed report time), w)
  error : ∀ (r : ρ) w error, R (r, w) (Resource.withError r error, w)

namespace Operator.Heeds

open Subject

section Parts

variable [Resource ρ] {R : ρ × σ → ρ × σ → Prop} {o : Operator σ} (h : o.Heeds R) {conf : Config}

include h

/-- `Subject.outside` goes along `R` for an action that goes along all relations of worlds that the
operator `Respects`. -/
theorem outside {α : Type} {a : Action σ α}
    (ha : ∀ {W : σ → σ → Prop} [IsPreorder σ W], o.Respects W → a.Along W) :
    (Subject.outside a : Action (ρ × σ) α).Along R := by
  obtain ⟨W, _, hW, hR⟩ := h.world
  exact fun s => hR s.1 (ha hW s.2)

variable [IsPreorder (ρ × σ) R]

theorem settleSavepoint : (o.settleSavepoint conf : Action (ρ × σ) Unit).Along R := by
  refine .bind (fun s => refl_of R s) fun status =>
    .bind_option (h.savepoint _ _) (.pure ()) fun message => fun s => h.error s.1 s.2 _

theorem observeJob {budget : Option Duration} {onTimeout : Action (ρ × σ) Unit}
    (htimeout : onTimeout.Along R) : (o.observeJob conf budget onTimeout).Along R := by
  refine .bind (fun s => refl_of R s) fun status => ?_
  split
  · exact .pure false
  split
  · exact .pure false
  refine .bind (h.outside (·.uptime)) fun start =>
    .bind (.beforeFailing (h.outside (·.listJobs conf)) htimeout) fun jobs =>
      .bind (h.outside (·.uptime)) fun stop => ?_
  -- what a look changes of the resource, it changes at its end
  have hreport : ∀ report : JobReport, (do
      let now ← Subject.outside o.now
      Subject.modifyJob fun s => s.observed report now
      return true : Action (ρ × σ) Bool).Along R := fun report =>
    .bind (h.outside (·.now)) fun now =>
      .bind (fun s => h.reported s.1 s.2 report now) fun _ => .pure true
  dsimp only
  split
  · exact .bind htimeout fun _ => .bind_option (.ofOutcome _) (.pure false) hreport
  · exact .bind_option (.ofOutcome _) (.pure false) hreport

end Parts

section Deployment

variable {R : Deployment × σ → Deployment × σ → Prop} [IsPreorder (Deployment × σ) R]
  {o : Operator σ} (h : o.Heeds R)
  (hmanager : ∀ (d : Deployment) w m,
    R (d, w) ({ d with status := { d.status with manager := m } }, w))
  (hstable : ∀ (d : Deployment) w,
    R (d, w) (Resource.withReconciliation d (Resource.reconciliation d).markStable, w))

include h hmanager

theorem observeManager (conf : Config) : (o.observeManager conf).Along R :=
  .bind (h.outside fun hW => hW.orMissing _) fun found s =>
    hmanager s.1 s.2 (s.1.status.manager.next found)

include hstable

theorem observeApplication (conf : Config) : (o.observeApplication conf).Along R := by
  refine .bind (h.observeJob (h.observeManager hmanager conf)) fun found => ?_
  split
  · refine .bind h.settleSavepoint fun _ => .bind (fun s => refl_of R s) fun status => ?_
    split
    · exact fun s => hstable s.1 s.2
    · exact .pure ()
  · exact .pure ()

theorem observeDeployment : o.observeDeployment.Along R := by
  refine .bind (fun s => refl_of R s) fun d =>
    .bind_option (h.outside (·.deployedConfig d)) (.pure ()) fun conf =>
      .bind (h.observeManager hmanager conf) fun _ => .bind (fun s => refl_of R s) fun d => ?_
  split
  · refine .bind_option (.ofOutcome _) (.pure ()) fun applied => ?_
    simp only [observeReady]
    split
    · exact fun s => hstable s.1 s.2
    · split
      · exact .pure ()
      · exact h.observeApplication hmanager hstable conf
  · exact .pure ()

end Deployment

theorem observeSessionJob {R : SessionJob × σ → SessionJob × σ → Prop}
    [IsPreorder (SessionJob × σ) R] {o : Operator σ} (h : o.Heeds R) (session : Option Deployment) :
    (o.observeSessionJob session).Along R := by
  refine .bind (fun s => refl_of R s) fun j => ?_
  split
  · exact .pure ()
  split
  · exact .pure ()
  split
  · refine .bind (h.outside (·.currentConfig _)) fun conf =>
      .bind (h.observeJob (.pure ())) fun found => ?_
    split
    · exact h.settleSavepoint
    · exact .pure ()
  · exact .pure ()

end Operator.Heeds

/-! ## Worlds alone -/

namespace Subject

/-- A relation of worlds, whatever becomes of the resources in them. -/
def Beside (ρ : Type) (W : σ → σ → Prop) : ρ × σ → ρ × σ → Prop :=
  fun s t => W s.2 t.2

instance [IsPreorder σ W] : IsPreorder (ρ × σ) (Beside ρ W) where
  refl s := refl_of W s.2
  trans _ _ _ h h' := trans_of W h h'

end Subject

namespace Operator.Respects

open Subject

variable [Resource ρ] [IsPreorder σ W] {o : Operator σ} (h : o.Respects W)

include h

theorem observePending (info : SavepointInfo) (trigger job : Value) (conf : Config) :
    (o.observePending info trigger job conf : Action (ρ × σ) _).Along (Beside ρ W) := by
  unfold Operator.observePending
  split
  · exact .bind (fun s => h.now s.2) fun now => .bind (fun s => refl_of W s.2) fun _ => .pure _
  · refine .bind (.ofOutcome _) fun budget => .bind (fun s => h.now s.2) fun now =>
      .bind (.ofOutcome _) fun overdue => ?_
    split
    · exact .bind (fun s => refl_of W s.2) fun _ => .pure _
    · exact .pure _

theorem observeSavepoint (job : Value) (conf : Config) :
    (o.observeSavepoint job conf : Action (ρ × σ) _).Along (Beside ρ W) := by
  refine .bind (fun s => refl_of W s.2) fun status => ?_
  dsimp only
  split
  · exact .pure none
  refine .bind (fun s => h.pollSavepoint conf job _ s.2) fun poll => ?_
  cases poll with
  | failed cause => exact .bind (fun s => refl_of W s.2) fun _ => .pure _
  | pending => exact h.observePending _ _ _ _
  | completed place =>
    exact .bind (fun s => h.now s.2) fun now => .bind (fun s => refl_of W s.2) fun _ => .pure none

theorem heeds : o.Heeds (Beside ρ W) where
  world := ⟨W, inferInstance, h, fun _ _ _ hw => hw⟩
  savepoint := h.observeSavepoint
  reported _ w _ _ := refl_of W w
  error _ w _ := refl_of W w

end Operator.Respects

end FlinkSteward
