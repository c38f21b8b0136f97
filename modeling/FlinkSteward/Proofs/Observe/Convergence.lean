import FlinkSteward.Proofs.Number.Sign
import FlinkSteward.Proofs.Observe.Snapshot
import FlinkSteward.Proofs.Resource.Spec
import Mathlib.Logic.Function.Iterate

/-!
# Observation comes to an end

As long as nothing happens outside, passes over a cluster come to an end: after two of them the cluster
stays as it is, whatever it was and whatever the world answers, failures included. The first pass may
find all replicas up and wait for another look; the second one then looks at the job, and a further one
would make the same of it.

That takes a budget for savepoints of nought at least. The time of a pending savepoint of unknown age
starts with a pass, and the next one would find it overdue at once.

## Key results

- `isOverdue_now`: what was asked for just now is not overdue
- `Snapshot.look_look`: a second look at savepoints
- `Snapshot.application_application`: a second look at a job
- `Snapshot.pass_pass_pass`: a third pass
- `observation_converges`: passes in any world in which nothing happens
-/

namespace FlinkSteward

/-! ## Savepoints -/

/-- A savepoint is not `isOverdue` when it was asked for just now. -/
theorem isOverdue_now {budget : Duration} (h : 0 ≤ budget.micros) (time : Int) :
    isOverdue budget (.int time) (.int time) = .ok false := by
  have hpast : elapsed (.int time) (.int time) = .ok (.int (time - time)) := rfl
  rw [isOverdue, hpast, Int.sub_self]
  have hlt : (Number.real budget.millis).lt (.int 0) = false :=
    decide_eq_false (Double.compareInt?_zero_ne_lt (Duration.isNegative_millis h))
  exact congrArg Except.ok hlt

namespace Snapshot

/-- No budget for pending savepoints (`savepointTimeout`) is overdrawn from the start. -/
def BudgetFrom (settings : OperatorConfig) (conf : Config) : Prop :=
  ∀ budget, conf.duration Config.savepointTimeoutKey settings.savepointTimeout = .ok budget →
    0 ≤ budget.micros

section Savepoints

variable {s : Snapshot} {settings : OperatorConfig} {conf : Config}

theorem look_of_not_pending {job : Value} {info : SavepointInfo} (h : info.isPending = false) :
    s.look settings conf job info = .ok (none, info) :=
  if_pos h

theorem look_of_pending {job : Value} {info : SavepointInfo} (h : info.isPending ≠ false)
    (hpoll : s.savepoint conf job (Value.ofOption info.triggerId) = .ok .pending) :
    s.look settings conf job info = s.lookPending settings conf job info := by
  rw [look, if_neg h, hpoll]
  rfl

/-- `lookPending` at a savepoint whose time starts now fails, or leaves it pending. -/
theorem lookPending_now (hbudget : BudgetFrom settings conf) (job : Value) {info : SavepointInfo}
    (h : info.triggerTimestamp = some (.int s.time)) :
    (∃ f, s.lookPending settings conf job info = .error f) ∨
      s.lookPending settings conf job info = .ok (none, info) := by
  simp only [lookPending, h]
  cases hduration : conf.duration Config.savepointTimeoutKey settings.savepointTimeout with
  | error f => exact .inl ⟨f, rfl⟩
  | ok budget =>
    have hearly := isOverdue_now (hbudget budget hduration) s.time
    exact .inr (Outcome.bind_eq_ok.2 ⟨budget, rfl, Outcome.bind_eq_ok.2 ⟨false, hearly, rfl⟩⟩)

/-- A second `look` at savepoints fails, or makes nothing more of them and tells nothing. -/
theorem look_look (hbudget : BudgetFrom settings conf) {job : Value} {info info' : SavepointInfo}
    {message : Option String} (h : s.look settings conf job info = .ok (message, info')) :
    (∃ f, s.look settings conf job info' = .error f) ∨
      s.look settings conf job info' = .ok (none, info') := by
  by_cases hpending : info.isPending = false
  · rw [look_of_not_pending hpending] at h
    obtain ⟨-, rfl⟩ := Prod.mk.inj (Except.ok.inj h)
    exact .inr (look_of_not_pending hpending)
  have hlook := h
  rw [look, if_neg hpending] at h
  obtain ⟨poll, hpoll, h⟩ := Outcome.bind_eq_ok.1 h
  cases poll with
  | failed cause =>
    obtain ⟨-, rfl⟩ := Prod.mk.inj (Except.ok.inj h)
    exact .inr (look_of_not_pending rfl)
  | completed place =>
    obtain ⟨-, rfl⟩ := Prod.mk.inj (Except.ok.inj h)
    exact .inr (look_of_not_pending rfl)
  | pending =>
    dsimp only at h
    unfold lookPending at h
    split at h
    · -- the time of the savepoint starts with the first look
      obtain ⟨-, rfl⟩ := Prod.mk.inj (Except.ok.inj h)
      have hagain : s.look settings conf job { info with triggerTimestamp := some (.int s.time) } =
          s.lookPending settings conf job { info with triggerTimestamp := some (.int s.time) } :=
        look_of_pending hpending hpoll
      rw [hagain]
      exact lookPending_now hbudget job rfl
    · obtain ⟨budget, -, h⟩ := Outcome.bind_eq_ok.1 h
      obtain ⟨overdue, -, h⟩ := Outcome.bind_eq_ok.1 h
      cases overdue with
      | true =>
        obtain ⟨-, rfl⟩ := Prod.mk.inj (Except.ok.inj h)
        exact .inr (look_of_not_pending rfl)
      | false =>
        obtain ⟨rfl, rfl⟩ := Prod.mk.inj (Except.ok.inj h)
        exact .inr hlook

end Savepoints

end Snapshot

/-! ## What decides about passes -/

/-- The third `next` look at a deployment that does not change finds nothing new. -/
theorem ManagerStatus.next_next_next {m : ManagerStatus} {seen : Option ManagerDeployment} :
    ((m.next seen).next seen).next seen = (m.next seen).next seen := by
  cases seen with
  | none => rfl
  | some found =>
    cases hup : found.isAvailable with
    | false => simp [next, hup]
    | true =>
      have hsecond : (m.next (some found)).next (some found) = .ready := by
        simp only [next, hup]
        by_cases hstarting : m = .deploying ∨ m = .missing <;> simp [hstarting]
      rw [hsecond]
      exact next_ready hsecond

/-- Two clusters with the same identity, JobManager and specification that was last applied. -/
structure SameCluster (d e : Deployment) : Prop where
  metadata : e.metadata = d.metadata
  manager : e.status.manager = d.status.manager
  applied : e.status.reconciliation.lastReconciledSpec = d.status.reconciliation.lastReconciledSpec

theorem SameCluster.refl (d : Deployment) : SameCluster d d :=
  ⟨rfl, rfl, rfl⟩

namespace Deployment

theorem sameCluster_stableIfRunning (d : Deployment) : SameCluster d d.stableIfRunning := by
  unfold stableIfRunning
  split <;> exact ⟨rfl, rfl, rfl⟩

theorem job_stableIfRunning (d : Deployment) : d.stableIfRunning.status.job = d.status.job := by
  unfold stableIfRunning
  split <;> rfl

theorem stableIfRunning_stableIfRunning (d : Deployment) :
    d.stableIfRunning.stableIfRunning = d.stableIfRunning := by
  by_cases h : d.status.job.state = some (.text "RUNNING")
  · have hfirst : d.stableIfRunning =
        Resource.withReconciliation d d.status.reconciliation.markStable := if_pos h
    rw [hfirst]
    exact if_pos h
  · have hsame : d.stableIfRunning = d := if_neg h
    rw [hsame, hsame]

end Deployment

namespace Snapshot

/-! ## Steps -/

variable (s : Snapshot) (settings : OperatorConfig) (defaults conf : Config)

section

variable {s settings conf} {d : Deployment}

theorem settled_of_look {message : Option String} {info : SavepointInfo}
    (h : s.look settings conf d.status.job.jobIdValue d.status.job.savepoints = .ok (message, info)) :
    s.settled settings conf d = (d.looked message info).stableIfRunning := by
  rw [settled, h]

theorem settled_of_error {f : Failure}
    (h : s.look settings conf d.status.job.jobIdValue d.status.job.savepoints = .error f) :
    s.settled settings conf d = d := by
  rw [settled, h]

end

/-- `settled` leaves everything of the job but its savepoints. -/
theorem job_settled (d : Deployment) : ∃ info,
    (s.settled settings conf d).status.job = { d.status.job with savepoints := info } := by
  rcases hlook : s.look settings conf d.status.job.jobIdValue d.status.job.savepoints with
    f | ⟨message, info⟩
  · rw [settled_of_error hlook]
    exact ⟨d.status.job.savepoints, rfl⟩
  · rw [settled_of_look hlook]
    exact ⟨info, Deployment.job_stableIfRunning _⟩

theorem sameCluster_settled (d : Deployment) : SameCluster d (s.settled settings conf d) := by
  rcases hlook : s.look settings conf d.status.job.jobIdValue d.status.job.savepoints with
    f | ⟨message, info⟩
  · rw [settled_of_error hlook]
    exact .refl d
  · rw [settled_of_look hlook]
    have hsame := (d.looked message info).sameCluster_stableIfRunning
    exact ⟨hsame.metadata, hsame.manager, hsame.applied⟩

theorem sameCluster_application (d : Deployment) :
    SameCluster d (s.application settings conf d) := by
  unfold application
  split
  · rename_i report _
    have hsame := s.sameCluster_settled settings conf
      (Resource.withJob d (d.status.job.observed report s.time))
    exact ⟨hsame.metadata, hsame.manager, hsame.applied⟩
  · exact .refl d

theorem sameCluster_ready (applied : DeploymentSpec) (d : Deployment) :
    SameCluster d (s.ready settings conf applied d) := by
  unfold ready
  split
  · exact ⟨rfl, rfl, rfl⟩
  · split
    · exact .refl d
    · exact s.sameCluster_application settings conf d

theorem sameCluster_visitReady (d : Deployment) :
    SameCluster d (s.visitReady settings conf d) := by
  unfold visitReady
  split
  · exact s.sameCluster_ready settings conf _ d
  · exact .refl d

/-- A `visit` leaves what the configuration of the cluster is made of. -/
theorem deployed_visit (seen : Option ManagerDeployment) (d : Deployment) :
    Config.deployed defaults (s.visit settings conf seen d) = Config.deployed defaults d := by
  have hsame : (s.visit settings conf seen d).metadata = d.metadata ∧
      (s.visit settings conf seen d).status.reconciliation.lastReconciledSpec =
        d.status.reconciliation.lastReconciledSpec := by
    unfold visit
    split
    · have hready := s.sameCluster_visitReady settings conf (d.sighted seen)
      exact ⟨hready.metadata, hready.applied⟩
    · exact ⟨rfl, rfl⟩
  rw [Config.deployed, Config.deployed, hsame.1, ReconciliationStatus.lastReconciled, hsame.2]
  rfl

/-! ## Second steps -/

variable {s settings defaults conf}

theorem settled_settled (hbudget : BudgetFrom settings conf) (d : Deployment) :
    s.settled settings conf (s.settled settings conf d) = s.settled settings conf d := by
  rcases hlook : s.look settings conf d.status.job.jobIdValue d.status.job.savepoints with
    f | ⟨message, info⟩
  · have hsame : s.settled settings conf d = d := settled_of_error hlook
    rw [hsame, hsame]
  rw [settled_of_look hlook]
  have hjob : (d.looked message info).stableIfRunning.status.job =
      { d.status.job with savepoints := info } := Deployment.job_stableIfRunning _
  have hstable := (d.looked message info).stableIfRunning_stableIfRunning
  -- of the first look, it matters only that its job has these savepoints, and that it is marked
  generalize (d.looked message info).stableIfRunning = e at hjob hstable ⊢
  have hinfo : e.status.job.savepoints = info := congrArg (·.savepoints) hjob
  have hid : e.status.job.jobIdValue = d.status.job.jobIdValue := congrArg (·.jobIdValue) hjob
  rcases look_look hbudget hlook with ⟨f, hagain⟩ | hagain
  · rw [← hid, ← hinfo] at hagain
    exact settled_of_error hagain
  · rw [← hid, ← hinfo] at hagain
    rw [settled_of_look hagain]
    exact hstable

theorem application_application (hbudget : BudgetFrom settings conf) (d : Deployment) :
    s.application settings conf (s.application settings conf d) = s.application settings conf d := by
  rcases hreport : s.report conf d.status.job.jobId with f | _ | report
  · have hsame : s.application settings conf d = d := by rw [application, hreport]
    rw [hsame, hsame]
  · have hsame : s.application settings conf d = d := by rw [application, hreport]
    rw [hsame, hsame]
  have hfirst : s.application settings conf d = s.settled settings conf
      (Resource.withJob d (d.status.job.observed report s.time)) := by rw [application, hreport]
  obtain ⟨info, hjob⟩ := s.job_settled settings conf
    (Resource.withJob d (d.status.job.observed report s.time))
  rw [← hfirst] at hjob
  -- the job has the same id, and a second report on it says the same
  have hid : (s.application settings conf d).status.job.jobId = d.status.job.jobId := by
    rw [hjob]
    rfl
  have hobserved : (s.application settings conf d).status.job.observed report s.time =
      (s.application settings conf d).status.job := by
    rw [hjob]
    rfl
  have hkept : Resource.withJob (s.application settings conf d)
      (s.application settings conf d).status.job = s.application settings conf d :=
    LawfulResource.withJob_job _
  rw [application, hid, hreport]
  dsimp only
  rw [hobserved, hkept, hfirst]
  exact settled_settled hbudget _

theorem ready_ready (hbudget : BudgetFrom settings conf) (applied : DeploymentSpec) (d : Deployment) :
    s.ready settings conf applied (s.ready settings conf applied d) =
      s.ready settings conf applied d := by
  cases hjob : applied.job with
  | none =>
    simp only [ready, hjob]
    rfl
  | some job =>
    simp only [ready, hjob]
    split
    · rfl
    · exact application_application hbudget d

theorem visitReady_visitReady (hbudget : BudgetFrom settings conf) (d : Deployment) :
    s.visitReady settings conf (s.visitReady settings conf d) = s.visitReady settings conf d := by
  cases happlied : (d.status.reconciliation.lastReconciled : Outcome (Option DeploymentSpec)) with
  | error f =>
    have hsame : s.visitReady settings conf d = d := by rw [visitReady, happlied]
    rw [hsame, hsame]
  | ok applied =>
    cases applied with
    | none =>
      have hsame : s.visitReady settings conf d = d := by rw [visitReady, happlied]
      rw [hsame, hsame]
    | some applied =>
      have hfirst : s.visitReady settings conf d = s.ready settings conf applied d := by
        rw [visitReady, happlied]
      -- what was last applied is the same after the first time
      have hagain : ((s.visitReady settings conf d).status.reconciliation.lastReconciled :
          Outcome (Option DeploymentSpec)) = .ok (some applied) :=
        (congrArg Spec.deserialize? (s.sameCluster_visitReady settings conf d).applied).trans happlied
      rw [visitReady, hagain, hfirst]
      exact ready_ready hbudget applied d

/-! ## Passes -/

variable {seen : Option ManagerDeployment}

theorem visit_of_not_ready {d : Deployment} (h : d.status.manager.next seen ≠ .ready) :
    s.visit settings conf seen d = d.sighted seen :=
  if_neg h

/-- A second `visit` to a cluster whose JobManager was found ready changes nothing. -/
theorem visit_visit_of_ready (hbudget : BudgetFrom settings conf) {d : Deployment}
    (h : d.status.manager.next seen = .ready) :
    s.visit settings conf seen (s.visit settings conf seen d) = s.visit settings conf seen d := by
  have hfirst : s.visit settings conf seen d = s.visitReady settings conf (d.sighted seen) := if_pos h
  have hready : (s.visit settings conf seen d).status.manager = .ready := by
    rw [hfirst, (s.sameCluster_visitReady settings conf _).manager]
    exact h
  have hagain : (s.visit settings conf seen d).status.manager.next seen = .ready := by
    rw [hready]
    exact ManagerStatus.next_ready h
  rw [visit, if_pos hagain, Deployment.sighted_of_next (hagain.trans hready.symm), hfirst]
  exact visitReady_visitReady hbudget _

/-- After two `visit`s that find the same deployment of the JobManager, a third one changes
nothing. -/
theorem visit_visit_visit (hbudget : BudgetFrom settings conf) (d : Deployment) :
    s.visit settings conf seen (s.visit settings conf seen (s.visit settings conf seen d)) =
      s.visit settings conf seen (s.visit settings conf seen d) := by
  by_cases hfirst : d.status.manager.next seen = .ready
  · rw [visit_visit_of_ready hbudget hfirst, visit_visit_of_ready hbudget hfirst]
  rw [visit_of_not_ready hfirst]
  by_cases hsecond : (d.sighted seen).status.manager.next seen = .ready
  · exact visit_visit_of_ready hbudget hsecond
  · -- the JobManager stays in a state in which nothing else is looked at
    rw [visit_of_not_ready hsecond]
    have hthird : ((d.sighted seen).sighted seen).status.manager.next seen =
        ((d.sighted seen).sighted seen).status.manager :=
      ManagerStatus.next_next_next
    rw [visit_of_not_ready (by rw [hthird]; exact hsecond), Deployment.sighted_of_next hthird]

/-- After two passes, a third `pass` changes nothing. -/
theorem pass_pass_pass {d : Deployment}
    (hbudget : ∀ conf, ((Config.deployed defaults d).runOn { root := s.root }).1 = .ok (some conf) →
      BudgetFrom settings conf) :
    s.pass settings defaults (s.pass settings defaults (s.pass settings defaults d)) =
      s.pass settings defaults (s.pass settings defaults d) := by
  rcases hdeployed : ((Config.deployed defaults d).runOn { root := s.root }).1 with f | _ | conf
  · have hsame : s.pass settings defaults d = d := by rw [pass, hdeployed]
    rw [hsame, hsame, hsame]
  · have hsame : s.pass settings defaults d = d := by rw [pass, hdeployed]
    rw [hsame, hsame, hsame]
  cases hfound : s.found conf with
  | error f =>
    have hsame : s.pass settings defaults d = d := by
      rw [pass, hdeployed]
      dsimp only
      rw [hfound]
    rw [hsame, hsame, hsame]
  | ok seen =>
    -- all passes are made with one configuration, and find the same
    have hpass (e : Deployment) (he : Config.deployed defaults e = Config.deployed defaults d) :
        s.pass settings defaults e = s.visit settings conf seen e := by
      rw [pass, he, hdeployed]
      dsimp only
      rw [hfound]
    have hsecond := s.deployed_visit settings defaults conf seen d
    have hthird := s.deployed_visit settings defaults conf seen (s.visit settings conf seen d)
    rw [hpass d rfl, hpass _ hsecond, hpass _ (hthird.trans hsecond)]
    exact visit_visit_visit (hbudget conf hdeployed) d

end Snapshot

/-! ## Convergence -/

/-- A cluster and the world after some passes; a pass that fails counts with what it changed before. -/
def Operator.passes {σ : Type} (o : Operator σ) : Nat → Deployment × σ → Deployment × σ
  | 0, start => start
  | n + 1, start => (o.observeDeployment.runOn (o.passes n start)).2

theorem Snapshot.SeenBy.passes {σ : Type} {s : Snapshot} {o : Operator σ} {within : σ → Prop}
    (h : s.SeenBy o within) {w : σ} (hw : within w) (d : Deployment) (n : Nat) :
    (o.passes n (d, w)).1 = (s.pass o.settings o.defaults)^[n] d ∧ within (o.passes n (d, w)).2 := by
  induction n with
  | zero => exact ⟨rfl, hw⟩
  | succ n ih =>
    obtain ⟨hcluster, hwithin⟩ := ih
    obtain ⟨outcome, e, w', v', hrun, hrun', hw'⟩ := h.seesAlike.observeDeployment
      (o.passes n (d, w)).1 (o.passes n (d, w)).2 () hwithin
    have hpass := s.observeDeployment_runOn o.settings o.defaults (o.passes n (d, w)).1 ()
    rw [hrun'] at hpass
    rw [Operator.passes, hrun, Function.iterate_succ_apply', ← hcluster]
    exact ⟨hpass, hw'⟩

/-- `Operator.passes` over a cluster in a frozen world (`Snapshot.SeenBy`) leave the cluster as it is
from the second pass on, whatever the cluster was and whatever the world answers, as long as no budget
for savepoints is negative. -/
theorem observation_converges {σ : Type} {s : Snapshot} {o : Operator σ} {within : σ → Prop}
    (hseen : s.SeenBy o within) {d : Deployment} {w : σ} (hw : within w)
    (hbudget : ∀ conf v, (o.deployedConfig d).runOn w = (.ok (some conf), v) →
      Snapshot.BudgetFrom o.settings conf) {n : Nat} (hn : 2 ≤ n) :
    (o.passes n (d, w)).1 = (o.passes 2 (d, w)).1 := by
  have hrooted := (Config.deployed_rooted o.defaults d (o.files.get w) { root := s.root }
    (hseen.root w hw)).1
  have hthird : s.pass o.settings o.defaults ((s.pass o.settings o.defaults)^[2] d) =
      (s.pass o.settings o.defaults)^[2] d :=
    Snapshot.pass_pass_pass fun conf hconf =>
      hbudget conf _ (Prod.ext (hrooted.trans hconf) rfl)
  obtain ⟨k, rfl⟩ := Nat.exists_eq_add_of_le' hn
  rw [(hseen.passes hw d _).1, (hseen.passes hw d 2).1, Function.iterate_add_apply]
  exact Function.iterate_fixed hthird k

/-- An operator in a world that has nothing but the directory of generated files beside a snapshot. -/
def Snapshot.shelf (s : Snapshot) (settings : OperatorConfig) (defaults : Config) : Operator Files :=
  { (s.operator settings defaults).onPart ⟨fun _ => (), fun _ files => files⟩ with
    files := ⟨id, fun files _ => files⟩ }

/-- The `shelf` sees the snapshot whatever is in its directory. -/
theorem Snapshot.seenBy_shelf (s : Snapshot) (settings : OperatorConfig) (defaults : Config) :
    s.SeenBy (s.shelf settings defaults) fun files => files.root = s.root where
  space := rfl
  manager _ _ _ hw := ⟨rfl, hw⟩
  jobs _ _ hw := ⟨rfl, hw⟩
  savepoint _ _ _ _ hw := ⟨rfl, hw⟩
  now _ hw := ⟨rfl, hw⟩
  uptime _ hw := ⟨rfl, hw⟩
  root _ hw := hw
  files _ _ _ hroot := hroot

/-- A cluster that is up and runs a job, whose savepoint never gets there. -/
def pendingSnapshot : Snapshot where
  space := .text "default"
  root := "/tmp"
  manager _ _ := .ok { replicas := some 1, available := some 1 }
  jobs _ := .ok [⟨.text "A1 ", .text "basic", .text "RUNNING", .int 0⟩]
  savepoint _ _ _ := .ok .pending
  time := 1000
  uptime := .zero false

/-- Before anybody has looked at this cluster; nobody knows when its savepoint was asked for. -/
def pendingDeployment : Deployment :=
  { readyDeployment with status := { readyDeployment.status with
    manager := .missing
    job := { jobId := some "a1", savepoints := { triggerId := some (.text "t") } } } }

/-- What the operator does there. -/
def pendingOperator : Operator Files :=
  pendingSnapshot.shelf {} []

theorem pendingDeployment_converges :
    (pendingOperator.passes 1 (pendingDeployment, { root := "/tmp" })).1 ≠
        (pendingOperator.passes 2 (pendingDeployment, { root := "/tmp" })).1 ∧
      (pendingOperator.passes 7 (pendingDeployment, { root := "/tmp" })).1 =
        (pendingOperator.passes 2 (pendingDeployment, { root := "/tmp" })).1 := by
  have hbudget : ∀ conf v,
      (pendingOperator.deployedConfig pendingDeployment).runOn { root := "/tmp" } =
        (.ok (some conf), v) → Snapshot.BudgetFrom pendingOperator.settings conf := by
    have htenMinutes : ((pendingOperator.deployedConfig pendingDeployment).runOn
        { root := "/tmp" }).1.bind (fun conf => (conf.getD []).duration Config.savepointTimeoutKey
          pendingOperator.settings.savepointTimeout) = .ok ⟨600000000⟩ := by decide +kernel
    intro conf v hconf budget hduration
    rw [hconf] at htenMinutes
    obtain rfl := Except.ok.inj (hduration.symm.trans htenMinutes)
    decide
  exact ⟨by decide +kernel, observation_converges (pendingSnapshot.seenBy_shelf {} []) rfl hbudget
    (by decide)⟩

end FlinkSteward
