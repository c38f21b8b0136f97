import FlinkSteward.Proofs.Config.Rooted
import FlinkSteward.Proofs.Observe.Alike

/-!
# Passes over a world that stands still

When nothing happens outside, every question of a pass has its answer, which may be a failure. What the
pass makes of a cluster is then a function of the cluster: a world has no part in it, however much is
written to it on the way.

## Key results

- `Snapshot`: the answers of a world in which nothing happens
- `Snapshot.operator`: the operator for which they are the whole world
- `Snapshot.SeenBy.seesAlike`: every operator in such a world sees what that one sees
- `Snapshot.pass`: what a pass makes of a cluster, with `Snapshot.observeDeployment_runOn`
-/

namespace FlinkSteward

open Subject

/-- A world in which nothing happens: each question has its answer, be that a failure, and the clocks
stand still. -/
structure Snapshot where
  /-- The namespace of requests that name none. -/
  space : Value
  /-- The path of the directory of generated files. -/
  root : String
  /-- The deployment of a JobManager, by namespace and name. -/
  manager : Value → Value → Outcome ManagerDeployment
  /-- The jobs of a cluster, by its configuration. -/
  jobs : Config → Outcome (List JobReport)
  /-- What became of a savepoint, by the configuration of the cluster, the job and the request. -/
  savepoint : Config → Value → Value → Outcome SavepointPoll
  /-- The time. -/
  time : Int
  /-- What the clock shows that nobody sets. -/
  uptime : Double

/-- On the worlds `within`, which it does not leave, an action has the outcome `answer`. -/
def Action.Says {σ α : Type} (a : Action σ α) (within : σ → Prop) (answer : Outcome α) : Prop :=
  ∀ w, within w → (a.runOn w).1 = answer ∧ within (a.runOn w).2

/-- Every question of an operator `Says` what the snapshot has, on certain worlds. -/
structure Snapshot.SeenBy {σ : Type} (s : Snapshot) (o : Operator σ) (within : σ → Prop) : Prop where
  space : o.kubernetes.space = s.space
  manager : ∀ space name,
    (o.kubernetes.send (.readDeployment space name)).Says within (s.manager space name)
  jobs : ∀ conf, (o.listJobs conf).Says within (s.jobs conf)
  savepoint : ∀ conf job trigger,
    (o.pollSavepoint conf job trigger).Says within (s.savepoint conf job trigger)
  now : o.now.Says within (.ok s.time)
  uptime : o.uptime.Says within (.ok s.uptime)
  root : ∀ w, within w → (o.files.get w).root = s.root
  files : ∀ w files, within w → files.root = s.root → within (o.files.set files w)

namespace Snapshot

/-- The operator in a world that consists of a snapshot. It changes nothing. -/
def operator (s : Snapshot) (settings : OperatorConfig) (defaults : Config) : Operator Unit where
  settings := settings
  defaults := defaults
  kubernetes.space := s.space
  kubernetes.send
    | .readDeployment space name => .ofOutcome (s.manager space name)
    | _ => .fail (.api 503)
  connect conf := pure {
    listJobs := .ofOutcome (s.jobs conf)
    cancel _ := .fail (.api 503)
    stopWithSavepoint _ _ _ := .fail (.api 503)
    triggerSavepoint _ _ _ := .fail (.api 503)
    savepointStatus job trigger := .ofOutcome (s.savepoint conf job trigger)
    close := pure () }
  now := pure s.time
  uptime := pure s.uptime
  files := ⟨fun _ => { root := s.root }, fun _ _ => ()⟩

variable (s : Snapshot) (settings : OperatorConfig) (defaults conf : Config)

/-! ## Questions -/

theorem listJobs_runOn (w : Unit) :
    ((s.operator settings defaults).listJobs conf).runOn w = (s.jobs conf, w) := by
  simp only [Operator.listJobs, Client.use, operator, pure_bind, Action.always, Action.runOn_ofRun,
    Action.runOn_ofOutcome, Action.runOn_pure]

theorem pollSavepoint_runOn (job trigger : Value) (w : Unit) :
    ((s.operator settings defaults).pollSavepoint conf job trigger).runOn w =
      (s.savepoint conf job trigger, w) := by
  simp only [Operator.pollSavepoint, Client.use, operator, pure_bind, Action.always,
    Action.runOn_ofRun, Action.runOn_ofOutcome, Action.runOn_pure]

/-- The namespace that a request goes to. -/
def spaceOf (space : Value) : Value :=
  if space.isTruthy then space else s.space

/-- What a look at the JobManager of a cluster finds. -/
def found : Outcome (Option ManagerDeployment) :=
  match s.manager (s.spaceOf (conf.value Config.namespaceKey)) (conf.value Config.clusterIdKey) with
  | .ok m => .ok (some m)
  | .error f => if Kubernetes.isMissing f then .ok none else .error f

theorem readManager_runOn (w : Unit) :
    ((s.operator settings defaults).readManager conf).runOn w = (s.found conf, w) := by
  simp only [Operator.readManager, Kubernetes.readDeployment, Kubernetes.orMissing,
    Action.runOn_ofRun, operator, Kubernetes.spaceOf, Action.runOn_ofOutcome, found, spaceOf]
  rcases s.manager _ _ with f | m <;> rfl

/-! ## Worlds that show a snapshot -/

variable {s} {σ α : Type} {o : Operator σ} {within : σ → Prop}

/-- An action that `Says` what another one says without a world is `Alike`. -/
theorem alike_says {a : Action σ α} {b : Action Unit α} {answer : Outcome α}
    (ha : a.Says within answer) (hb : b.runOn () = (answer, ())) :
    Alike (fun _ w _ => within w) (outside a) (outside b) := by
  intro d w v hw
  obtain ⟨hanswer, hwithin⟩ := ha w hw
  exact ⟨answer, d, (a.runOn w).2, (), by rw [runOn_outside, hanswer], by rw [runOn_outside, hb],
    hwithin⟩

theorem SeenBy.spaceOf (h : s.SeenBy o within) (space : Value) :
    o.kubernetes.spaceOf space = s.spaceOf space := by
  rw [Kubernetes.spaceOf, h.space, Snapshot.spaceOf]

theorem SeenBy.readManager (h : s.SeenBy o within) :
    (o.readManager conf).Says within (s.found conf) := by
  intro w hw
  obtain ⟨hanswer, hwithin⟩ := h.manager (s.spaceOf (conf.value Config.namespaceKey))
    (conf.value Config.clusterIdKey) w hw
  rw [Operator.readManager, Kubernetes.readDeployment, h.spaceOf, Kubernetes.orMissing,
    Action.runOn_ofRun, found, ← hanswer]
  rcases hrun : (o.kubernetes.send _).runOn w with ⟨_ | m, v⟩ <;> rw [hrun] at hwithin <;>
    exact ⟨rfl, hwithin⟩

/-- A snapshot that is `SeenBy` an operator shows it what the snapshot's own operator sees. -/
theorem SeenBy.seesAlike (h : s.SeenBy o within) :
    o.SeesAlike (fun _ w _ => within w) (s.operator o.settings o.defaults) where
  byManager _ _ _ _ hw _ := hw
  settings := rfl
  deployed d := by
    -- of the files, a configuration depends on the directory alone
    have hsays : (o.deployedConfig d).Says within
        ((Config.deployed o.defaults d).runOn { root := s.root }).1 := by
      intro w hw
      have hrooted := Config.deployed_rooted o.defaults d (o.files.get w) { root := s.root } (h.root w hw)
      exact ⟨hrooted.1, h.files w _ hw (hrooted.2.trans (h.root w hw))⟩
    exact alike_says hsays rfl
  manager conf := by
    intro d w v hw
    obtain ⟨hanswer, hwithin⟩ := h.readManager conf w hw
    rw [Operator.observeManager_runOn, Operator.observeManager_runOn, readManager_runOn]
    rcases hrun : (o.readManager conf).runOn w with ⟨r, u⟩
    rw [hrun] at hanswer hwithin
    subst hanswer
    rcases s.found conf with f | seen
    · exact ⟨.error f, d, u, (), rfl, rfl, hwithin⟩
    · exact ⟨.ok (), _, u, (), rfl, rfl, hwithin⟩
  jobs conf := alike_says (h.jobs conf) (s.listJobs_runOn _ _ conf ())
  savepoint conf job trigger :=
    alike_says (h.savepoint conf job trigger) (s.pollSavepoint_runOn _ _ conf job trigger ())
  now := alike_says h.now rfl
  uptime := alike_says h.uptime rfl

end Snapshot

/-! ## Clusters -/

namespace Deployment

/-- A cluster after a look at the deployment of its JobManager. -/
def sighted (d : Deployment) (seen : Option ManagerDeployment) : Deployment :=
  { d with status := { d.status with manager := d.status.manager.next seen } }

theorem sighted_of_next {d : Deployment} {seen : Option ManagerDeployment}
    (h : d.status.manager.next seen = d.status.manager) : d.sighted seen = d := by
  rw [sighted, h]

/-- A cluster with other savepoints. -/
def withSavepoints (d : Deployment) (info : SavepointInfo) : Deployment :=
  Resource.withJob d { d.status.job with savepoints := info }

/-- A cluster after a look at its savepoints, which may have told something. -/
def looked (d : Deployment) (message : Option String) (info : SavepointInfo) : Deployment :=
  Resource.withError (d.withSavepoints info) (message.or d.status.error)

/-- A cluster whose job, if it runs, shows that what was last applied is stable. -/
def stableIfRunning (d : Deployment) : Deployment :=
  if d.status.job.state = some (.text "RUNNING") then
    Resource.withReconciliation d d.status.reconciliation.markStable
  else d

end Deployment

/-- A `ready` JobManager stays so when the same deployment is found again. -/
theorem ManagerStatus.next_ready {m : ManagerStatus} {seen : Option ManagerDeployment}
    (h : m.next seen = .ready) : next .ready seen = .ready := by
  unfold next at h ⊢
  split at h
  · exact nomatch h
  · split at h
    · exact nomatch h
    · rename_i hup
      simp [hup]

namespace Snapshot

variable (s : Snapshot) (settings : OperatorConfig) (defaults conf : Config)

/-! ## Savepoints -/

/-- What a look at a pending savepoint says that is not there yet, and what it makes of it. -/
def lookPending (job : Value) (info : SavepointInfo) : Outcome (Option String × SavepointInfo) :=
  match info.triggerTimestamp with
  | none => .ok (none, { info with triggerTimestamp := some (.int s.time) })
  | some since => do
    let budget ← conf.duration Config.savepointTimeoutKey settings.savepointTimeout
    if ← isOverdue budget (.int s.time) since then
      return (some (savepointTimedOut (Value.ofOption info.triggerId) job budget), info.clear)
    else return (none, info)

/-- What a look at savepoints says, and what it makes of them. -/
def look (job : Value) (info : SavepointInfo) : Outcome (Option String × SavepointInfo) :=
  if info.isPending = false then .ok (none, info)
  else do
    match ← s.savepoint conf job (Value.ofOption info.triggerId) with
    | .failed cause => return (some (savepointFailed cause), info.clear)
    | .pending => s.lookPending settings conf job info
    | .completed place =>
      return (none, info.complete {
        timeStamp := .int s.time
        location := place.nonNull?
        trigger := info.triggerType.getD .unknown } (some settings.historyLimit))

theorem observePending_runOn (job : Value) (d : Deployment) (w : Unit) :
    ((s.operator settings defaults).observePending d.status.job.savepoints
        (Value.ofOption d.status.job.savepoints.triggerId) job conf).runOn (d, w) =
      match s.lookPending settings conf job d.status.job.savepoints with
      | .ok (message, info) => (.ok message, d.withSavepoints info, w)
      | .error f => (.error f, d, w) := by
  unfold Operator.observePending lookPending
  cases d.status.job.savepoints.triggerTimestamp with
  | none => rfl
  | some since =>
    simp only [operator, Action.runOn_bind, Action.runOn_ofOutcome]
    rcases conf.duration Config.savepointTimeoutKey settings.savepointTimeout with f | budget
    · rfl
    simp only [runOn_outside, Action.runOn_pure, bind, Except.bind]
    rcases isOverdue budget (.int s.time) since with f | overdue
    · rfl
    · cases overdue <;> rfl

theorem observeSavepoint_runOn (job : Value) (d : Deployment) (w : Unit) :
    ((s.operator settings defaults).observeSavepoint job conf).runOn (d, w) =
      match s.look settings conf job d.status.job.savepoints with
      | .ok (message, info) => (.ok message, d.withSavepoints info, w)
      | .error f => (.error f, d, w) := by
  rw [Operator.observeSavepoint, Action.runOn_bind, runOn_job]
  unfold look
  dsimp only [Resource.job]
  split
  · rfl
  · rw [Action.runOn_bind, runOn_outside, pollSavepoint_runOn]
    rcases s.savepoint conf job (Value.ofOption d.status.job.savepoints.triggerId) with f | poll
    · rfl
    cases poll with
    | failed cause => rfl
    | pending => exact s.observePending_runOn settings defaults conf job d w
    | completed place => rfl

theorem settleSavepoint_runOn (d : Deployment) (w : Unit) :
    ((s.operator settings defaults).settleSavepoint conf).runOn (d, w) =
      match s.look settings conf d.status.job.jobIdValue d.status.job.savepoints with
      | .ok (message, info) => (.ok (), d.looked message info, w)
      | .error f => (.error f, d, w) := by
  rw [Operator.settleSavepoint, Action.runOn_bind, runOn_job]
  dsimp only [Resource.job]
  rw [Action.runOn_bind, observeSavepoint_runOn]
  rcases s.look settings conf d.status.job.jobIdValue d.status.job.savepoints with
    f | ⟨_ | message, info⟩ <;> rfl

/-! ## Jobs -/

/-- The report of the cluster on a tracked job, if there is one. -/
def report (id : Option String) : Outcome (Option JobReport) :=
  match id with
  | none => .ok none
  | some id => if id = "" then .ok none else do matchingJob id (← s.jobs conf)

theorem takeReport_runOn (id : String) (jobs : List JobReport) (d : Deployment) (w : Unit) :
    ((s.operator settings defaults).takeReport id jobs).runOn (d, w) =
      match matchingJob id jobs with
      | .ok (some report) =>
        (.ok true, Resource.withJob d (d.status.job.observed report s.time), w)
      | .ok none => (.ok false, d, w)
      | .error f => (.error f, d, w) := by
  rw [Operator.takeReport, Action.runOn_bind, Action.runOn_ofOutcome]
  rcases matchingJob id jobs with f | _ | report <;> rfl

/-- `observeJob` of a cluster whose JobManager is not moved by another look. It does not matter then
whether the listing of the jobs takes too long. -/
theorem observeJob_runOn {d : Deployment} {w : Unit} (budget : Option Duration)
    (hlook : ((s.operator settings defaults).observeManager conf).runOn (d, w) = (.ok (), d, w)) :
    ((s.operator settings defaults).observeJob conf budget
        ((s.operator settings defaults).observeManager conf)).runOn (d, w) =
      match s.report conf d.status.job.jobId with
      | .ok (some report) =>
        (.ok true, Resource.withJob d (d.status.job.observed report s.time), w)
      | .ok none => (.ok false, d, w)
      | .error f => (.error f, d, w) := by
  unfold report
  cases hid : d.status.job.jobId with
  | none =>
    rw [Operator.observeJob, Action.runOn_bind, runOn_job]
    dsimp only [Resource.job]
    rw [hid]
    rfl
  | some id =>
    dsimp only
    by_cases hempty : id = ""
    · rw [Operator.observeJob, Action.runOn_bind, runOn_job]
      simp only [Resource.job, hid, if_pos hempty]
      rfl
    · have hup : (s.operator settings defaults).uptime.runOn w = (.ok s.uptime, w) := rfl
      rw [if_neg hempty, Operator.observeJob_runOn_tracked (r := d) hid hempty, hup]
      dsimp only
      rw [listJobs_runOn]
      cases s.jobs conf with
      | error f =>
        dsimp only
        rw [Action.runOn_bind, hlook]
        split <;> rfl
      | ok jobs =>
        dsimp only
        rw [hup]
        refine Eq.trans ?_ (s.takeReport_runOn settings defaults id jobs d w)
        -- late or not, the report is taken from the same cluster
        dsimp only
        rw [Action.runOn_bind, hlook]
        split <;> rfl

/-! ## Passes -/

/-- A cluster after a look at the savepoints of its job. -/
def settled (d : Deployment) : Deployment :=
  match s.look settings conf d.status.job.jobIdValue d.status.job.savepoints with
  | .ok (message, info) => (d.looked message info).stableIfRunning
  | .error _ => d

/-- A cluster after a look at its job. -/
def application (d : Deployment) : Deployment :=
  match s.report conf d.status.job.jobId with
  | .ok (some report) =>
    s.settled settings conf (Resource.withJob d (d.status.job.observed report s.time))
  | _ => d

/-- A cluster after what is looked at once its JobManager is ready. -/
def ready (applied : DeploymentSpec) (d : Deployment) : Deployment :=
  match applied.job with
  | none => Resource.withReconciliation d d.status.reconciliation.markStable
  | some job => if job.state = some .suspended then d else s.application settings conf d

/-- The same for what was last applied to the cluster. -/
def visitReady (d : Deployment) : Deployment :=
  match (d.status.reconciliation.lastReconciled : Outcome (Option DeploymentSpec)) with
  | .ok (some applied) => s.ready settings conf applied d
  | _ => d

/-- A cluster after a pass that finds a certain deployment of the JobManager. -/
def visit (seen : Option ManagerDeployment) (d : Deployment) : Deployment :=
  if d.status.manager.next seen = .ready then s.visitReady settings conf (d.sighted seen)
  else d.sighted seen

/-- A cluster after a pass. -/
def pass (d : Deployment) : Deployment :=
  match ((Config.deployed defaults d).runOn { root := s.root }).1 with
  | .ok (some conf) =>
    match s.found conf with
    | .ok seen => s.visit settings conf seen d
    | .error _ => d
  | _ => d

theorem observeManager_runOn_of_found {seen : Option ManagerDeployment} (h : s.found conf = .ok seen)
    (d : Deployment) (w : Unit) :
    ((s.operator settings defaults).observeManager conf).runOn (d, w) =
      (.ok (), d.sighted seen, w) := by
  rw [Operator.observeManager_runOn, readManager_runOn, h]
  rfl

theorem markIfRunning_runOn (d : Deployment) (w : Unit) :
    (do if (← job).state = some (.text "RUNNING") then Operator.markStable :
      Action (Deployment × Unit) Unit).runOn (d, w) = (.ok (), d.stableIfRunning, w) := by
  rw [Action.runOn_bind, runOn_job]
  unfold Deployment.stableIfRunning
  dsimp only [Resource.job]
  split <;> rfl

theorem observeApplication_runOn {d : Deployment} {w : Unit}
    (hlook : ((s.operator settings defaults).observeManager conf).runOn (d, w) = (.ok (), d, w)) :
    (((s.operator settings defaults).observeApplication conf).runOn (d, w)).2.1 =
      s.application settings conf d := by
  rw [Operator.observeApplication, Action.runOn_bind, observeJob_runOn s settings defaults conf _ hlook]
  unfold application
  rcases s.report conf d.status.job.jobId with f | _ | report
  · rfl
  · rfl
  · dsimp only
    rw [if_pos rfl, Action.runOn_bind, settleSavepoint_runOn, settled]
    dsimp only [Resource.withJob]
    rcases s.look settings conf _ _ with f | ⟨message, info⟩
    · rfl
    · exact congrArg (·.2.1) (markIfRunning_runOn ..)

theorem observeReady_runOn {d : Deployment} {w : Unit} (applied : DeploymentSpec)
    (hlook : ((s.operator settings defaults).observeManager conf).runOn (d, w) = (.ok (), d, w)) :
    (((s.operator settings defaults).observeReady conf applied).runOn (d, w)).2.1 =
      s.ready settings conf applied d := by
  unfold Operator.observeReady ready
  cases applied.job with
  | none => rfl
  | some job =>
    dsimp only
    split
    · rfl
    · exact s.observeApplication_runOn settings defaults conf hlook

theorem observeDeployment_runOn (d : Deployment) (w : Unit) :
    ((s.operator settings defaults).observeDeployment.runOn (d, w)).2.1 =
      s.pass settings defaults d := by
  have hdeployed : (outside ((s.operator settings defaults).deployedConfig d)).runOn (d, w) =
      (((Config.deployed defaults d).runOn { root := s.root }).1, d, ()) := rfl
  rw [Operator.observeDeployment, Action.runOn_bind, runOn_get]
  dsimp only
  rw [Action.runOn_bind, hdeployed]
  unfold pass
  rcases ((Config.deployed defaults d).runOn { root := s.root }).1 with f | _ | conf
  · rfl
  · rfl
  dsimp only
  rw [Action.runOn_bind]
  cases hfound : s.found conf with
  | error f =>
    rw [Operator.observeManager_runOn, readManager_runOn, hfound]
  | ok seen =>
    have hlook := s.observeManager_runOn_of_found settings defaults conf hfound
    rw [hlook]
    dsimp only
    rw [Action.runOn_bind, runOn_get]
    unfold visit visitReady
    dsimp only [Deployment.sighted]
    split
    · rename_i hready
      rw [Action.runOn_bind, Action.runOn_ofOutcome]
      rcases (d.status.reconciliation.lastReconciled : Outcome (Option DeploymentSpec)) with
        f | _ | applied
      · rfl
      · rfl
      · -- a ready JobManager stays ready when the same deployment is found again
        have hagain : (d.sighted seen).sighted seen = d.sighted seen := by
          refine Deployment.sighted_of_next ?_
          rw [show (d.sighted seen).status.manager = .ready from hready]
          exact ManagerStatus.next_ready hready
        exact s.observeReady_runOn settings defaults conf (d := d.sighted seen) applied
          (by rw [hlook, hagain])
    · rfl

end Snapshot

end FlinkSteward
