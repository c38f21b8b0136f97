import FlinkSteward.Proofs.Action
import FlinkSteward.Proofs.Subject
import FlinkSteward.Simulation.Script

/-!
# What a pass marks as stable

A pass over a cluster marks what was last applied as stable, once the JobManager was ready when the
pass began and the pass found the job running. The JobManager may have left the ready state by then:
a listing that takes too long has it looked at again, and the pass goes on whatever that shows.

## Key results

- `Operator.observeJob_runOn_tracked`: a look at a tracked job from its parts
- `Operator.observeManager_eq_ok`, `Operator.observeJob_found`: what looks have seen
- `Operator.observeApplication_marks`: what a pass over a running job has seen
- `stable_of_observeDeployment`: what is known when a pass marks something as stable
-/

namespace FlinkSteward

open Simulation

theorem Value.eq_of_nonNull?_eq_some {u v : Value} (h : v.nonNull? = some u) : v = u := by
  by_cases hv : v = .null
  · rw [hv] at h
    exact nomatch h
  · rw [nonNull?_of_ne hv] at h
    exact Option.some.inj h

/-- `matchingJob` finds the single job of an id in a listing. -/
theorem matchingJob_eq_some {id : String} {jobs : List JobReport} {report : JobReport} :
    matchingJob id jobs = .ok (some report) ↔
      (jobs.filter fun j => normalizedId j.id.shown = normalizedId id) = [report] := by
  unfold matchingJob
  split
  · rename_i hnone
    simp [hnone]
  · rename_i j hj
    simp [hj]
  · rename_i hnone hone
    simp only [reduceCtorEq, false_iff]
    exact fun h => hone report h

/-- A pass keeps the JobManager, the job and what was last applied while it is `Settling`
savepoints. -/
private theorem Settling.steady (limit : Int) (d : Deployment) :
    Settling limit fun e : Deployment => e.status.manager = d.status.manager ∧
      e.status.job.state = d.status.job.state ∧
      e.status.reconciliation = d.status.reconciliation :=
  ⟨fun _ _ h _ => h, fun _ _ h => h⟩

namespace Operator

variable {ρ σ : Type} {o : Operator σ} {conf : Config}

/-! ## Looks -/

/-- Asks for the deployment of the JobManager. -/
def readManager (o : Operator σ) (conf : Config) : Action σ (Option ManagerDeployment) :=
  o.kubernetes.readDeployment (conf.value Config.clusterIdKey) (conf.value Config.namespaceKey)

/-- `observeManager` leaves the cluster alone if Kubernetes does not answer. -/
theorem observeManager_runOn (o : Operator σ) (conf : Config) (d : Deployment) (w : σ) :
    (o.observeManager conf).runOn (d, w) =
      match (o.readManager conf).runOn w with
      | (.ok found, v) =>
        (.ok (), { d with status := { d.status with manager := d.status.manager.next found } }, v)
      | (.error f, v) => (.error f, d, v) := by
  unfold observeManager readManager
  rw [Action.runOn_bind, Subject.runOn_outside]
  rcases (o.kubernetes.readDeployment _ _).runOn w with ⟨_ | found, v⟩ <;> rfl

theorem observeManager_eq_ok {d e : Deployment} {w v : σ} :
    (o.observeManager conf).runOn (d, w) = (.ok (), e, v) ↔
      ∃ found, (o.readManager conf).runOn w = (.ok found, v) ∧
        e = { d with status := { d.status with manager := d.status.manager.next found } } := by
  simp only [observeManager, Action.runOn_bind_eq_ok, Prod.exists, Subject.runOn_outside_eq_ok,
    Subject.runOn_modify]
  constructor
  · rintro ⟨found, _, _, ⟨hread, rfl⟩, ⟨⟩⟩
    exact ⟨found, hread, rfl⟩
  · rintro ⟨found, hread, rfl⟩
    exact ⟨found, d, v, ⟨hread, rfl⟩, rfl⟩

/-- The jobs of a cluster are listed by `Operator.listJobs`, which takes `elapsed` seconds. -/
def Lists (o : Operator σ) (conf : Config) (w : σ) (jobs : List JobReport) (elapsed : Double) (v : σ) :
    Prop :=
  ∃ start stop u u', o.uptime.runOn w = (.ok start, u) ∧
    (o.listJobs conf).runOn u = (.ok jobs, u') ∧ o.uptime.runOn u' = (.ok stop, v) ∧
    elapsed = stop.sub start

/-- Takes the report of the tracked job from a listing, if it has one. -/
def takeReport [Resource ρ] (o : Operator σ) (id : String) (jobs : List JobReport) :
    Action (ρ × σ) Bool := do
  match ← .ofOutcome (matchingJob id jobs) with
  | none => return false
  | some report =>
    let now ← Subject.outside o.now
    Subject.modifyJob fun s => s.observed report now
    return true

/-- A measure comes before certain failures of a step outside of the resource. -/
theorem runOn_outside_beforeFailing {α : Type} (a : Action σ α) (applies : Failure → Bool)
    (measure : Action (ρ × σ) Unit) (r : ρ) (w : σ) :
    ((Subject.outside a).beforeFailing applies measure).runOn (r, w) =
      match a.runOn w with
      | (.error f, v) =>
        if applies f then (measure >>= fun _ => .fail f).runOn (r, v) else (.error f, r, v)
      | (.ok x, v) => (.ok x, r, v) := by
  rw [Action.beforeFailing, Action.runOn_ofRun, Subject.runOn_outside]
  rcases a.runOn w with ⟨f | x, v⟩
  · cases happlies : applies f with
    | true =>
      simp only [happlies, if_true, Action.runOn_bind]
      rcases measure.runOn (r, v) with ⟨_ | _, s⟩ <;> rfl
    | false => simp only [happlies, Bool.false_eq_true, if_false]
  · rfl

/-- `observeJob` for a tracked job, from its parts. -/
theorem observeJob_runOn_tracked [Resource ρ] {r : ρ} {w : σ} {id : String}
    (hid : (Resource.job r).jobId = some id) (hne : id ≠ "") (budget : Option Duration)
    (measure : Action (ρ × σ) Unit) :
    (o.observeJob conf budget measure).runOn (r, w) =
      match o.uptime.runOn w with
      | (.error f, v) => (.error f, r, v)
      | (.ok start, v) =>
        match (o.listJobs conf).runOn v with
        | (.error f, u) =>
          if isTimeout f then (measure >>= fun _ => .fail f).runOn (r, u) else (.error f, r, u)
        | (.ok jobs, u) =>
          match o.uptime.runOn u with
          | (.error f, x) => (.error f, r, x)
          | (.ok stop, x) =>
            if isOverBudget budget (stop.sub start) then
              (measure >>= fun _ => o.takeReport id jobs).runOn (r, x)
            else (o.takeReport id jobs).runOn (r, x) := by
  rw [observeJob, Action.runOn_bind, Subject.runOn_job]
  simp only [hid, if_neg hne]
  rw [Action.runOn_bind, Subject.runOn_outside]
  rcases o.uptime.runOn w with ⟨_ | start, v⟩
  · rfl
  dsimp only
  rw [Action.runOn_bind, runOn_outside_beforeFailing]
  -- a listing that is too late fails after the measure, any other failure at once
  rcases (o.listJobs conf).runOn v with ⟨f | jobs, u⟩
  · cases htimeout : isTimeout f with
    | true =>
      simp only [htimeout, if_true, Action.runOn_bind]
      rcases measure.runOn (r, u) with ⟨_ | _, s⟩ <;> rfl
    | false => simp only [htimeout, Bool.false_eq_true, if_false]
  dsimp only
  rw [Action.runOn_bind, Subject.runOn_outside]
  rcases o.uptime.runOn u with ⟨_ | stop, x⟩
  · rfl
  dsimp only
  cases isOverBudget budget (stop.sub start) <;> rfl

theorem takeReport_found [Resource ρ] {id : String} {jobs : List JobReport} {r s : ρ} {w v : σ}
    (h : (o.takeReport id jobs).runOn (r, w) = (.ok true, s, v)) :
    ∃ report now, matchingJob id jobs = .ok (some report) ∧
      s = Resource.withJob r ((Resource.job r).observed report now) := by
  obtain ⟨found, _, hsearch, hrest⟩ := Action.runOn_bind_eq_ok.1 h
  obtain ⟨hfound, rfl⟩ := Action.runOn_ofOutcome_eq_ok.1 hsearch
  cases found with
  | none => simp at hrest
  | some report =>
    obtain ⟨now, ⟨t, u⟩, hnow, hlast⟩ := Action.runOn_bind_eq_ok.1 hrest
    obtain ⟨-, rfl⟩ := Subject.runOn_outside_eq_ok.1 hnow
    obtain ⟨_, _, hmodified, hdone⟩ := Action.runOn_bind_eq_ok.1 hlast
    obtain rfl := (Prod.mk.inj hmodified).2
    exact ⟨report, now, hfound, (Subject.eq_of_runOn_pure hdone).symm⟩

/-- A job that `observeJob` has found is the only one of the tracked id in a listing, after which a
listing that took too long was dealt with. -/
theorem observeJob_found [Resource ρ] {budget : Option Duration} {onTimeout : Action (ρ × σ) Unit}
    {r s : ρ} {w v : σ}
    (h : (o.observeJob conf budget onTimeout).runOn (r, w) = (.ok true, s, v)) :
    ∃ id jobs elapsed report now t u u', (Resource.job r).jobId = some id ∧
      o.Lists conf w jobs elapsed u ∧ matchingJob id jobs = .ok (some report) ∧
      (if isOverBudget budget elapsed then onTimeout.runOn (r, u) = (.ok (), t, u') else t = r) ∧
      s = Resource.withJob t ((Resource.job t).observed report now) := by
  -- without a tracked job nothing is found
  obtain ⟨job, _, hjob, hrest⟩ := Action.runOn_bind_eq_ok.1 h
  obtain ⟨⟨⟩, rfl⟩ := Prod.mk.inj hjob
  split at hrest
  · simp at hrest
  rename_i id hid
  split at hrest
  · simp at hrest
  obtain ⟨start, ⟨t, u₁⟩, hbegin, hrest⟩ := Action.runOn_bind_eq_ok.1 hrest
  obtain ⟨hstart, rfl⟩ := Subject.runOn_outside_eq_ok.1 hbegin
  obtain ⟨jobs, ⟨t, u₂⟩, hasked, hrest⟩ := Action.runOn_bind_eq_ok.1 hrest
  obtain ⟨hlisted, rfl⟩ :=
    Subject.runOn_outside_eq_ok.1 (Action.runOn_beforeFailing_eq_ok.1 hasked)
  obtain ⟨stop, ⟨t, u₃⟩, hend, hrest⟩ := Action.runOn_bind_eq_ok.1 hrest
  obtain ⟨hstop, rfl⟩ := Subject.runOn_outside_eq_ok.1 hend
  have hlists : o.Lists conf w jobs (stop.sub start) u₃ :=
    ⟨start, stop, u₁, u₂, hstart, hlisted, hstop, rfl⟩
  -- a listing that took too long is dealt with before its report is taken
  dsimp only at hrest
  split at hrest
  · rename_i hover
    obtain ⟨⟨⟩, ⟨t, u₄⟩, htimeout, hrest⟩ := Action.runOn_bind_eq_ok.1 hrest
    obtain ⟨report, now, hmatch, rfl⟩ := takeReport_found hrest
    exact ⟨id, jobs, _, report, now, t, u₃, u₄, hid, hlists, hmatch, by rwa [if_pos hover], rfl⟩
  · rename_i hwithin
    obtain ⟨report, now, hmatch, rfl⟩ := takeReport_found hrest
    exact ⟨id, jobs, _, report, now, _, u₃, u₃, hid, hlists, hmatch, by rw [if_neg hwithin], rfl⟩

/-! ## Passes -/

theorem eq_of_runOn_markStable {d e : Deployment} {w v : σ} {outcome : Outcome Unit}
    (h : markStable.runOn (d, w) = (outcome, e, v)) :
    Resource.withReconciliation d d.status.reconciliation.markStable = e :=
  (Prod.mk.inj (Prod.mk.inj h).2).1

/-- From a world on, the job of an id is found running, in a cluster whose JobManager was ready. It
still is afterwards, unless the listing took too long and another look says otherwise. -/
def SeesRunning (o : Operator σ) (conf : Config) (id : String) (w : σ) (manager : ManagerStatus) :
    Prop :=
  ∃ jobs elapsed report v, o.Lists conf w jobs elapsed v ∧
    (jobs.filter fun j => normalizedId j.id.shown = normalizedId id) = [report] ∧
    report.state = .text "RUNNING" ∧
    if isOverBudget (some o.settings.clientTimeout) elapsed then
      ∃ again v', (o.readManager conf).runOn v = (.ok again, v') ∧
        manager = ManagerStatus.ready.next again
    else manager = .ready

variable {d e : Deployment} {w w' : σ} {outcome : Outcome Unit}

/-- `observeApplication` changes the record of what was applied only after it found the job
running. -/
theorem observeApplication_marks (hready : d.status.manager = .ready)
    (h : (o.observeApplication conf).runOn (d, w) = (outcome, e, w'))
    (hchanged : e.status.reconciliation ≠ d.status.reconciliation) :
    e.status.reconciliation = d.status.reconciliation.markStable ∧
      ∃ id, d.status.job.jobId = some id ∧ o.SeesRunning conf id w e.status.manager := by
  have hlook : Subject.Keeps
      (fun e : Deployment => e.status.reconciliation = d.status.reconciliation)
      (o.observeJob conf (some o.settings.clientTimeout) (o.observeManager conf))
      fun _ => True :=
    keeps_observeJob (fun _ _ _ h => h) (keeps_observeManager fun _ _ h => h)
  obtain ⟨found, s, v, hjob, hsame, -, hrest⟩ := hlook.broken_after h rfl hchanged
  cases found with
  | false =>
    obtain rfl := Subject.eq_of_runOn_pure hrest
    exact absurd hsame hchanged
  | true =>
    -- what was seen of the JobManager and the job outlasts the look at the savepoints
    obtain ⟨_, t, u, hsettled, ⟨hmanager, hstate, hkept⟩, -, hmark⟩ :=
      (keeps_settleSavepoint (Settling.steady _ s)).broken_after hrest ⟨rfl, rfl, rfl⟩
        fun hsteady => hchanged (hsteady.2.2.trans hsame)
    rw [Action.runOn_bind, Subject.runOn_job] at hmark
    dsimp only at hmark
    split at hmark
    · rename_i hrunning
      obtain rfl := eq_of_runOn_markStable hmark
      refine ⟨congrArg ReconciliationStatus.markStable (hkept.trans hsame), ?_⟩
      obtain ⟨id, jobs, elapsed, report, now, r, x, x', hid, hlists, hmatch, hover, rfl⟩ :=
        observeJob_found hjob
      refine ⟨id, hid, jobs, elapsed, report, x, hlists, matchingJob_eq_some.1 hmatch, ?_, ?_⟩
      · exact Value.eq_of_nonNull?_eq_some (hstate.symm.trans hrunning)
      · split at hover
        · rename_i hlate
          obtain ⟨again, hread, rfl⟩ := observeManager_eq_ok.1 hover
          rw [if_pos hlate]
          exact ⟨again, x', hread, hmanager.trans (congrArg (·.next again) hready)⟩
        · rename_i hearly
          subst hover
          rw [if_neg hearly]
          exact hmanager.trans hready
    · obtain rfl := Subject.eq_of_runOn_pure hmark
      exact absurd (hkept.trans hsame) hchanged

/-- `observeReady` marks something as stable only without a job, or after it found the job running
that was not to be suspended. -/
theorem observeReady_marks {applied : DeploymentSpec} (hready : d.status.manager = .ready)
    (h : (o.observeReady conf applied).runOn (d, w) = (outcome, e, w'))
    (hchanged : e.status.reconciliation ≠ d.status.reconciliation) :
    e.status.reconciliation = d.status.reconciliation.markStable ∧
      ((applied.job = none ∧ e.status.manager = .ready) ∨
        ∃ job id, applied.job = some job ∧ job.state ≠ some .suspended ∧
          d.status.job.jobId = some id ∧ o.SeesRunning conf id w e.status.manager) := by
  unfold observeReady at h
  split at h
  · rename_i hnone
    obtain rfl := eq_of_runOn_markStable h
    exact ⟨rfl, .inl ⟨hnone, hready⟩⟩
  · rename_i job hjob
    split at h
    · obtain rfl := Subject.eq_of_runOn_pure h
      exact absurd rfl hchanged
    · rename_i hactive
      obtain ⟨hmarked, id, hid, hsees⟩ := observeApplication_marks hready h hchanged
      exact ⟨hmarked, .inr ⟨job, id, hjob, hactive, hid, hsees⟩⟩

end Operator

/-- When `Operator.observeDeployment` changes `lastStableSpec`, it is set to `lastReconciledSpec`. The
JobManager was ready when the pass began. Either what was last applied has no job, or its job is not
suspended and this very pass `SeesRunning`: it has found the job running, as the only one of its id in
a listing; then the JobManager is ready unless the listing took too long and another look at its
deployment has shown otherwise. -/
theorem stable_of_observeDeployment {σ : Type} {o : Operator σ} {d e : Deployment} {w w' : σ}
    {outcome : Outcome Unit} (h : o.observeDeployment.runOn (d, w) = (outcome, e, w'))
    (hchanged : e.status.reconciliation.lastStableSpec ≠
      d.status.reconciliation.lastStableSpec) :
    e.status.reconciliation.lastStableSpec = e.status.reconciliation.lastReconciledSpec ∧
    ∃ conf found u v, ∃ applied : DeploymentSpec,
      (o.deployedConfig d).runOn w = (.ok (some conf), u) ∧
      (o.readManager conf).runOn u = (.ok found, v) ∧
      d.status.manager.next found = .ready ∧
      e.status.reconciliation.lastReconciled = .ok (some applied) ∧
      ((applied.job = none ∧ e.status.manager = .ready) ∨
        ∃ job id, applied.job = some job ∧ job.state ≠ some .suspended ∧
          d.status.job.jobId = some id ∧ o.SeesRunning conf id v e.status.manager) := by
  have hother : e.status.reconciliation ≠ d.status.reconciliation :=
    fun heq => hchanged (congrArg ReconciliationStatus.lastStableSpec heq)
  have hmanager (conf : Config) : Subject.Keeps
      (fun e : Deployment => e.status.reconciliation = d.status.reconciliation)
      (o.observeManager conf) fun _ => True :=
    Operator.keeps_observeManager fun _ _ h => h
  -- each part of the pass keeps the record of what was applied, so the next one has to change it
  rw [Operator.observeDeployment, Action.runOn_bind, Subject.runOn_get] at h
  obtain ⟨deployed, s, u, hconf, -, -, h⟩ := Subject.Keeps.outside.broken_after
    (I := fun e : Deployment => e.status.reconciliation = d.status.reconciliation) h rfl hother
  obtain ⟨hdeployed, rfl⟩ := Subject.runOn_outside_eq_ok.1 hconf
  cases deployed with
  | none =>
    obtain rfl := Subject.eq_of_runOn_pure h
    exact absurd rfl hother
  | some conf =>
    obtain ⟨⟨⟩, s, v, hlook, -, -, h⟩ := (hmanager conf).broken_after h rfl hother
    obtain ⟨found, hfound, rfl⟩ := Operator.observeManager_eq_ok.1 hlook
    rw [Action.runOn_bind, Subject.runOn_get] at h
    dsimp only at h
    split at h
    · rename_i hready
      obtain ⟨applied, s, x, hread, -, -, h⟩ := Subject.Keeps.ofOutcome.broken_after
        (I := fun e : Deployment => e.status.reconciliation = d.status.reconciliation) h rfl hother
      obtain ⟨happlied, hsx⟩ := Action.runOn_ofOutcome_eq_ok.1 hread
      obtain ⟨rfl, rfl⟩ := Prod.mk.inj hsx
      cases applied with
      | none =>
        obtain rfl := Subject.eq_of_runOn_pure h
        exact absurd rfl hother
      | some applied =>
        obtain ⟨hmarked, hseen⟩ := Operator.observeReady_marks hready h hother
        rw [hmarked]
        exact ⟨rfl, conf, found, u, v, applied, hdeployed, hfound, hready, happlied, hseen⟩
    · obtain rfl := Subject.eq_of_runOn_pure h
      exact absurd rfl hother

/-- A cluster that was ready when it was last looked at. -/
def readyDeployment : Deployment where
  metadata := { name := some "basic", namespaceName := some "default" }
  status := {
    manager := .ready
    job.jobId := some "a1"
    reconciliation := { lastReconciledSpec := some "\x7b\"job\":\x7b\x7d\x7d" } }

/-- A world where listing the jobs takes long, and the JobManager goes away meanwhile. -/
def slowWorld : World where
  server.deployments :=
    [⟨.text "default", .text "basic", { replicas := some 1, available := some 1 }⟩]
  files := { root := "" }
  cluster := {
    jobs := [⟨.text "a1", .text "basic", .text "RUNNING", .int 0⟩]
    delay := { millis := 20000, removes := some (.text "default", .text "basic") } }

/-- A pass over the cluster in this world. -/
def slowPass : Outcome Unit × Deployment × World :=
  (World.operator (.text "default") {} []).observeDeployment.runOn (readyDeployment, slowWorld)

/-- The `slowPass` marks what was last applied as stable although it finds the JobManager
`missing`. -/
theorem stable_of_missing_manager :
    readyDeployment.status.reconciliation.lastStableSpec = none ∧
      slowPass.2.1.status.reconciliation.lastStableSpec ≠ none ∧
      slowPass.2.1.status.reconciliation.lastStableSpec =
        slowPass.2.1.status.reconciliation.lastReconciledSpec ∧
      slowPass.2.1.status.manager = .missing := by
  have hseen : slowPass.2.1.status.reconciliation.lastStableSpec ≠ none ∧
      slowPass.2.1.status.manager = .missing := by decide +kernel
  rcases hpass : slowPass with ⟨outcome, e, w'⟩
  rw [hpass] at hseen
  exact ⟨rfl, hseen.1, (stable_of_observeDeployment hpass hseen.1).1, hseen.2⟩

end FlinkSteward
