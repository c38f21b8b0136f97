import FlinkSteward.Proofs.Observe.Alike

/-!
# When a JobManager counts as ready

Only looks at its deployment move the status of a JobManager, and the next status depends on the
last one. Over any sequence of looks, the status is settled by the last two things that were seen: the
JobManager is ready when both times all replicas were up. Looks that Kubernetes does not answer leave
no trace.

A pass makes one look or two. To say what was seen in a pass, it is run with a connection that
remembers the answers, which changes nothing else.

## Key results

- `Deployment.Watched`: what was seen of a JobManager, look after look
- `Deployment.Watched.manager_eq`: its status is that of a fold over what was seen
- `Operator.remembering`: an operator that remembers what it saw
- `Operator.observeDeployment_watched`: a pass consists of looks, which it remembers
- `ready_iff_twice_up`: the status by the last two things that were seen
-/

namespace FlinkSteward

open Simulation

/-- What was seen of the deployment of a JobManager, look after look. -/
abbrev Sightings := List (Option ManagerDeployment)

/-! ## Looks -/

namespace ManagerDeployment

/-- How many replicas are asked for; one if nothing or nought is said. -/
def desired (m : ManagerDeployment) : Int :=
  match m.replicas with
  | none => 1
  | some n => if n = 0 then 1 else n

/-- As many replicas are available as are asked for. -/
def IsUp (m : ManagerDeployment) : Prop :=
  m.desired ≤ m.available.getD 0

instance (m : ManagerDeployment) : Decidable m.IsUp :=
  inferInstanceAs (Decidable (_ ≤ _))

theorem isAvailable_iff (m : ManagerDeployment) : m.isAvailable = true ↔ m.IsUp := by
  have hdesired : (m.replicas.filter (· ≠ 0)).getD 1 = m.desired := by
    unfold desired
    rcases m.replicas with _ | n
    · rfl
    · by_cases hn : n = 0 <;> simp [Option.filter, hn]
  rw [isAvailable, hdesired, decide_eq_true_iff, IsUp]

end ManagerDeployment

/-- A deployment was seen that `IsUp`. -/
def SeenUp (seen : Option ManagerDeployment) : Prop :=
  ∃ m, seen = some m ∧ m.IsUp

namespace ManagerStatus

variable {s : ManagerStatus} {m : ManagerDeployment}

theorem next_of_not_isUp (h : ¬ m.IsUp) : s.next (some m) = .deploying := by
  rw [← m.isAvailable_iff, Bool.not_eq_true] at h
  simp [next, h]

theorem next_of_isUp (h : m.IsUp) : s.next (some m) =
    if s = .deploying ∨ s = .missing then .deployedNotReady else .ready := by
  rw [← m.isAvailable_iff] at h
  simp [next, h]

/-- After a `next` look, the status is one of those that are left again, unless the replicas were up
(`SeenUp`). -/
theorem next_starting_iff (seen : Option ManagerDeployment) :
    (s.next seen = .deploying ∨ s.next seen = .missing) ↔ ¬ SeenUp seen := by
  cases seen with
  | none => simp [next, SeenUp]
  | some m =>
    by_cases h : m.IsUp
    · rw [next_of_isUp h]
      split <;> simp [SeenUp, h]
    · simp [next_of_not_isUp h, SeenUp, h]

/-- The status after looks at a JobManager that was missing. -/
def after (seen : Sightings) : ManagerStatus :=
  seen.foldl next .missing

@[simp] theorem after_append (earlier later : Sightings) :
    after (earlier ++ later) = later.foldl next (after earlier) :=
  List.foldl_append ..

/-- The status `after` looks is one of those unless the last of them saw all replicas up. -/
theorem after_starting_iff (earlier : Sightings) :
    (after earlier = .deploying ∨ after earlier = .missing) ↔
      ¬ ∃ before, earlier.getLast? = some before ∧ SeenUp before := by
  rcases List.eq_nil_or_concat earlier with rfl | ⟨start, before, rfl⟩
  · simp [after]
  · rw [List.concat_eq_append, after_append, List.foldl_cons, List.foldl_nil, next_starting_iff]
    simp

end ManagerStatus

/-- A cluster whose JobManager was missing at first, after looks at it in any worlds by any operators,
and after anything else that leaves the status of the JobManager. What was seen is in order; a look
that fails sees nothing. -/
inductive Deployment.Watched : Sightings → Deployment → Prop where
  /-- Nobody has looked yet. -/
  | start {d : Deployment} (h : d.status.manager = .missing) : Watched [] d
  /-- A look at the JobManager. -/
  | looked {σ : Type} {o : Operator σ} {conf : Config} {seen : Sightings} {d e : Deployment}
    {w v : σ} {found : Option ManagerDeployment} (h : Watched seen d)
    (hread : (o.readManager conf).runOn w = (.ok found, v))
    (hlook : (o.observeManager conf).runOn (d, w) = (.ok (), e, v)) : Watched (seen ++ [found]) e
  /-- A look that failed. -/
  | failed {σ : Type} {o : Operator σ} {conf : Config} {seen : Sightings} {d e : Deployment}
    {w v : σ} {f : Failure} (h : Watched seen d)
    (hlook : (o.observeManager conf).runOn (d, w) = (.error f, e, v)) : Watched seen e
  /-- Anything else. -/
  | other {seen : Sightings} {d e : Deployment} (h : Watched seen d)
    (hsame : e.status.manager = d.status.manager) : Watched seen e

/-- The status of a JobManager that was `Watched` is the one `after` what was seen of it. -/
theorem Deployment.Watched.manager_eq {seen : Sightings} {d : Deployment} (h : Watched seen d) :
    d.status.manager = .after seen := by
  induction h with
  | start h => exact h
  | looked _ hread hlook ih =>
    rw [Operator.observeManager_runOn, hread] at hlook
    obtain rfl := (Prod.mk.inj (Prod.mk.inj hlook).2).1
    rw [ManagerStatus.after_append, ← ih]
    rfl
  | @failed _ o conf _ d _ w _ _ _ hlook ih =>
    rw [Operator.observeManager_runOn] at hlook
    rcases hread : (o.readManager conf).runOn w with ⟨_ | found, v⟩
    · rw [hread] at hlook
      obtain rfl := (Prod.mk.inj (Prod.mk.inj hlook).2).1
      exact ih
    · rw [hread] at hlook
      exact nomatch hlook
  | other _ hsame ih => exact hsame.trans ih

/-! ## Passes that remember what they saw -/

namespace Kubernetes

variable {σ : Type}

/-- A connection that remembers, beside the world, what was seen of JobManagers. -/
def remembering (k : Kubernetes σ) : Kubernetes (σ × Sightings) where
  space := k.space
  send
    | .readDeployment space name => .ofRun fun s =>
      match (k.send (.readDeployment space name)).runOn s.1 with
      | (.ok m, w) => (.ok m, w, s.2 ++ [some m])
      | (.error f, w) => (.error f, w, if isMissing f then s.2 ++ [none] else s.2)
    | r => .onPart Part.first (k.send r)

theorem readDeployment_remembering (k : Kubernetes σ) (name space : Value) (w : σ)
    (seen : Sightings) :
    (k.remembering.readDeployment name space).runOn (w, seen) =
      match (k.readDeployment name space).runOn w with
      | (.ok found, v) => (.ok found, v, seen ++ [found])
      | (.error f, v) => (.error f, v, seen) := by
  simp only [readDeployment, orMissing, Action.runOn_ofRun, remembering, spaceOf]
  rcases (k.send _).runOn w with ⟨f | m, v⟩
  · dsimp only
    cases isMissing f <;> rfl
  · rfl

end Kubernetes

namespace Operator

variable {σ : Type}

/-- The operator in a world that remembers what was seen of JobManagers. -/
def remembering (o : Operator σ) : Operator (σ × Sightings) :=
  { o.onPart Part.first with kubernetes := o.kubernetes.remembering }

/-- What a pass over a cluster sees of its JobManager. -/
def sightings (o : Operator σ) (d : Deployment) (w : σ) : Sightings :=
  (o.remembering.observeDeployment.runOn (d, w, [])).2.2.2

end Operator

/-- `always` after an action on the first of two parts. -/
theorem Action.runOn_onPart_first_always {σ τ α : Type} (a : Action σ α) (last : Action σ Unit) (w : σ)
    (t : τ) : ((onPart .first a).always (onPart .first last)).runOn (w, t) =
      (((a.always last).runOn w).1, ((a.always last).runOn w).2, t) := by
  simp only [always, runOn_ofRun, runOn_onPart, Part.first]
  rcases last.runOn (a.runOn w).2 with ⟨_ | _, u⟩ <;> rfl

/-- `Client.use` on the first of two parts of a world only touches that part. -/
theorem Client.use_onPart_first {σ τ α : Type} (connect : Action σ (Client σ))
    {job : Client σ → Action σ α} {job' : Client (σ × τ) → Action (σ × τ) α}
    (h : ∀ c, job' (c.onPart .first) = .onPart .first (job c)) :
    Client.use (do return (← Action.onPart .first connect).onPart .first) job' =
      Action.onPart .first (Client.use connect job) := by
  funext ⟨w, t⟩
  have hrun : (Client.use (do return (← Action.onPart .first connect).onPart .first) job').runOn
      (w, t) = (((Client.use connect job).runOn w).1, ((Client.use connect job).runOn w).2, t) := by
    rw [Client.use, bind_assoc, Client.use, Action.runOn_bind, Action.runOn_bind, Action.runOn_onPart]
    rcases hconnect : connect.runOn w with ⟨f | c, v⟩
    · simp only [Part.first, hconnect]
    · simp only [Part.first, hconnect, pure_bind]
      rw [← Part.first, h]
      exact Action.runOn_onPart_first_always (job c) c.close v t
  exact hrun

namespace Operator

open Subject

variable {σ α : Type} (o : Operator σ) (conf : Config)

theorem listJobs_remembering :
    o.remembering.listJobs conf = .onPart .first (o.listJobs conf) :=
  Client.use_onPart_first (o.connect conf) fun _ => rfl

theorem pollSavepoint_remembering (job trigger : Value) :
    o.remembering.pollSavepoint conf job trigger =
      .onPart .first (o.pollSavepoint conf job trigger) :=
  Client.use_onPart_first (o.connect conf) fun _ => rfl

/-- A world that remembers is one that does not, with `Sightings` of a cluster after those that were
seen earlier. -/
def Remembers (earlier : Sightings) (d : Deployment) (s : σ × Sightings) (w : σ) : Prop :=
  s.1 = w ∧ d.Watched (earlier ++ s.2)

/-- A step that does not look at the JobManager is `Alike`. -/
theorem alike_unseen (earlier : Sightings) (a : Action σ α) :
    Alike (Remembers earlier) (outside (.onPart .first a)) (outside a) := by
  rintro d ⟨w, seen⟩ _ ⟨rfl, hd⟩
  exact ⟨(a.runOn w).1, d, ((a.runOn w).2, seen), (a.runOn w).2, rfl, rfl, rfl, hd⟩

/-- `observeManager` by an operator that is `remembering` is remembered if it saw something. -/
theorem alike_observeManager (earlier : Sightings) :
    Alike (Remembers earlier) (o.remembering.observeManager conf) (o.observeManager conf) := by
  rintro d ⟨w, seen⟩ _ ⟨rfl, hd⟩
  have hread : (o.remembering.readManager conf).runOn (w, seen) =
      match (o.readManager conf).runOn w with
      | (.ok found, v) => (.ok found, v, seen ++ [found])
      | (.error f, v) => (.error f, v, seen) :=
    o.kubernetes.readDeployment_remembering _ _ w seen
  have hlook := o.observeManager_runOn conf d w
  rw [observeManager_runOn, hread, hlook]
  rcases hanswer : (o.readManager conf).runOn w with ⟨f | found, v⟩
  · rw [hanswer] at hlook
    exact ⟨.error f, d, (v, seen), v, rfl, rfl, rfl, hd.failed hlook⟩
  · rw [hanswer] at hlook
    refine ⟨.ok (), _, (v, seen ++ [found]), v, rfl, rfl, rfl, ?_⟩
    rw [← List.append_assoc]
    exact hd.looked hanswer hlook

/-- `remembering` changes nothing of what an operator sees. -/
theorem seesAlike_remembering (earlier : Sightings) :
    SeesAlike (Remembers earlier) o.remembering o where
  byManager _ _ _ _ h hsame := ⟨h.1, h.2.other hsame⟩
  settings := rfl
  deployed d := alike_unseen earlier (o.deployedConfig d)
  manager conf := o.alike_observeManager conf earlier
  jobs conf := by rw [listJobs_remembering]; exact alike_unseen earlier _
  savepoint conf job trigger := by rw [pollSavepoint_remembering]; exact alike_unseen earlier _
  now := alike_unseen earlier o.now
  uptime := alike_unseen earlier o.uptime

/-- `observeDeployment` adds its `sightings` to what was seen earlier. -/
theorem observeDeployment_watched {seen : Sightings} {d : Deployment} (hd : d.Watched seen) (w : σ) :
    (o.observeDeployment.runOn (d, w)).2.1.Watched (seen ++ o.sightings d w) ∧
      o.remembering.observeDeployment.runOn (d, w, []) =
        ((o.observeDeployment.runOn (d, w)).1, (o.observeDeployment.runOn (d, w)).2.1,
          (o.observeDeployment.runOn (d, w)).2.2, o.sightings d w) := by
  have hstart : Remembers seen d (w, []) w := ⟨rfl, by rwa [List.append_nil]⟩
  obtain ⟨outcome, e, ⟨_, more⟩, v, hrun, hpass, rfl, he⟩ :=
    (o.seesAlike_remembering seen).observeDeployment d (w, []) w hstart
  rw [sightings, hrun, hpass]
  exact ⟨he, rfl⟩

end Operator

/-- A cluster that was `Watched` through `Sightings` has a JobManager that is `missing` when the last
look found nothing, `deploying` when it found replicas that are not all up, `ready` when the last two
looks both found all replicas up (`SeenUp`), and `deployedNotReady` when only the last one did. Every
pass adds its own `Operator.sightings` to the account, which is what the same pass writes down in a
world that is `remembering`. -/
theorem ready_iff_twice_up {seen : Sightings} {d : Deployment} (h : d.Watched seen) :
    (∀ earlier last, seen = earlier ++ [last] →
      (d.status.manager = .missing ↔ last = none) ∧
      (d.status.manager = .deploying ↔ ∃ m, last = some m ∧ ¬ m.IsUp) ∧
      (d.status.manager = .ready ↔
        SeenUp last ∧ ∃ before, earlier.getLast? = some before ∧ SeenUp before) ∧
      (d.status.manager = .deployedNotReady ↔
        SeenUp last ∧ ¬ ∃ before, earlier.getLast? = some before ∧ SeenUp before)) ∧
    ∀ {σ : Type} (o : Operator σ) (w : σ),
      (o.observeDeployment.runOn (d, w)).2.1.Watched (seen ++ o.sightings d w) ∧
      o.remembering.observeDeployment.runOn (d, w, []) =
        ((o.observeDeployment.runOn (d, w)).1, (o.observeDeployment.runOn (d, w)).2.1,
          (o.observeDeployment.runOn (d, w)).2.2, o.sightings d w) := by
  constructor
  · rintro earlier last rfl
    have hmanager := h.manager_eq
    rw [ManagerStatus.after_append, List.foldl_cons, List.foldl_nil] at hmanager
    rw [hmanager]
    cases last with
    | none => simp [ManagerStatus.next, SeenUp]
    | some m =>
      by_cases hup : m.IsUp
      · -- the status before the last look decides
        have hlast : SeenUp (some m) := ⟨m, rfl, hup⟩
        have hbefore := ManagerStatus.after_starting_iff earlier
        rw [ManagerStatus.next_of_isUp hup]
        by_cases hstarting : ManagerStatus.after earlier = .deploying ∨
            ManagerStatus.after earlier = .missing
        · rw [if_pos hstarting]
          simp [hlast, hup, hbefore.1 hstarting]
        · rw [if_neg hstarting]
          simp [hlast, hup, Classical.not_not.1 (mt hbefore.2 hstarting)]
      · simp [ManagerStatus.next_of_not_isUp hup, SeenUp, hup]
  · intro σ o w
    exact o.observeDeployment_watched h w

/-- The cluster of `readyDeployment` before anybody has looked at it. -/
def startingDeployment : Deployment :=
  { readyDeployment with status := { readyDeployment.status with manager := .missing } }

/-- A JobManager whose only replica is up. -/
def upManager : ManagerDeployment where
  replicas := some 1
  available := some 1

/-- A world where it runs, and where the cluster answers at once. -/
def calmWorld : World where
  server.deployments := [⟨.text "default", .text "basic", upManager⟩]
  files := { root := "" }

/-- An operator in this world. -/
def calmOperator : Operator World :=
  World.operator (.text "default") {} []

/-- A cluster after a pass over it in this world. -/
def calmPass (d : Deployment) : Deployment :=
  (calmOperator.observeDeployment.runOn (d, calmWorld)).2.1

theorem startingDeployment_ready :
    startingDeployment.Watched [] ∧
      (calmPass startingDeployment).status.manager = .deployedNotReady ∧
      (calmPass (calmPass startingDeployment)).status.manager = .ready := by
  have hstart : startingDeployment.Watched [] := .start rfl
  have hup : SeenUp (some upManager) := ⟨upManager, rfl, by decide⟩
  have hsaw : calmOperator.sightings startingDeployment calmWorld = [some upManager] := by
    decide +kernel
  have hsaw' : calmOperator.sightings (calmPass startingDeployment) calmWorld =
      [some upManager] := by decide +kernel
  have hfirst : (calmPass startingDeployment).Watched
      ([] ++ calmOperator.sightings startingDeployment calmWorld) :=
    ((ready_iff_twice_up hstart).2 calmOperator calmWorld).1
  rw [hsaw] at hfirst
  refine ⟨hstart, ((ready_iff_twice_up hfirst).1 [] _ rfl).2.2.2.2 ⟨hup, by simp⟩, ?_⟩
  -- the second pass starts from any cluster of which as much is known
  generalize calmPass startingDeployment = d at hfirst hsaw' ⊢
  have hsecond : (calmPass d).Watched ([some upManager] ++ calmOperator.sightings d calmWorld) :=
    ((ready_iff_twice_up hfirst).2 calmOperator calmWorld).1
  rw [hsaw'] at hsecond
  exact ((ready_iff_twice_up hsecond).1 [some upManager] _ rfl).2.2.1.2 ⟨hup, _, rfl, hup⟩

end FlinkSteward
