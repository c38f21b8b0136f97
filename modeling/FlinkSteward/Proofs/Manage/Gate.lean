import FlinkSteward.Manage.Folder
import FlinkSteward.Proofs.Manage.Change
import Mathlib.Logic.Relation

/-!
# What gets past the validators

Whatever a manager is asked for, it sends at most one change, as the last of its requests, and only
what its validators accept. When it fails, everything that is stored is as it was. So what is stored
after any number of calls was there before them or is acceptable.

## Key results

- `Order`: what a manager is asked for, with `Manager.perform`
- `Manager.perform_wrote`, `Manager.allOrNothing_perform`: a single call
- `Manager.manifest?_of_performs`: any number of calls
- `changes_are_accepted`: all of it together
-/

namespace FlinkSteward

open Simulation

/-! ## Orders -/

/-- What is asked for of the job of a cluster. -/
inductive JobOrder where
  /-- The job is suspended. -/
  | suspend
  /-- The job is resumed. -/
  | resume
  /-- A savepoint of the job is taken. -/
  | savepoint
  /-- The job is stopped in another way before upgrades. -/
  | upgradeMode (mode : UpgradeMode)

/-- What is asked of a manager that changes clusters. -/
inductive Order where
  /-- A cluster is created from the manifest in a file, with overrides. -/
  | deploy (folder : Folder) (path : String) (overrides : Entries Value)
  /-- The job of a cluster is changed. -/
  | change (name : String) (job : JobOrder)

/-- The patch of a manifest that an order of a job comes down to. -/
def JobOrder.patch (manifest : Value) : JobOrder → Outcome Value
  | suspend => .ok (Manager.jobChange "state" (.text (Enumeration.written JobState.suspended)))
  | resume => .ok (Manager.jobChange "state" (.text (Enumeration.written JobState.running)))
  | savepoint =>
    (Deployment.decode manifest >>= Manager.nextNonce).map
      (Manager.jobChange "savepointTriggerNonce")
  | upgradeMode mode => .ok (Manager.jobChange "upgradeMode" (.text (Enumeration.written mode)))

/-- A manifest that is to be created has a name, which is a text. -/
def Order.IsNamed : Order → Prop
  | deploy folder path overrides =>
    ∀ manifest, (folder.manifest path >>= fun v => v.override overrides) = .ok manifest →
      ∃ name, Manager.nameIn manifest = .ok (.text name)
  | change _ _ => True

/-- What an order leaves behind on a server: the namespace, the name and the manifest of a cluster.
The manifest is the one that is created, or the one that was there with the patch of the order. -/
def Order.Makes (k : Kubernetes Server) (s : Server) (place name manifest : Value) : Order → Prop
  | deploy folder path overrides =>
    (folder.manifest path >>= fun v => v.override overrides) = .ok manifest ∧
      Manager.nameIn manifest = .ok name ∧
      ∃ own, Kubernetes.spaceOfManifest manifest = .ok own ∧ place = k.spaceOf own
  | change id job =>
    name = .text id ∧ place = k.spaceOf .null ∧
      ∃ old patch, s.manifest? Deployment.plural place name = some old ∧
        job.patch old = .ok patch ∧ manifest = old.patch patch

namespace Manager

/-- Does what is asked for. -/
def perform {σ : Type} (m : Manager σ) : Order → Action σ Unit
  | .deploy folder path overrides => do
    let manifest ← .ofOutcome (folder.manifest path)
    let _ ← m.deploy manifest overrides
  | .change name .suspend => m.suspend name
  | .change name .resume => m.resume name
  | .change name .savepoint => do
    let _ ← m.requestSavepoint name
  | .change name (.upgradeMode mode) => m.setUpgradeMode name mode

variable {m : Manager Server} {space : Value} {s t : Server}

/-! ## A single call -/

/-- `Manager.requestSavepoint` looks the cluster up a second time, and finds the same. -/
theorem requestSavepoint_wrote (hm : m.kubernetes = Server.connection space) {name : String}
    {nonce : Value} (h : (m.requestSavepoint name).runOn s = (.ok nonce, t)) :
    ∃ manifest patch, s.manifest? Deployment.plural space (.text name) = some manifest ∧
      JobOrder.savepoint.patch manifest = .ok patch ∧
      m.Wrote space (.text name) (manifest.patch patch) s t := by
  obtain ⟨manifest, u, hlook, hrest⟩ := Action.runOn_bind_eq_ok.1 h
  obtain ⟨next, _, hdecide, hrest'⟩ := Action.runOn_bind_eq_ok.1 hrest
  obtain ⟨_, w, hchange, hlast⟩ := Action.runOn_bind_eq_ok.1 hrest'
  obtain ⟨hnext, rfl⟩ := Action.runOn_ofOutcome_eq_ok.1 hdecide
  obtain ⟨-, rfl⟩ := Action.runOn_pure_eq_ok.1 hlast
  obtain ⟨hfound, hres⟩ := manifestOf_eq_ok hm hlook
  obtain ⟨again, hagain, hwrote⟩ := change_wrote hm hchange
  -- nothing has changed between the two look-ups
  obtain rfl : again = manifest := by
    rw [Server.manifest?_congr hres] at hagain
    exact Option.some.inj (hagain.symm.trans hfound)
  have hsent := sent_manifestOf hm name s
  rw [hlook] at hsent
  refine ⟨again, _, hfound, ?_, hwrote.after_read rfl hsent hres⟩
  rw [JobOrder.patch, hnext]
  rfl

theorem allOrNothing_requestSavepoint (hm : m.kubernetes = Server.connection space)
    (name : String) : Server.AllOrNothing (m.requestSavepoint name) :=
  (looksOnly_manifestOf hm name).bind fun _ => .ofOutcome_bind fun _ _ =>
    (allOrNothing_change hm name _).bind_pure

/-- `Manager.change` of a job `Makes` its patch, if that is the same for all manifests. -/
private theorem change_makes (hm : m.kubernetes = Server.connection space) {name : String}
    {job : JobOrder} {patch : Value} (hpatch : ∀ manifest, job.patch manifest = .ok patch)
    (h : (m.change name patch).runOn s = (.ok (), t)) :
    ∃ place id manifest, (Order.change name job).Makes m.kubernetes s place id manifest ∧
      m.Wrote place id manifest s t := by
  obtain ⟨manifest, hfound, hwrote⟩ := change_wrote hm h
  rw [hm]
  exact ⟨space, _, _, ⟨rfl, rfl, manifest, patch, hfound, hpatch manifest, rfl⟩, hwrote⟩

/-- A `Manager.perform` that succeeds has sent a single change (`Wrote`), which has left what its
order `Makes`. -/
theorem perform_wrote (hm : m.kubernetes = Server.connection space) {order : Order}
    (hnamed : order.IsNamed) (h : (m.perform order).runOn s = (.ok (), t)) :
    ∃ place name manifest, order.Makes m.kubernetes s place name manifest ∧
      m.Wrote place name manifest s t := by
  cases order with
  | deploy folder path overrides =>
    obtain ⟨manifest, _, hread, hrest⟩ := Action.runOn_bind_eq_ok.1 h
    obtain ⟨id, _, hdeploy, hlast⟩ := Action.runOn_bind_eq_ok.1 hrest
    obtain ⟨hmanifest, rfl⟩ := Action.runOn_ofOutcome_eq_ok.1 hread
    obtain ⟨-, rfl⟩ := Action.runOn_pure_eq_ok.1 hlast
    obtain ⟨created, own, hcreated, hid, hown, hwrote⟩ := deploy_wrote hm hdeploy
    have hmade : (folder.manifest path >>= fun v => v.override overrides) = .ok created :=
      Outcome.bind_eq_ok.2 ⟨manifest, hmanifest, hcreated⟩
    -- the server keeps it under the name that its metadata has
    obtain ⟨name, hname⟩ := hnamed created hmade
    rw [metadataOf_of_nameIn hname] at hwrote
    exact ⟨_, _, created, ⟨hmade, hname, own, hown, rfl⟩, hwrote⟩
  | change name job =>
    cases job with
    | suspend => exact change_makes hm (fun _ => rfl) h
    | resume => exact change_makes hm (fun _ => rfl) h
    | upgradeMode mode => exact change_makes hm (fun _ => rfl) h
    | savepoint =>
      obtain ⟨nonce, _, hrequest, hlast⟩ := Action.runOn_bind_eq_ok.1 h
      obtain ⟨-, rfl⟩ := Action.runOn_pure_eq_ok.1 hlast
      obtain ⟨manifest, patch, hfound, hpatch, hwrote⟩ := requestSavepoint_wrote hm hrequest
      rw [hm]
      exact ⟨space, _, _, ⟨rfl, rfl, manifest, patch, hfound, hpatch, rfl⟩, hwrote⟩

/-- A `Manager.perform` that fails leaves all resources as they are. -/
theorem allOrNothing_perform (hm : m.kubernetes = Server.connection space) {order : Order}
    (hnamed : order.IsNamed) : Server.AllOrNothing (m.perform order) := by
  cases order with
  | deploy folder path overrides =>
    refine .ofOutcome_bind fun manifest hmanifest => (allOrNothing_deploy hm ?_).bind_pure
    exact fun created hcreated => hnamed created (Outcome.bind_eq_ok.2 ⟨_, hmanifest, hcreated⟩)
  | change name job =>
    cases job with
    | suspend => exact allOrNothing_change hm name _
    | resume => exact allOrNothing_change hm name _
    | upgradeMode mode => exact allOrNothing_change hm name _
    | savepoint => exact (allOrNothing_requestSavepoint hm name).bind_pure

/-! ## Any number of calls -/

/-- A call of `Manager.perform` takes a server from one state to another. -/
def Performs (m : Manager Server) (s t : Server) : Prop :=
  ∃ order : Order, order.IsNamed ∧ ((m.perform order).runOn s).2 = t

variable {plural : String} {place name manifest : Value}

/-- What is found after a manager `Performs` an order was found before, or the manager `Accepts`
it. -/
theorem Performs.manifest? (hm : m.kubernetes = Server.connection space) (h : m.Performs s t)
    (hfound : t.manifest? plural place name = some manifest) :
    s.manifest? plural place name = some manifest ∨ m.Accepts manifest := by
  obtain ⟨order, hnamed, rfl⟩ := h
  rcases hrun : (m.perform order).runOn s with ⟨f | ⟨⟩, t⟩
  · -- nothing was stored by a call that failed
    rw [hrun, Server.manifest?_congr (allOrNothing_perform hm hnamed hrun)] at hfound
    exact .inl hfound
  · obtain ⟨_, _, _, -, hwrote⟩ := perform_wrote hm hnamed hrun
    rw [hrun] at hfound
    exact hwrote.manifest? hfound

theorem manifest?_of_performs (hm : m.kubernetes = Server.connection space)
    (h : Relation.ReflTransGen m.Performs s t)
    (hfound : t.manifest? plural place name = some manifest) :
    s.manifest? plural place name = some manifest ∨ m.Accepts manifest := by
  -- from the last call backwards
  induction h with
  | refl => exact .inl hfound
  | tail _ hstep ih =>
    obtain hbefore | haccepted := hstep.manifest? hm hfound
    · exact ih hbefore
    · exact .inr haccepted

end Manager

/-- A `Manager.perform` that succeeds has sent a single change after its look-ups (`Wrote`), and has
left the manifest that its order `Makes`, which its validators accept. One that fails leaves
everything that is stored as it was. So whatever is stored after any number of calls was stored before
them, or the manager `Accepts` it. -/
theorem changes_are_accepted {m : Manager Server} {space : Value}
    (hm : m.kubernetes = Server.connection space) :
    (∀ {order : Order} {s t : Server} {outcome : Outcome Unit}, order.IsNamed →
      (m.perform order).runOn s = (outcome, t) →
        match outcome with
        | .error _ => t.resources = s.resources
        | .ok () => ∃ place name manifest, order.Makes m.kubernetes s place name manifest ∧
            t.manifest? Deployment.plural place name = some manifest ∧
            m.Wrote place name manifest s t) ∧
    (∀ {s t : Server}, Relation.ReflTransGen m.Performs s t →
      ∀ {plural : String} {place name manifest : Value},
        t.manifest? plural place name = some manifest →
          s.manifest? plural place name = some manifest ∨ m.Accepts manifest) := by
  refine ⟨fun {order s t outcome} hnamed hrun => ?_,
    fun h _ _ _ _ hfound => Manager.manifest?_of_performs hm h hfound⟩
  cases outcome with
  | error f => exact Manager.allOrNothing_perform hm hnamed hrun
  | ok =>
    obtain ⟨place, name, manifest, hmakes, hwrote⟩ := Manager.perform_wrote hm hnamed hrun
    exact ⟨place, name, manifest, hmakes, hwrote.stored, hwrote⟩

/-- A manager with the built-in validators. -/
def guardedManager : Manager Server where
  kubernetes := Server.connection (.text "default")
  registry := Registry.create [] []
  clock := Server.clock

/-- A folder with the manifest of a cluster. -/
def basicFolder : Folder :=
  [("basic.yaml", "metadata: \x7bname: basic\x7d")]

/-- What is put into the manifest. -/
def basicOverrides : Entries Value :=
  [("spec.flinkVersion", .text "v1_15"), ("spec.job.jarURI", .text "local:///job.jar"),
    ("spec.jobManager.resource.memory", .text "1g"),
    ("spec.taskManager.resource.memory", .text "1g")]

/-- The order to create the cluster. -/
def creation : Order :=
  .deploy basicFolder "basic.yaml" basicOverrides

theorem creation_isNamed : creation.IsNamed := by
  intro manifest hmanifest
  have hname : ((basicFolder.manifest "basic.yaml" >>= fun v => v.override basicOverrides) >>=
      Manager.nameIn) = .ok (.text "basic") := by decide +kernel
  rw [hmanifest] at hname
  exact ⟨"basic", hname⟩

/-- A server with a session cluster, the job of which is null. -/
def sessionServer : Server where
  resources := [⟨Deployment.plural, .text "default", .text "session", .map [
    ("metadata", .map [("name", .text "session")]),
    ("spec", .map [("flinkVersion", .text "v1_15"), ("job", .null)])]⟩]

/-- The order to suspend the job that it has not. -/
def suspension : Order :=
  .change "session" .suspend

/-- A manager without validators. -/
def openManager : Manager Server where
  kubernetes := Server.connection (.text "default")
  registry := ⟨[]⟩
  clock := Server.clock

/-- Created on a server that has nothing, the cluster is stored, and it is all that is stored. A job
without a program is refused for the session cluster, which stays as it is; without validators, it is
stored in the place of the null. -/
theorem orders_are_checked :
    guardedManager.kubernetes = Server.connection (.text "default") ∧ creation.IsNamed ∧
      (∃ t, (guardedManager.perform creation).runOn {} = (.ok (), t) ∧
        (∃ place name manifest, creation.Makes guardedManager.kubernetes {} place name manifest ∧
          t.manifest? Deployment.plural place name = some manifest) ∧
        ∀ {plural : String} {place name manifest : Value},
          t.manifest? plural place name = some manifest → guardedManager.Accepts manifest) ∧
      (∃ f t, (guardedManager.perform suspension).runOn sessionServer = (.error f, t) ∧
        t.resources = sessionServer.resources) ∧
      ∃ t place name manifest, (openManager.perform suspension).runOn sessionServer = (.ok (), t) ∧
        suspension.Makes openManager.kubernetes sessionServer place name manifest ∧
        t.manifest? Deployment.plural place name = some manifest ∧
        manifest.atPath? [.key "spec", .key "job", .key "state"] = some (.text "suspended") := by
  have hok : ((guardedManager.perform creation).runOn {}).1 = .ok () := by decide +kernel
  rcases hrun : (guardedManager.perform creation).runOn {} with ⟨outcome, t⟩
  rw [hrun] at hok
  obtain rfl : outcome = .ok () := hok
  have hserver : guardedManager.kubernetes = Server.connection (.text "default") := rfl
  have hopen : openManager.kubernetes = Server.connection (.text "default") := rfl
  have hnamed : suspension.IsNamed := trivial
  obtain ⟨hcall, hcalls⟩ := changes_are_accepted hserver
  obtain ⟨place, name, manifest, hmakes, hstored, -⟩ := hcall creation_isNamed hrun
  have hreached : Relation.ReflTransGen guardedManager.Performs {} t :=
    .single ⟨creation, creation_isNamed, congrArg Prod.snd hrun⟩
  refine ⟨hserver, creation_isNamed, ⟨t, rfl, ⟨place, name, manifest, hmakes, hstored⟩,
    fun hfound => ?_⟩, ?_, ?_⟩
  · -- there was nothing before
    obtain hbefore | haccepted := hcalls hreached hfound
    · exact nomatch hbefore
    · exact haccepted
  · have hrefused : ((guardedManager.perform suspension).runOn sessionServer).1 =
        .error (.rejected "Jar URI must be defined") := by decide +kernel
    rcases hrun : (guardedManager.perform suspension).runOn sessionServer with ⟨outcome, t⟩
    rw [hrun] at hrefused
    obtain rfl : outcome = _ := hrefused
    exact ⟨_, t, rfl, hcall hnamed hrun⟩
  · have hdone : ((openManager.perform suspension).runOn sessionServer).1 = .ok () := by decide +kernel
    rcases hrun : (openManager.perform suspension).runOn sessionServer with ⟨outcome, t⟩
    rw [hrun] at hdone
    obtain rfl : outcome = .ok () := hdone
    obtain ⟨place, name, manifest, hmakes, hstored, -⟩ := (changes_are_accepted hopen).1 hnamed hrun
    refine ⟨t, place, name, manifest, rfl, hmakes, hstored, ?_⟩
    obtain ⟨rfl, rfl, old, patch, hold, hpatch, rfl⟩ := hmakes
    obtain rfl := Option.some.inj hold
    obtain rfl := Except.ok.inj hpatch
    decide +kernel

end FlinkSteward
