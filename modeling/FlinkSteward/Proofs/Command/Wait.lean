import FlinkSteward.Command.Run
import FlinkSteward.Proofs.Kubernetes.Await
import FlinkSteward.Proofs.Manage.Change

/-!
# Commands that wait

A command that suspends or resumes a job may wait until the job is seen in its new state. How it ends
does not tell whether it was: it succeeds when the change was stored and no look at the cluster failed,
with the state seen in time or with the time over.

## Key results

- `Setting.runCommand_eq_success_iff`: commands succeed when none of their steps fails
- `Setting.changeJob_eq_success_iff`: a change of a job with a wait behind it
- `Server.Sees`, `Server.Misses`: what the looks before a deadline show
- `waiting_command_succeeds_iff`: command lines with a wait
-/

namespace FlinkSteward

open Simulation

/-! ## Steps of commands -/

namespace Command

variable {σ α : Type}

@[simp] theorem runOn_say (line written : String) (s : σ) :
    (say line).runOn (written, s) = (.ok (), written ++ line ++ "\n", s) := rfl

@[simp] theorem runOn_silently (a : Action σ α) (written : String) (s : σ) :
    (silently a).runOn (written, s) = ((a.runOn s).1, written, (a.runOn s).2) := rfl

/-- A command that changes the state of a job and waits for a number of seconds to see it there. -/
inductive Waits : Command → String → JobState → Int → Prop where
  | suspend (name : String) (seconds : Int) :
    Waits (.suspend name (some seconds)) name .suspended seconds
  | resume (name : String) (seconds : Int) :
    Waits (.resume name (some seconds)) name .running seconds

namespace Setting

variable {setting : Setting σ} {i : Invocation} {s : σ}

theorem snd_lastWords_ne_success (f : Failure) : (lastWords f).2 ≠ .success := by
  cases f <;> exact Exit.noConfusion

/-- `runCommand` is a success when no step of `perform` fails and that says so. -/
theorem runCommand_eq_success_iff :
    (setting.runCommand i s).1 = .success ↔
      ((setting.perform i).runOn ("", s)).1 = .ok .success := by
  rw [runCommand]
  rcases (setting.perform i).runOn ("", s) with ⟨f | exit, written, t⟩
  · exact iff_of_false (snd_lastWords_ne_success f) nofun
  · exact ⟨congrArg Except.ok, Except.ok.inj⟩

/-- `changeJob` is a success when the change is made and `Manager.await` does not fail, whatever it
saw. -/
theorem changeJob_eq_success_iff {name announcement request state written : String}
    {change : Manager σ → String → Action σ Unit} {seconds : Int} :
    ((setting.changeJob i name announcement request state change (some seconds)).runOn
        (written, s)).1 = .ok .success ↔
      ∃ m t, setting.manager i = .ok m ∧ (change m name).runOn s = (.ok (), t) ∧
        ∃ seen, ((m.await name (.text state) (.int seconds)).runOn t).1 = .ok seen := by
  rw [changeJob, Action.runOn_bind, Action.runOn_ofOutcome]
  cases hm : setting.manager i with
  | error f => simp
  | ok m =>
    simp only [Action.runOn_bind, runOn_say, runOn_silently, Except.ok.injEq]
    rcases hchange : (change m name).runOn s with ⟨f | _, t⟩
    · simp [hchange]
    · rcases hwait : (m.await name (.text state) (.int seconds)).runOn t with ⟨f | seen, u⟩
      · simp [hchange, hwait]
      · -- what the wait saw is thrown away
        refine iff_of_true ?_ ⟨m, t, rfl, hchange, seen, ?_⟩
        · simp [hwait]
        · rw [hwait]

/-- `perform` of a command that `Waits` is `changeJob` with its state and its seconds. -/
theorem perform_of_waits {name : String} {state : JobState} {seconds : Int}
    (h : Waits i.command name state seconds) :
    ∃ announcement request, setting.perform i =
      setting.changeJob i name announcement request (Enumeration.name state)
        (fun m id => m.change id (Manager.jobChange "state" (.text (Enumeration.written state))))
        (some seconds) := by
  obtain ⟨space, directory, command⟩ := i
  cases h with
  | suspend => exact ⟨"Suspending", "Suspend", rfl⟩
  | resume => exact ⟨"Resuming", "Resume", rfl⟩

end Setting

end Command

/-! ## Looks before a deadline -/

namespace Simulation.Server

variable {t : Server} {c name state : Value} {deadline : Int}

/-- A `Kubernetes.glance` before the deadline finds a manifest that shows the state, and those before
it find none. -/
def Sees (t : Server) (c name state : Value) (deadline : Int) : Prop :=
  ∃ look manifest,
    let before := (connection c).beforeLook clock name state .null look t
    before.now < deadline ∧ before.manifest? Deployment.plural c name = some manifest ∧
      Kubernetes.showsState (some manifest) state = .ok true ∧
      (connection c).glance clock name state .null look t = .ok true ∧
      ∀ earlier < look, (connection c).glance clock name state .null earlier t = .ok false

/-- No `Kubernetes.glance` before the deadline finds a manifest that shows the state. -/
def Misses (t : Server) (c name state : Value) (deadline : Int) : Prop :=
  ∀ look, ((connection c).beforeLook clock name state .null look t).now < deadline →
    (connection c).glance clock name state .null look t = .ok false

/-- The look with the number `look` comes before the deadline of a wait for whole seconds when five
times its number is less than these. -/
theorem lt_deadline_iff {look : Nat} {seconds : Int} :
    ((connection c).beforeLook clock name state .null look t).now < t.now + 1000 * seconds ↔
      5 * (look : Int) < seconds := by
  rw [(paces_clock c).time_beforeLook]
  omega

/-- `awaitState` does not fail exactly when it `Sees` the state or `Misses` it. -/
theorem awaitState_succeeds_iff_sees {seconds : Int} :
    (∃ seen, (((connection c).awaitState clock name state .null (.int seconds)).runOn t).1 =
        .ok seen) ↔
      t.Sees c name state (t.now + 1000 * seconds) ∨
        t.Misses c name state (t.now + 1000 * seconds) := by
  rw [(paces_clock c).awaitState_succeeds_iff]
  refine or_congr ?_ ?_
  · constructor
    · rintro ⟨look, hwithin, hshown, hearlier⟩
      obtain ⟨manifest, hfound, hshows⟩ := lookFor_eq_true hshown
      exact ⟨look, manifest, lt_deadline_iff.2 hwithin, hfound, hshows, hshown, hearlier⟩
    · rintro ⟨look, manifest, hwithin, -, -, hshown, hearlier⟩
      exact ⟨look, lt_deadline_iff.1 hwithin, hshown, hearlier⟩
  · exact forall_congr' fun look => imp_congr_left lt_deadline_iff.symm

end Simulation.Server

open Simulation.Server Command

/-- The setting of commands that use a server. -/
def Simulation.Server.setting (folder : Folder) (directory : Option String) : Setting Server where
  folder := folder
  directory := directory
  connect space := connection (.text space)
  clock := clock

/-- A command line that `Waits` for a job that it suspends or resumes succeeds exactly when the
validators could be set up, the change was made, and the wait either `Sees` the state before its
timeout, in a manifest that a look found there, or `Misses` it in all of its looks. A change that was
made is stored. -/
theorem waiting_command_succeeds_iff (folder : Folder) (directory : Option String)
    {words : List String} {i : Invocation} (hwords : Invocation.ofWords words = .ok i)
    {name : String} {state : JobState} {seconds : Int} (hwaits : Waits i.command name state seconds)
    (s : Server) :
    (((setting folder directory).run words s).1 = .success ↔
      ∃ m t, (setting folder directory).manager i = .ok m ∧
        (m.change name (Manager.jobChange "state" (.text (Enumeration.written state)))).runOn s =
          (.ok (), t) ∧
        (t.Sees (.text i.space) (.text name) (.text (Enumeration.name state))
            (t.now + 1000 * seconds) ∨
          t.Misses (.text i.space) (.text name) (.text (Enumeration.name state))
            (t.now + 1000 * seconds))) ∧
    ∀ m t, (setting folder directory).manager i = .ok m →
      (m.change name (Manager.jobChange "state" (.text (Enumeration.written state)))).runOn s =
        (.ok (), t) →
      ∃ old, s.manifest? Deployment.plural (.text i.space) (.text name) = some old ∧
        t.manifest? Deployment.plural (.text i.space) (.text name) =
          some (old.patch (Manager.jobChange "state" (.text (Enumeration.written state)))) := by
  have hconnection : ∀ m, (setting folder directory).manager i = .ok m →
      m.kubernetes = connection (.text i.space) ∧ m.clock = clock := by
    intro m hm
    obtain ⟨registry, -, hm⟩ := Outcome.bind_eq_ok.1 hm
    obtain rfl := Except.ok.inj hm
    exact ⟨rfl, rfl⟩
  constructor
  · obtain ⟨announcement, request, hperform⟩ := Setting.perform_of_waits hwaits
    rw [Setting.run, hwords]
    dsimp only
    rw [Setting.runCommand_eq_success_iff, hperform, Setting.changeJob_eq_success_iff]
    -- the command succeeds when its change and its wait do not fail
    refine exists_congr fun m => exists_congr fun t => and_congr_right fun hm =>
      and_congr_right fun _ => ?_
    obtain ⟨hserver, hclock⟩ := hconnection m hm
    rw [← awaitState_succeeds_iff_sees, ← hserver, ← hclock]
    rfl
  · intro m t hm hchange
    obtain ⟨old, hold, hwrote⟩ := Manager.change_wrote (hconnection m hm).1 hchange
    exact ⟨old, hold, hwrote.stored⟩

/-- The manifest of a cluster whose job was applied and runs. -/
def busyManifest : Value :=
  .map [("kind", .text Deployment.kind), ("metadata", .map [("name", .text "basic")]),
    ("spec", .map [("flinkVersion", .text "v1_15"),
      ("job", .map [("jarURI", .text "local:///job.jar")])]),
    ("status", .map [("jobStatus", .map [("state", .text "RUNNING")]),
      ("reconciliationStatus", .map [("lastReconciledSpec", .text "\x7b\"job\": \x7b\x7d\x7d")])])]

/-- A server with the cluster, whose job never leaves its state. -/
def busyServer : Server where
  resources := [⟨Deployment.plural, .text "default", .text "basic", busyManifest⟩]

/-- The command line waits for five seconds, `Misses` the state, and succeeds. -/
theorem missed_state_succeeds :
    Invocation.ofWords ["suspend", "basic", "--wait", "--timeout", "5"] =
        .ok { command := .suspend "basic" (some 5) } ∧
      Waits (.suspend "basic" (some 5)) "basic" .suspended 5 ∧
      ((setting [] none).run ["suspend", "basic", "--wait", "--timeout", "5"] busyServer).1 =
        .success ∧
      ∃ (m : Manager Server) (t : Server),
        (setting [] none).manager { command := .suspend "basic" (some 5) } = .ok m ∧
        (m.change "basic" (Manager.jobChange "state"
          (.text (Enumeration.written JobState.suspended)))).runOn busyServer = (.ok (), t) ∧
        t.Misses (.text "default") (.text "basic") (.text "SUSPENDED") (t.now + 1000 * 5) ∧
        ¬ t.Sees (.text "default") (.text "basic") (.text "SUSPENDED") (t.now + 1000 * 5) := by
  have hwords : Invocation.ofWords ["suspend", "basic", "--wait", "--timeout", "5"] =
      .ok { command := .suspend "basic" (some 5) } := rfl
  have hwaits : Waits (.suspend "basic" (some 5)) "basic" .suspended 5 := .suspend "basic" 5
  have hsuccess : ((setting [] none).run ["suspend", "basic", "--wait", "--timeout", "5"]
      busyServer).1 = .success := by decide +kernel
  obtain ⟨m, t, hm, hchange, hseen⟩ :=
    (waiting_command_succeeds_iff [] none hwords hwaits busyServer).1.1 hsuccess
  have hunseen : ¬ t.Sees (.text "default") (.text "basic") (.text "SUSPENDED")
      (t.now + 1000 * 5) := by
    rintro ⟨look, _, hlook, -, -, hshown, -⟩
    -- there is time for a single look, which finds the job running
    rw [lt_deadline_iff] at hlook
    obtain rfl : look = 0 := by omega
    have hmanager : (setting [] none).manager { command := .suspend "basic" (some 5) } =
        .ok ⟨connection (.text "default"), Registry.create [] [], clock⟩ := rfl
    rw [hmanager, Except.ok.injEq] at hm
    subst hm
    have hafter := congrArg Prod.snd hchange
    dsimp only at hafter
    rw [← hafter] at hshown
    exact absurd hshown (by decide +kernel)
  exact ⟨hwords, hwaits, hsuccess, m, t, hm, hchange, hseen.resolve_left hunseen, hunseen⟩

end FlinkSteward
