import FlinkSteward.Proofs.Number.Bound
import FlinkSteward.Proofs.Observe.Timed

/-!
# Periodic savepoints keep their distance

A periodic savepoint is asked for when the interval has passed since the last one, and its own time is
that of its completion, which comes later. In between nothing moves the time of the last one, so that
the distance between two of them is never less than the interval, whatever else happens meanwhile.

## Key results

- `Since`: a moment lies so many milliseconds back
- `SavepointInfo.Turn`: what one action does to the savepoints of a job
- `SavepointInfo.Spaced.turn`: what one action preserves
- `Timeline`: passes, requests and stops in any order, in a world with a clock
- `Timeline.spaced`: what all of them preserve
- `periodic_savepoints_apart`: the times of periodic savepoints
-/

namespace FlinkSteward

/-! ## Distances -/

/-- The moment lies at least `millis` milliseconds before the time. -/
def Since (moment : Value) (millis time : Int) : Prop :=
  ∃ n, moment.number? = some n ∧ n.le (.int (time - millis)) = true

theorem Since.mono {moment : Value} {millis time time' : Int} (h : Since moment millis time)
    (hle : time ≤ time') : Since moment millis time' := by
  obtain ⟨n, hn, h⟩ := h
  exact ⟨n, hn, Number.le_int_of_le h (by omega)⟩

theorem since_int_iff {moment millis time : Int} :
    Since (.int moment) millis time ↔ moment + millis ≤ time := by
  simp only [Since, Value.number?, Option.some.injEq, exists_eq_left', Number.int_le_int_iff]
  omega

/-- What is `elapsed` since the moment is at least an interval of `millis` milliseconds, which is
taken as a double, only when it is at least that number. -/
def CountsFrom (moment : Value) (millis : Int) : Prop :=
  ∀ {now : Int} {past : Number}, elapsed (.int now) moment = .ok past →
    (Number.real (⟨1000 * millis⟩ : Duration).millis).le past = true → Since moment millis now

/-- Between whole numbers `CountsFrom` holds for 35,000 years. -/
theorem countsFrom_int {millis : Int} (hpos : 0 < millis) (hbound : millis ≤ 2 ^ 50) (moment : Int) :
    CountsFrom (.int moment) millis := by
  intro now past hpast hle
  obtain rfl : Number.int (now - moment) = past := Except.ok.inj hpast
  have hmillis := Duration.le_of_millis_le hpos hbound hle
  exact since_int_iff.2 (by omega)

/-- `isPeriodicDue` is true only when the interval has passed (`Since`). -/
theorem since_of_isPeriodicDue {info : SavepointInfo} {conf : Config} {millis now : Int}
    (hconf : conf.duration Config.savepointIntervalKey ⟨0⟩ = .ok ⟨1000 * millis⟩)
    (hcounts : CountsFrom info.lastPeriodicTimestamp millis)
    (h : isPeriodicDue info conf (.int now) = .ok true) :
    Since info.lastPeriodicTimestamp millis now := by
  rw [isPeriodicDue, hconf] at h
  change (if _ then _ else _) = _ at h
  split at h
  · exact nomatch h
  · cases hpast : elapsed (.int now) info.lastPeriodicTimestamp with
    | error f =>
      rw [hpast] at h
      exact nomatch h
    | ok past =>
      rw [hpast] at h
      exact hcounts hpast (Except.ok.inj h)

/-! ## What an action does to savepoints -/

namespace SavepointInfo

/-- What a pass, a request or a stop between two times makes of the savepoints of a job: a `Course`,
or one of those. -/
inductive Turn (millis start stop : Int) (s : SavepointInfo) : SavepointInfo → Prop where
  | passed {t : SavepointInfo} (h : s.Course start stop t) : Turn millis start stop s t
  /-- One is asked for, and a periodic one only when the interval has passed. -/
  | begun (id : Option Value) (trigger : SavepointTrigger)
    (hdue : trigger = .periodic → Since s.lastPeriodicTimestamp millis stop) (time : Value) :
    Turn millis start stop s (s.begin id trigger time)
  | stopped (time place : Value) (limit : Option Int) :
    Turn millis start stop s (s.complete { timeStamp := time, location := some place } limit)

/-- A part of a run: the time and the savepoints when it begins and when it ends. -/
structure Stage where
  start : Int
  stop : Int
  before : SavepointInfo
  after : SavepointInfo

/-- A periodic savepoint is recorded, with a time from this stage. -/
def Stage.Takes (g : Stage) (time : Int) : Prop :=
  g.before.isPending = true ∧ g.before.triggerType = some .periodic ∧
    g.start ≤ time ∧ time ≤ g.stop ∧ ∃ place limit,
      g.after = g.before.complete
        { timeStamp := .int time, location := place, trigger := .periodic } limit

theorem Stage.Takes.lastPeriodicTimestamp {g : Stage} {time : Int} (h : g.Takes time) :
    g.after.lastPeriodicTimestamp = .int time := by
  obtain ⟨-, -, -, -, place, limit, hafter⟩ := h
  rw [hafter]
  rfl

/-- `lastPeriodicTimestamp` moves with the record of a periodic savepoint (`Takes`), and with nothing
else. -/
def Stage.Steady (g : Stage) : Prop :=
  g.after.lastPeriodicTimestamp = g.before.lastPeriodicTimestamp ∨ ∃ time, g.Takes time

/-- A savepoint that is recorded is not periodic, or is one of those that are spaced. -/
def Stage.Told (g : Stage) : Prop :=
  g.after.lastSavepoint = g.before.lastSavepoint ∧ g.after.history = g.before.history ∨
    ∃ p : Savepoint, g.after.lastSavepoint = some p ∧
      (p.trigger = .periodic → ∃ time, p.timeStamp = .int time ∧ g.Takes time)

/-- Periodic savepoints that the stages take are `millis` milliseconds apart, and from a moment before
all of them. The latest stage comes first. -/
structure Apart (millis : Int) (first : Value) (stages : List Stage) : Prop where
  /-- Any two of them. -/
  apart : stages.Pairwise fun later earlier =>
    ∀ {time past}, later.Takes time → earlier.Takes past → past + millis ≤ time
  fromFirst : ∀ g ∈ stages, ∀ {time}, g.Takes time → Since first millis time
  steady : ∀ g ∈ stages, g.Steady
  told : ∀ g ∈ stages, g.Told

variable {millis start stop : Int} {s t : SavepointInfo}

private theorem periodic_of_getD (h : s.triggerType.getD .unknown = .periodic) :
    s.triggerType = some .periodic := by
  cases htype : s.triggerType with
  | none => exact nomatch htype ▸ h
  | some trigger => rw [htype] at h; exact congrArg some h

theorem Turn.steady (h : s.Turn millis start stop t) : Stage.Steady ⟨start, stop, s, t⟩ := by
  cases h with
  | begun => exact .inl rfl
  | stopped => exact .inl rfl
  | passed h =>
    cases h with
    | same => exact .inl rfl
    | dated => exact .inl rfl
    | cleared => exact .inl rfl
    | taken hpending hstart hstop place limit =>
      by_cases htype : s.triggerType = some .periodic
      · exact .inr ⟨_, hpending, htype, hstart, hstop, place, limit, by rw [htype]; rfl⟩
      · exact .inl (if_neg fun hperiodic => htype (periodic_of_getD hperiodic))

theorem Turn.told (h : s.Turn millis start stop t) : Stage.Told ⟨start, stop, s, t⟩ := by
  cases h with
  | begun => exact .inl ⟨rfl, rfl⟩
  | stopped => exact .inr ⟨_, rfl, nofun⟩
  | passed h =>
    cases h with
    | same => exact .inl ⟨rfl, rfl⟩
    | dated => exact .inl ⟨rfl, rfl⟩
    | cleared => exact .inl ⟨rfl, rfl⟩
    | taken hpending hstart hstop place limit =>
      refine .inr ⟨_, rfl, fun hperiodic => ⟨_, rfl, hpending, periodic_of_getD hperiodic, hstart,
        hstop, place, limit, ?_⟩⟩
      exact congrArg (fun trigger => s.complete ⟨_, place, trigger⟩ limit) hperiodic

/-! ## Runs -/

/-- What holds all along: a periodic savepoint that is pending was due when it was asked for, counted
from the last one, and that one is the latest of those that were recorded. -/
structure Spaced (millis : Int) (first : Value) (stages : List Stage) (s : SavepointInfo) (now : Int) :
    Prop extends Apart millis first stages where
  ripe : s.isPending = true → s.triggerType = some .periodic →
    Since s.lastPeriodicTimestamp millis now
  since : s.lastPeriodicTimestamp = first ∨
    ∃ last, s.lastPeriodicTimestamp = .int last ∧ Since first millis last
  reached : ∀ g ∈ stages, ∀ {time}, g.Takes time →
    ∃ last, s.lastPeriodicTimestamp = .int last ∧ time ≤ last

namespace Spaced

variable {first : Value} {stages : List Stage} {now : Int}

theorem nil (hidle : s.isPending = false) : Spaced millis s.lastPeriodicTimestamp [] s now where
  apart := .nil
  fromFirst _ hg := nomatch hg
  steady _ hg := nomatch hg
  told _ hg := nomatch hg
  ripe hpending := nomatch hidle.symm.trans hpending
  since := .inl rfl
  reached _ hg := nomatch hg

variable (h : Spaced millis first stages s now)

include h

/-- The exact comparison (`CountsFrom`) is all that counts, from the start or from a savepoint of the
run. -/
theorem countsFrom (hfirst : CountsFrom first millis) (hints : ∀ m : Int, CountsFrom (.int m) millis) :
    CountsFrom s.lastPeriodicTimestamp millis := by
  rcases h.since with hsame | ⟨last, hlast, -⟩
  · rwa [hsame]
  · rw [hlast]
    exact hints last

theorem since_takes (hpos : 0 < millis) {time : Int} (htakes : Stage.Takes ⟨now, stop, s, t⟩ time) :
    Since first millis time ∧
      ∀ last, s.lastPeriodicTimestamp = .int last → last + millis ≤ time := by
  obtain ⟨hpending, htype, hbegun, -⟩ := htakes
  have hripe := (h.ripe hpending htype).mono hbegun
  have hfar : ∀ last, s.lastPeriodicTimestamp = .int last → last + millis ≤ time := by
    intro last hlast
    rw [hlast] at hripe
    exact since_int_iff.1 hripe
  refine ⟨?_, hfar⟩
  rcases h.since with hsame | ⟨last, hlast, hsince⟩
  · rwa [hsame] at hripe
  · have := hfar last hlast
    exact hsince.mono (by omega)

/-- One action, a `Turn`, preserves `Spaced`. -/
theorem turn (hpos : 0 < millis) (hnow : now ≤ stop) (hturn : s.Turn millis now stop t) :
    Spaced millis first (⟨now, stop, s, t⟩ :: stages) t stop where
  apart := by
    -- the last periodic savepoint is later than all others, and the new one is far from it
    refine .cons (fun g hg time past htime hpast => ?_) h.apart
    obtain ⟨last, hlast, hle⟩ := h.reached g hg hpast
    have := (h.since_takes hpos htime).2 last hlast
    omega
  fromFirst :=
    List.forall_mem_cons.2 ⟨fun htime => (h.since_takes hpos htime).1, h.fromFirst⟩
  steady := List.forall_mem_cons.2 ⟨hturn.steady, h.steady⟩
  told := List.forall_mem_cons.2 ⟨hturn.told, h.told⟩
  ripe hpending htype := by
    cases hturn with
    | begun id trigger hdue time => exact hdue (Option.some.inj htype)
    | stopped => exact nomatch hpending
    | passed hcourse =>
      cases hcourse with
      | same => exact (h.ripe hpending htype).mono hnow
      | dated => exact (h.ripe hpending htype).mono hnow
      | cleared => exact nomatch hpending
      | taken => exact nomatch hpending
  since := by
    rcases hturn.steady with hsame | ⟨time, htime⟩
    · rw [show t.lastPeriodicTimestamp = s.lastPeriodicTimestamp from hsame]
      exact h.since
    · exact .inr ⟨time, htime.lastPeriodicTimestamp, (h.since_takes hpos htime).1⟩
  reached := by
    refine List.forall_mem_cons.2 ⟨fun htime => ⟨_, htime.lastPeriodicTimestamp, le_rfl⟩, ?_⟩
    intro g hg time htime
    obtain ⟨last, hlast, hle⟩ := h.reached g hg htime
    rcases hturn.steady with hsame | ⟨new, hnew⟩
    · exact ⟨last, Eq.trans hsame hlast, hle⟩
    · have := (h.since_takes hpos hnew).2 last hlast
      exact ⟨new, hnew.lastPeriodicTimestamp, by omega⟩

end Spaced

end SavepointInfo

open SavepointInfo

/-! ## Requests and stops -/

section Actions

variable {ρ σ : Type} [Resource ρ] {time : σ → Int} {o : Operator σ} {conf : Config}

/-- `Operator.findDue` finds a periodic savepoint by the time that was read. -/
theorem Operator.isPeriodicDue_of_findDue {r : ρ} {w v : σ}
    (h : (o.findDue conf r).runOn w = (.ok (some .periodic), v)) :
    ∃ now, o.now.runOn w = (.ok now, v) ∧
      isPeriodicDue (Resource.job r).savepoints conf (.int now) = .ok true := by
  rw [findDue] at h
  cases hask : Resource.askable r with
  | none =>
    rw [hask] at h
    cases h
  | some job =>
    rw [hask] at h
    obtain ⟨applied, u, happlied, h⟩ := Action.runOn_bind_eq_ok.1 h
    obtain ⟨-, rfl⟩ := Action.runOn_ofOutcome_eq_ok.1 happlied
    obtain ⟨now, x, hnow, h⟩ := Action.runOn_bind_eq_ok.1 h
    obtain ⟨hdue, rfl⟩ := Action.runOn_ofOutcome_eq_ok.1 h
    refine ⟨now, hnow, ?_⟩
    rw [dueTrigger] at hdue
    split at hdue
    · -- a manual savepoint comes first, and it is not periodic
      cases hdue
    · cases hperiodic : isPeriodicDue (Resource.job r).savepoints conf (.int now) with
      | error f =>
        rw [hperiodic] at hdue
        cases hdue
      | ok due =>
        cases due with
        | true => rfl
        | false =>
          rw [hperiodic] at hdue
          cases hdue

/-- The clock goes on, and the savepoints of the job take a `Turn` meanwhile. -/
def Turns (time : σ → Int) (millis : Int) (s t : ρ × σ) : Prop :=
  time s.2 ≤ time t.2 ∧
    (Resource.job s.1).savepoints.Turn millis (time s.2) (time t.2) (Resource.job t.1).savepoints

theorem Courses.turns {millis : Int} {s t : ρ × σ} (h : Courses time s t) : Turns time millis s t :=
  ⟨h.1, .passed h.2⟩

theorem Operator.Clocked.findDue (h : o.Clocked time) (conf : Config) (r : ρ) :
    (o.findDue conf r).Along fun w v => time w ≤ time v := by
  rw [Operator.findDue]
  split
  · exact .pure none
  · exact .bind (.ofOutcome _) fun _ => .bind h.now fun _ => .ofOutcome _

theorem Operator.Clocked.triggerIfDue [RecordedResource ρ] {millis : Int} (h : o.Clocked time)
    (hconf : conf.duration Config.savepointIntervalKey ⟨0⟩ = .ok ⟨1000 * millis⟩) {s : ρ × σ}
    (hcounts : CountsFrom (Resource.job s.1).savepoints.lastPeriodicTimestamp millis) :
    Turns time millis s ((o.triggerIfDue conf).runOn s).2 := by
  obtain ⟨r, w⟩ := s
  have hfind := h.findDue conf r w
  rw [Operator.triggerIfDue_runOn]
  rcases hdue : (o.findDue conf r).runOn w with ⟨_ | _ | trigger, v⟩ <;> rw [hdue] at hfind
  · exact (Courses.of_same hfind rfl).turns
  · exact (Courses.of_same hfind rfl).turns
  have hask := h.requestSavepoint conf (Resource.job r).jobIdValue v
  dsimp only
  rcases hrequest : (o.requestSavepoint conf (Resource.job r).jobIdValue).runOn v with ⟨_ | id, u⟩ <;>
    rw [hrequest] at hask
  · exact (Courses.of_same (hfind.trans hask) rfl).turns
  have hnow := h.now u
  dsimp only
  rcases hread : o.now.runOn u with ⟨_ | now, x⟩ <;> rw [hread] at hnow
  · exact (Courses.of_same ((hfind.trans hask).trans hnow) rfl).turns
  refine ⟨(hfind.trans hask).trans hnow, ?_⟩
  dsimp only
  rw [Resource.job_requested]
  -- a periodic savepoint was due by a time that was read before the request
  refine .begun _ _ ?_ _
  rintro rfl
  obtain ⟨looked, hlooked, hperiodic⟩ := Operator.isPeriodicDue_of_findDue hdue
  exact (since_of_isPeriodicDue hconf hcounts hperiodic).mono
    ((h.reads hlooked).2.trans (hask.trans hnow))

theorem Operator.Clocked.suspend [LawfulResource ρ] {millis : Int} (h : o.Clocked time)
    (mode : UpgradeMode) (conf : Config) (s : ρ × σ) :
    Turns time millis s ((o.suspend mode conf).runOn s).2 := by
  obtain ⟨r, w⟩ := s
  have hstop := h.stopJob conf (Resource.job r).jobIdValue mode w
  rw [Operator.suspend_runOn]
  rcases hrun : (o.stopJob (Resource.job r).jobIdValue mode conf).runOn w with ⟨_ | place, v⟩ <;>
    rw [hrun] at hstop
  · exact (Courses.of_same hstop rfl).turns
  have hnow := h.now v
  dsimp only
  rcases hread : o.now.runOn v with ⟨_ | now, u⟩ <;> rw [hread] at hnow
  · exact (Courses.of_same (hstop.trans hnow) rfl).turns
  refine ⟨hstop.trans hnow, ?_⟩
  dsimp only
  rw [LawfulResource.job_withJob]
  -- a stop without a savepoint leaves what is recorded
  by_cases hplace : place = .null
  · subst hplace
    exact .passed .same
  · rw [JobStatus.stopped_of_ne hplace]
    exact .stopped _ _ _

end Actions

/-! ## Timelines -/

variable {ρ σ : Type} [Resource ρ] {time : σ → Int} {millis : Int}

/-- The stage of a run between two states. -/
def SavepointInfo.Stage.between (time : σ → Int) (s t : ρ × σ) : Stage where
  start := time s.2
  stop := time t.2
  before := (Resource.job s.1).savepoints
  after := (Resource.job t.1).savepoints

/-- A pass, a request for a savepoint that is due every so many milliseconds, or a stop, by any operator
in a world with a clock; or anything else that leaves the savepoints of the job. -/
inductive Happens (time : σ → Int) (millis : Int) (Look : ρ × σ → ρ × σ → Prop) (s : ρ × σ) :
    ρ × σ → Prop where
  | looked {t : ρ × σ} (h : Look s t) : Happens time millis Look s t
  | triggered {o : Operator σ} (ho : o.Clocked time) {conf : Config}
    (hconf : conf.duration Config.savepointIntervalKey ⟨0⟩ = .ok ⟨1000 * millis⟩) :
    Happens time millis Look s ((o.triggerIfDue conf).runOn s).2
  | suspended {o : Operator σ} (ho : o.Clocked time) (mode : UpgradeMode) (conf : Config) :
    Happens time millis Look s ((o.suspend mode conf).runOn s).2
  | waited {t : ρ × σ} (htime : time s.2 ≤ time t.2)
    (hsame : (Resource.job t.1).savepoints = (Resource.job s.1).savepoints) :
    Happens time millis Look s t

/-- What `Happens` in any order, with the stages of it, the latest one first. -/
inductive Timeline (time : σ → Int) (millis : Int) (Look : ρ × σ → ρ × σ → Prop) (start : ρ × σ) :
    List Stage → ρ × σ → Prop where
  | start : Timeline time millis Look start [] start
  | next {stages : List Stage} {s t : ρ × σ} (h : Timeline time millis Look start stages s)
    (hnext : Happens time millis Look s t) :
    Timeline time millis Look start (.between time s t :: stages) t

/-- What `Happens` turns the savepoints (`Turns`), if passes let them take their `Courses`. -/
theorem Happens.turns [RecordedResource ρ] {Look : ρ × σ → ρ × σ → Prop}
    (hlook : ∀ {s t}, Look s t → Courses time s t) {s t : ρ × σ}
    (h : Happens time millis Look s t)
    (hcounts : CountsFrom (Resource.job s.1).savepoints.lastPeriodicTimestamp millis) :
    Turns time millis s t := by
  cases h with
  | looked h => exact (hlook h).turns
  | triggered ho hconf => exact ho.triggerIfDue hconf hcounts
  | suspended ho mode conf => exact ho.suspend mode conf s
  | waited htime hsame => exact (Courses.of_same htime hsame).turns

theorem Timeline.spaced [RecordedResource ρ] {Look : ρ × σ → ρ × σ → Prop}
    (hlook : ∀ {s t}, Look s t → Courses time s t) (hpos : 0 < millis)
    (hints : ∀ m : Int, CountsFrom (.int m) millis) {start s : ρ × σ} {stages : List Stage}
    (hidle : (Resource.job start.1).savepoints.isPending = false)
    (hfirst : CountsFrom (Resource.job start.1).savepoints.lastPeriodicTimestamp millis)
    (h : Timeline time millis Look start stages s) :
    Spaced millis (Resource.job start.1).savepoints.lastPeriodicTimestamp stages
      (Resource.job s.1).savepoints (time s.2) := by
  induction h with
  | start => exact .nil hidle
  | next _ hnext ih =>
    obtain ⟨hclock, hturn⟩ := hnext.turns hlook (ih.countsFrom hfirst hints)
    exact ih.turn hpos hclock hturn

/-- On every `Timeline` of passes, requests and stops, by whatever operators and clusters, periodic
savepoints are `Apart`: the times of any two of them are at least the interval apart, and that of the
first one from the time of the last one before the run. Nothing but the record of a periodic savepoint
moves `lastPeriodicTimestamp`. -/
theorem periodic_savepoints_apart (hpos : 0 < millis)
    (hints : ∀ m : Int, CountsFrom (.int m) millis) :
    (∀ {start d : Deployment × σ} {stages : List Stage},
      Timeline time millis (Deployment.Seen time) start stages d →
      start.1.status.job.savepoints.isPending = false →
      CountsFrom start.1.status.job.savepoints.lastPeriodicTimestamp millis →
        Apart millis start.1.status.job.savepoints.lastPeriodicTimestamp stages) ∧
    (∀ {start j : SessionJob × σ} {stages : List Stage},
      Timeline time millis (SessionJob.Seen time) start stages j →
      start.1.status.job.savepoints.isPending = false →
      CountsFrom start.1.status.job.savepoints.lastPeriodicTimestamp millis →
        Apart millis start.1.status.job.savepoints.lastPeriodicTimestamp stages) :=
  ⟨fun h hidle hfirst => (h.spaced Deployment.Seen.courses hpos hints hidle hfirst).toApart,
    fun h hidle hfirst => (h.spaced SessionJob.Seen.courses hpos hints hidle hfirst).toApart⟩

/-- A cluster that takes a savepoint as soon as it is asked for. -/
def promptClient : Client (Int × Files) where
  listJobs := pure [⟨.text "a1", .text "job", .text "RUNNING", .int 0⟩]
  cancel _ := pure ()
  stopWithSavepoint _ _ _ := pure .null
  triggerSavepoint _ _ _ := pure (.text "t1")
  savepointStatus _ _ := pure (.completed (.text "file:///savepoints/1"))
  close := pure ()

/-- An operator of such clusters, whose clock moves on whenever it is read. -/
def promptOperator : Operator (Int × Files) where
  settings := {}
  defaults := []
  kubernetes := ⟨.null, fun _ => .fail (.api 404)⟩
  connect _ := pure promptClient
  now := .ofRun fun w => (.ok w.1, w.1 + 1, w.2)
  uptime := .read fun w => .ofRatio w.1 1000
  files := .second

theorem promptOperator_clocked : promptOperator.Clocked Prod.fst where
  send _ _ := Int.le_refl _
  connect _ _ := Int.le_refl _
  client h := by
    obtain ⟨rfl, -⟩ := Action.runOn_pure_eq_ok.1 h
    exact ⟨fun _ => Int.le_refl _, fun _ _ => Int.le_refl _, fun _ _ _ _ => Int.le_refl _,
      fun _ _ _ _ => Int.le_refl _, fun _ _ _ => Int.le_refl _, fun _ => Int.le_refl _⟩
  now w := Int.le_add_one (Int.le_refl w.1)
  uptime _ := Int.le_refl _
  files _ _ := Int.le_refl _
  reads h := by
    cases h
    exact ⟨Int.le_refl _, Int.le_add_one (Int.le_refl _)⟩

/-- A configuration with a periodic savepoint every minute. -/
def everyMinute : Config :=
  [(Config.savepointIntervalKey, .text "1 min")]

/-- A running job on a session cluster that is ready. -/
def steadyJob : SessionJob where
  spec.job := some {}
  status.job.jobId := some "a1"
  status.reconciliation.lastReconciledSpec := some "{}"

/-- A directory in which nothing was generated. -/
def emptyFiles : Files where
  root := ""

/-- A savepoint of a job is asked for at a time. -/
def askedAt (now : Int) (j : SessionJob) : SessionJob × Int × Files :=
  ((promptOperator.triggerIfDue everyMinute).runOn (j, now, emptyFiles)).2

/-- A pass finds it. -/
def savedAt (now : Int) (j : SessionJob) : SessionJob × Int × Files :=
  ((promptOperator.observeSessionJob (some { status.manager := .ready })).runOn (askedAt now j)).2

/-- Two periodic savepoints of the job are at least a minute apart. -/
theorem steadyJob_savepoints_apart :
    let before := (savedAt 60000 steadyJob).1
    ∃ first second : Int,
      before.status.job.savepoints.lastPeriodicTimestamp = .int first ∧
      (savedAt 125000 before).1.status.job.savepoints.lastPeriodicTimestamp = .int second ∧
      Since (.int 0) 60000 first ∧ first + 60000 ≤ second := by
  have hints : ∀ m : Int, CountsFrom (.int m) 60000 := countsFrom_int (by decide) (by decide)
  have hsave : ∀ {stages j now},
      Timeline Prod.fst 60000 (SessionJob.Seen Prod.fst) (steadyJob, 60000, emptyFiles) stages
        (j, now, emptyFiles) →
      Timeline Prod.fst 60000 (SessionJob.Seen Prod.fst) (steadyJob, 60000, emptyFiles)
        (.between Prod.fst (askedAt now j) (savedAt now j) ::
          .between Prod.fst (j, now, emptyFiles) (askedAt now j) :: stages) (savedAt now j) := by
    intro stages j now h
    unfold savedAt askedAt
    exact (h.next (.triggered promptOperator_clocked (by decide +kernel))).next
      (.looked ⟨promptOperator, promptOperator_clocked, _, rfl⟩)
  have hrun := hsave ((hsave .start).next (.waited
    (t := ((savedAt 60000 steadyJob).1, 125000, emptyFiles)) (by decide +kernel) (by dsimp only)))
  have hidle : steadyJob.status.job.savepoints.isPending = false := rfl
  have hzero : steadyJob.status.job.savepoints.lastPeriodicTimestamp = .int 0 := rfl
  have hapart := (periodic_savepoints_apart (by decide) hints).2 hrun hidle (hzero ▸ hints 0)
  -- both passes move the time of the last periodic savepoint, so that both record one
  obtain ⟨hsecond, -, -, hfirst, -⟩ : _ ∧ _ ∧ _ ∧ _ ∧ _ := by
    simpa only [List.forall_mem_cons] using hapart.steady
  obtain ⟨first, hfirst⟩ := hfirst.resolve_left (by decide +kernel)
  obtain ⟨second, hsecond⟩ := hsecond.resolve_left (by decide +kernel)
  have hfar := hapart.fromFirst _ (.tail _ (.tail _ (.tail _ (.head _)))) hfirst
  have happart := (List.pairwise_cons.1 hapart.apart).1 _ (.tail _ (.tail _ (.head _))) hsecond hfirst
  have hlast : ∀ {s t : SessionJob × Int × Files} {time : Int}, Stage.Takes (.between Prod.fst s t) time →
      t.1.status.job.savepoints.lastPeriodicTimestamp = .int time := fun h => h.lastPeriodicTimestamp
  exact ⟨first, second, hlast hfirst, hlast hsecond, hfar, happart⟩

end FlinkSteward
