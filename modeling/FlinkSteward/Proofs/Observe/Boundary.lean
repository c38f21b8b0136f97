import FlinkSteward.Proofs.Observe.Budget
import Mathlib.Data.List.TakeWhile

/-!
# Budgets at the boundary

A savepoint that is pending for exactly its budget still has time, and a periodic one that is due exactly
now is due. Both are decided by what the milliseconds of a duration become on their way through seconds,
so that they hold when the way back ends at the same number, and else fail at that number: a budget of
1001 milliseconds is over after 1001 of them, and an interval of 2007 has not passed after 2007. All other
times are told right.

## Key results

- `Config.duration_of_text`: what a text means as an entry of a configuration
- `Duration.Expires`, `Duration.Recurs`: how budgets and intervals are judged
- `Duration.Expires.apply_eq`, `Duration.Recurs.apply_eq`: there is one way
- `budget_exact_iff`: when the way is exact
-/

namespace FlinkSteward

open Simulation Text

/-! ## Texts of durations -/

/-- A text that `Duration.ofText` reads has something in it. -/
theorem Duration.isBlankText_of_ofText {text : String} {d : Duration} (h : ofText text = .ok d) :
    isBlankText text = false := by
  by_contra hblank
  rw [Bool.not_eq_false, isBlankText, List.all_eq_true] at hblank
  have hstart : stripStart text.toList = [] := List.dropWhile_eq_nil_iff.2 hblank
  have hnone : stripChars text.toList = [] := by
    rw [stripChars, hstart]
    rfl
  rw [ofText, hnone] at h
  exact nomatch h

/-- `Config.duration` reads such a text wherever it stands. -/
theorem Config.duration_of_text {conf : Config} {key text : String} {d : Duration}
    (h : Duration.ofText text = .ok d) (hvalue : conf.value key = .text text) (default : Duration) :
    conf.duration key default = .ok d := by
  have hblank : isBlankText (Value.text text).shown = false := Duration.isBlankText_of_ofText h
  have hread : Duration.ofValue (.text text) = .ok d := h
  rw [duration, hvalue]
  simp only [hblank, hread, Bool.false_eq_true, if_false]
  rfl

/-! ## Judgements -/

namespace Duration

/-- `Operator.observeSavepoint` gives a savepoint with this budget up that is found pending, and was
asked for at a known time, when `late` holds of the milliseconds that have passed since. -/
def Expires (budget : Duration) (late : Int → Bool) : Prop :=
  ∀ ⦃ρ σ : Type⦄ [Resource ρ] [LawfulResource ρ] (o : Operator σ) (job : Value) (conf : Config) (r : ρ)
    {w v u : σ} {now since : Int},
    (Resource.job r).savepoints.isPending = true →
    (o.pollSavepoint conf job (Value.ofOption (Resource.job r).savepoints.triggerId)).runOn w =
      (.ok .pending, v) →
    o.now.runOn v = (.ok now, u) →
    conf.duration Config.savepointTimeoutKey o.settings.savepointTimeout = .ok budget →
    (Resource.job r).savepoints.triggerTimestamp = some (.int since) →
    (o.observeSavepoint job conf).runOn (r, w) =
      if late (now - since) then
        (.ok (some (savepointTimedOut (Value.ofOption (Resource.job r).savepoints.triggerId) job budget)),
          Resource.withJob r { Resource.job r with savepoints := (Resource.job r).savepoints.clear }, u)
      else (.ok none, r, u)

/-- `isPeriodicDue` holds with this interval when `due` holds of the milliseconds that have passed
since the last periodic savepoint. -/
def Recurs (interval : Duration) (due : Int → Bool) : Prop :=
  ∀ (info : SavepointInfo) (conf : Config) (now : Int) {last : Int},
    conf.duration Config.savepointIntervalKey ⟨0⟩ = .ok interval →
    info.lastPeriodicTimestamp = .int last →
    isPeriodicDue info conf (.int now) = .ok (due (now - last))

/-- A budget `Expires` when more has passed than its `millis`. -/
theorem expires (budget : Duration) :
    budget.Expires fun past => (Number.real budget.millis).lt (.int past) := by
  intro ρ σ _ _ o job conf r w v u now since hpending hpoll hnow hbudget hsince
  exact Operator.observeSavepoint_runOn_of_pending hpending hpoll hnow hbudget hsince

/-- An interval `Recurs` when at least its `millis` have passed. -/
theorem recurs {interval : Duration} (hpos : 0 < interval.micros) :
    interval.Recurs fun past => (Number.real interval.millis).le (.int past) := by
  intro info conf now last hconf hlast
  have hnot : ¬ interval.micros ≤ 0 := by omega
  rw [isPeriodicDue, hconf, hlast]
  show (if _ then _ else _) = _
  rw [if_neg hnot]
  rfl

end Duration

/-! ## One judgement -/

/-- A cluster whose savepoint was asked for at the beginning of time. -/
def firstPending : Deployment :=
  { runningDeployment with
    status.job.savepoints := { triggerId := some (.text "t1"), triggerTimestamp := some (.int 0) } }

/-- What is said about it at a time. -/
def saidAt (now : Int) (conf : Config) (default : Duration) : Outcome (Option String) :=
  (((World.operator (.text "default") { savepointTimeout := default } []).observeSavepoint (.text "a1")
    conf).runOn (firstPending, worldAt now)).1

namespace Duration

theorem Expires.saidAt_eq {budget default : Duration} {late : Int → Bool} {conf : Config}
    (h : budget.Expires late)
    (hconf : conf.duration Config.savepointTimeoutKey default = .ok budget) (now : Int) :
    saidAt now conf default = .ok (if late now then
      some (savepointTimedOut (.text "t1") (.text "a1") budget) else none) := by
  let o := World.operator (.text "default") { savepointTimeout := default } []
  obtain ⟨v, hpoll, hnow⟩ : ∃ v, (o.pollSavepoint conf (.text "a1") (.text "t1")).runOn (worldAt now) =
      (.ok .pending, v) ∧ o.now.runOn v = (.ok now, v) := ⟨_, rfl, rfl⟩
  have hlook := h o (.text "a1") conf firstPending rfl hpoll hnow hconf rfl
  rw [saidAt, hlook, Int.sub_zero]
  cases late now <;> rfl

/-- There is one way in which a budget `Expires`. -/
theorem Expires.apply_eq {budget : Duration} {late late' : Int → Bool} (h : budget.Expires late)
    (h' : budget.Expires late') (past : Int) : late past = late' past := by
  have hsaid : saidAt past [] budget = _ := h.saidAt_eq rfl past
  rw [h'.saidAt_eq rfl past, Except.ok.injEq] at hsaid
  -- something is said exactly when the savepoint is given up
  have hsome := congrArg Option.isSome hsaid
  simpa only [apply_ite Option.isSome, Option.isSome_some, Option.isSome_none, Bool.if_true_left,
    Bool.if_false_right, Bool.and_true, Bool.or_false, Bool.decide_eq_true] using hsome.symm

/-- There is one way in which an interval `Recurs` that a text stands for. -/
theorem Recurs.apply_eq {interval : Duration} {due due' : Int → Bool} {text : String}
    (htext : ofText text = .ok interval) (h : interval.Recurs due) (h' : interval.Recurs due')
    (past : Int) : due past = due' past := by
  have hconf : Config.duration [(Config.savepointIntervalKey, .text text)] Config.savepointIntervalKey
      ⟨0⟩ = .ok interval := Config.duration_of_text htext rfl _
  have hdue := h { lastPeriodicTimestamp := .int 0 } _ past hconf rfl
  rw [h' _ _ past hconf rfl, Int.sub_zero] at hdue
  exact (Except.ok.inj hdue).symm

end Duration

/-! ## The boundary -/

/-- A text of whole milliseconds is read by `Config.duration` as that duration. As a budget it
`Expires`, and as an interval it `Recurs`, by its length as a double. Both do so by its milliseconds
exactly when the double is the same as them, which holds for eighths of a second; otherwise they go
wrong at that very number of milliseconds only, as long as the duration is not huge. -/
theorem budget_exact_iff {text : String} {millis : Int}
    (htext : Duration.ofText text = .ok ⟨1000 * millis⟩) (hpos : 0 < millis) :
    let d : Duration := ⟨1000 * millis⟩
    let length := Number.real d.millis
    (∀ (conf : Config) (key : String) (default : Duration), conf.value key = .text text →
      conf.duration key default = .ok d) ∧
    (d.Expires fun past => length.lt (.int past)) ∧
    (d.Recurs fun past => length.le (.int past)) ∧
    (((d.Expires fun past => millis < past) ∧ d.Recurs fun past => millis ≤ past) ↔
      length.same (.int millis) = true) ∧
    (∀ n : Nat, millis = 125 * n → millis < 2 ^ 53 → length.same (.int millis) = true) ∧
    (millis ≤ 2 ^ 50 → ∀ past ≠ millis, length.lt (.int past) = decide (millis < past) ∧
      length.le (.int past) = decide (millis ≤ past)) := by
  intro d length
  have hexpires : d.Expires fun past => length.lt (.int past) := d.expires
  have hrecurs : d.Recurs fun past => length.le (.int past) :=
    Duration.recurs (show 0 < 1000 * millis by omega)
  refine ⟨fun conf key default hvalue => Config.duration_of_text htext hvalue default, hexpires, hrecurs,
    ⟨?_, ?_⟩, ?_, ?_⟩
  · -- at the number itself the two judgements tell that it is neither less nor more
    rintro ⟨hexpires', hrecurs'⟩
    have hlt : length.lt (.int millis) = decide (millis < millis) :=
      hexpires.apply_eq hexpires' millis
    have hle : length.le (.int millis) = decide (millis ≤ millis) :=
      Duration.Recurs.apply_eq htext hrecurs hrecurs' millis
    simpa [Number.le, hlt] using hle
  · -- all times compare with the same number alike
    intro hsame
    simp only [Number.lt_of_same hsame, Number.le_of_same hsame] at hexpires hrecurs
    exact ⟨hexpires, hrecurs⟩
  · intro n hn hbound
    have hsame := Duration.same_eighths (n := n) (by omega)
    rwa [show (125000 * n : Int) = 1000 * millis by omega, ← hn] at hsame
  · intro hbound past hne
    exact ⟨Duration.millis_lt_of_ne hpos hbound hne, Duration.millis_le_of_ne hpos hbound hne⟩

/-- A savepoint that may be pending for 1001 milliseconds is given up after exactly so many, and
`isPeriodicDue` is false when the 2007 milliseconds of its interval have passed exactly. -/
theorem budget_of_1001_millis_ends_early :
    saidAt 1001 [(Config.savepointTimeoutKey, .text "1001")] ⟨0⟩ =
        .ok (some "Savepoint timed out: trigger t1 of job a1 still pending after 0:00:01.001000") ∧
      isPeriodicDue { lastPeriodicTimestamp := .int 0 } [(Config.savepointIntervalKey, .text "2007 ms")]
        (.int 2007) = .ok false := by
  have hbudget : Duration.ofText "1001" = .ok ⟨1000 * 1001⟩ := by decide +kernel
  have hinterval : Duration.ofText "2007 ms" = .ok ⟨1000 * 2007⟩ := by decide +kernel
  constructor
  · obtain ⟨hconf, hexpires, -⟩ := budget_exact_iff hbudget (by decide)
    rw [hexpires.saidAt_eq (hconf _ _ _ rfl)]
    decide +kernel
  · obtain ⟨hconf, -, hrecurs, -⟩ := budget_exact_iff hinterval (by decide)
    rw [hrecurs _ _ _ (hconf _ _ _ rfl) rfl]
    decide +kernel

end FlinkSteward
