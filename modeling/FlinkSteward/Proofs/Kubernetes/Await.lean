import FlinkSteward.Proofs.Simulation.Server
import Mathlib.Logic.Function.Iterate
import Mathlib.Order.Bounds.Defs
import Mathlib.Tactic.Ring

/-!
# Waiting for a state

A wait reads the clock before each look, and looks while there is time, with a pause behind each look. It
ends with the first look that shows the state or fails. Where time passes only in the pauses, the number
of a look says when it was, and the timeout says how many there are.

## Key results

- `Kubernetes.lookFor`, `Kubernetes.beforeLook`: a single look, and the world before it
- `Kubernetes.Paces`: clocks that only pauses move
- `Kubernetes.Paces.runOn_awaitSince_succ`: a step of a wait, which reads the clock
- `Kubernetes.Paces.runOn_awaitState_of_misses`, `Kubernetes.Paces.runOn_awaitState_of_ends`: how a wait
  ends, and after which look
- `Simulation.Server.paces_clock`, `Simulation.Server.lookFor_eq_true`: looks at a server
-/

namespace FlinkSteward

/-! ## Looks -/

namespace Kubernetes

variable {σ : Type}

/-- A single look at a cluster: whether its job is in a state. -/
def lookFor (k : Kubernetes σ) (name state space : Value) : Action σ Bool := do
  let manifest ← k.get Deployment.plural name space
  .ofOutcome (showsState manifest state)

/-- The world before a look, if none of the looks before it ended the wait. -/
def beforeLook (k : Kubernetes σ) (clock : Clock σ) (name state space : Value) (look : Nat) :
    σ → σ :=
  (fun s => ((clock.sleep pollMillis).runOn ((k.lookFor name state space).runOn s).2).2)^[look]

/-- What a look comes to, if none of the looks before it ended the wait. -/
def glance (k : Kubernetes σ) (clock : Clock σ) (name state space : Value) (look : Nat)
    (s : σ) : Outcome Bool :=
  ((k.lookFor name state space).runOn (k.beforeLook clock name state space look s)).1

/-- A clock whose `now` never fails, and that only its `sleep` moves. -/
structure Paces (k : Kubernetes σ) (clock : Clock σ) (time : σ → Int) : Prop where
  now : ∀ s, clock.now.runOn s = (.ok (time s), s)
  fst_sleep : ∀ millis s, ((clock.sleep millis).runOn s).1 = .ok ()
  time_sleep : ∀ millis s, time ((clock.sleep millis).runOn s).2 = time s + millis
  time_lookFor : ∀ name state space s, time ((k.lookFor name state space).runOn s).2 = time s

section Wait

variable {k : Kubernetes σ} {clock : Clock σ} {time : σ → Int} {name state space : Value}
  {seconds start : Int} {steps : Nat} {s : σ}

theorem beforeLook_succ (look : Nat) : k.beforeLook clock name state space (look + 1) s =
    ((clock.sleep pollMillis).runOn
      ((k.lookFor name state space).runOn (k.beforeLook clock name state space look s)).2).2 :=
  Function.iterate_succ_apply' _ look s

variable (h : k.Paces clock time)

include h

/-- Each look comes one pause after the one before it (`beforeLook`). -/
theorem Paces.time_beforeLook (look : Nat) :
    time (k.beforeLook clock name state space look s) = time s + 5000 * look := by
  induction look with
  | zero => simp [beforeLook]
  | succ look ih =>
    rw [beforeLook_succ, h.time_sleep, h.time_lookFor, ih, pollMillis]
    push_cast
    ring

/-- A step of `awaitSince` reads the clock. While there is time it looks at the cluster, and goes on
after a pause if the state is missing. -/
theorem Paces.runOn_awaitSince_succ :
    (k.awaitSince clock name state space (.int seconds) start (steps + 1)).runOn s =
      if time s - start < 1000 * seconds then
        match k.glance clock name state space 0 s with
        | .ok false =>
          (k.awaitSince clock name state space (.int seconds) start steps).runOn
            (k.beforeLook clock name state space 1 s)
        | r => (r, ((k.lookFor name state space).runOn s).2)
      else (.ok false, s) := by
  rw [awaitSince, Action.runOn_bind, h.now]
  dsimp only [isWithin, Value.number?]
  rw [Action.runOn_bind, Action.runOn_ofOutcome]
  by_cases htime : time s - start < 1000 * seconds
  · simp only [htime, decide_true, ↓reduceIte]
    rw [← bind_assoc, ← lookFor, Action.runOn_bind]
    have hglance : k.glance clock name state space 0 s = ((k.lookFor name state space).runOn s).1 :=
      rfl
    rw [hglance]
    rcases hlook : (k.lookFor name state space).runOn s with ⟨_ | shown, t⟩
    · rfl
    cases shown with
    | true => rfl
    | false =>
      -- the pause does not fail, and the rest of the wait comes after it
      have hbefore : k.beforeLook clock name state space 1 s =
          ((clock.sleep pollMillis).runOn t).2 := by
        rw [beforeLook_succ, show k.beforeLook clock name state space 0 s = s from rfl, hlook]
      have hdone := h.fst_sleep pollMillis t
      simp only [Bool.false_eq_true, ↓reduceIte]
      rw [Action.runOn_bind, hbefore]
      rcases hrun : (clock.sleep pollMillis).runOn t with ⟨r, u⟩
      rw [hrun] at hdone
      obtain rfl : r = .ok () := hdone
      rfl
  · simp only [htime, decide_false, Bool.false_eq_true, ↓reduceIte]
    rfl

/-- An `awaitSince` in which every `glance` shows the state to be missing ends when there is no time
for another one. -/
theorem Paces.runOn_awaitSince_of_misses {looks passed : Nat}
    (htime : time s = start + 5000 * passed)
    (hwithin : ∀ look < looks, 5000 * ((passed + look : Nat) : Int) < 1000 * seconds)
    (hover : 1000 * seconds ≤ 5000 * ((passed + looks : Nat) : Int)) (hsteps : looks < steps)
    (hmisses : ∀ look < looks, k.glance clock name state space look s = .ok false) :
    (k.awaitSince clock name state space (.int seconds) start steps).runOn s =
      (.ok false, k.beforeLook clock name state space looks s) := by
  induction looks generalizing s steps passed with
  | zero =>
    obtain ⟨steps, rfl⟩ := Nat.exists_eq_succ_of_ne_zero (Nat.ne_of_gt hsteps)
    have hlate : ¬ time s - start < 1000 * seconds := by omega
    rw [h.runOn_awaitSince_succ, if_neg hlate]
    rfl
  | succ looks ih =>
    obtain ⟨steps, rfl⟩ := Nat.exists_eq_succ_of_ne_zero (Nat.ne_of_gt (Nat.zero_lt_of_lt hsteps))
    have hearly : time s - start < 1000 * seconds := by
      have := hwithin 0 (Nat.succ_pos looks)
      omega
    have hlater : time (k.beforeLook clock name state space 1 s) =
        start + 5000 * (passed + 1 : Nat) := by
      rw [h.time_beforeLook, htime]
      omega
    rw [Nat.forall_lt_succ_left] at hmisses
    rw [h.runOn_awaitSince_succ, if_pos hearly, hmisses.1]
    -- the looks after the first one are those of a wait that goes on after its pause
    refine ih hlater (fun look hlook => ?_) ?_ (Nat.lt_of_succ_lt_succ hsteps) hmisses.2
    · have := hwithin (look + 1) (Nat.succ_lt_succ hlook)
      rwa [show passed + 1 + look = passed + (look + 1) by omega]
    · rwa [show passed + 1 + looks = passed + (looks + 1) by omega]

/-- An `awaitSince` ends with the first `glance` that does not show the state to be missing, if there
is time for it. -/
theorem Paces.runOn_awaitSince_of_ends {look passed : Nat} {r : Outcome Bool}
    (htime : time s = start + 5000 * passed)
    (hwithin : 5000 * ((passed + look : Nat) : Int) < 1000 * seconds) (hsteps : look < steps)
    (hr : r ≠ .ok false) (hend : k.glance clock name state space look s = r)
    (hearlier : ∀ earlier < look, k.glance clock name state space earlier s = .ok false) :
    (k.awaitSince clock name state space (.int seconds) start steps).runOn s =
      (r, ((k.lookFor name state space).runOn (k.beforeLook clock name state space look s)).2) := by
  obtain ⟨steps, rfl⟩ := Nat.exists_eq_succ_of_ne_zero (Nat.ne_of_gt (Nat.zero_lt_of_lt hsteps))
  have hearly : time s - start < 1000 * seconds := by omega
  induction look generalizing s steps passed with
  | zero =>
    rw [h.runOn_awaitSince_succ, if_pos hearly, hend]
    split
    · contradiction
    · rfl
  | succ look ih =>
    have hlater : time (k.beforeLook clock name state space 1 s) =
        start + 5000 * (passed + 1 : Nat) := by
      rw [h.time_beforeLook, htime]
      omega
    rw [Nat.forall_lt_succ_left] at hearlier
    obtain ⟨steps, rfl⟩ :=
      Nat.exists_eq_succ_of_ne_zero (Nat.ne_of_gt (Nat.zero_lt_of_lt (Nat.lt_of_succ_lt_succ hsteps)))
    rw [show passed + (look + 1) = passed + 1 + look by omega] at hwithin
    rw [h.runOn_awaitSince_succ, if_pos hearly, hearlier.1]
    -- the rest is a wait that goes on one pause later
    exact ih hlater hwithin hend hearlier.2 steps (Nat.lt_of_succ_lt_succ hsteps) (by omega)

/-- An `awaitState` that never sees the state ends after the least number of looks that take long
enough, with a pause behind each of them. -/
theorem Paces.runOn_awaitState_of_misses {looks : Nat}
    (hleast : IsLeast {k : Nat | seconds ≤ 5 * (k : Int)} looks)
    (hmisses : ∀ look < looks, k.glance clock name state space look s = .ok false) :
    (k.awaitState clock name state space (.int seconds)).runOn s =
      (.ok false, k.beforeLook clock name state space looks s) := by
  have hover : seconds ≤ 5 * (looks : Int) := hleast.1
  have henough : looks ≤ seconds.toNat :=
    hleast.2 (show seconds ≤ 5 * (seconds.toNat : Int) by omega)
  rw [awaitState, Action.runOn_bind, h.now]
  -- no look was made yet when the wait begins
  have hstart : time s = time s + 5000 * (0 : Nat) := by simp
  refine h.runOn_awaitSince_of_misses hstart (fun look hlook => ?_) ?_
    (show looks < seconds.toNat + 2 by omega) hmisses
  · -- a look before the last one cannot be late
    have hearly : ¬ seconds ≤ 5 * (look : Int) := fun hlate => by
      have := hleast.2 hlate
      omega
    omega
  · omega

/-- An `awaitState` ends with the first `glance` before the timeout that does not show the state to be
missing. -/
theorem Paces.runOn_awaitState_of_ends {look : Nat} {r : Outcome Bool}
    (hwithin : 5 * (look : Int) < seconds) (hr : r ≠ .ok false)
    (hend : k.glance clock name state space look s = r)
    (hearlier : ∀ earlier < look, k.glance clock name state space earlier s = .ok false) :
    (k.awaitState clock name state space (.int seconds)).runOn s =
      (r, ((k.lookFor name state space).runOn (k.beforeLook clock name state space look s)).2) := by
  rw [awaitState, Action.runOn_bind, h.now]
  have hstart : time s = time s + 5000 * (0 : Nat) := by simp
  exact h.runOn_awaitSince_of_ends hstart (by omega) (show look < seconds.toNat + 2 by omega) hr hend
    hearlier

omit h in
/-- There is a least number of looks, five seconds apart, that takes `seconds`. -/
theorem exists_isLeast_looks (seconds : Int) :
    ∃ looks, IsLeast {k : Nat | seconds ≤ 5 * (k : Int)} looks := by
  refine ⟨((seconds + 4) / 5).toNat, ?_, fun k hk => ?_⟩
  · change seconds ≤ 5 * (((seconds + 4) / 5).toNat : Int)
    omega
  · change seconds ≤ 5 * (k : Int) at hk
    omega

omit h in
/-- Either every `glance` before the timeout shows the state to be missing, or there is a first one
that does not. -/
theorem misses_or_ends (seconds : Int) :
    (∀ look : Nat, 5 * (look : Int) < seconds →
      k.glance clock name state space look s = .ok false) ∨
    ∃ look : Nat, 5 * (look : Int) < seconds ∧ k.glance clock name state space look s ≠ .ok false ∧
      ∀ earlier < look, k.glance clock name state space earlier s = .ok false := by
  by_cases hall : ∀ look : Nat, 5 * (look : Int) < seconds →
      k.glance clock name state space look s = .ok false
  · exact .inl hall
  · push Not at hall
    have hfirst := Nat.find_spec hall
    refine .inr ⟨Nat.find hall, hfirst.1, hfirst.2, fun earlier hearlier => ?_⟩
    have hless := Nat.find_min hall hearlier
    push Not at hless
    exact hless (by omega)

/-- An `awaitState` that does not fail sees the state or sees it missing. -/
theorem Paces.awaitState_succeeds_iff :
    (∃ seen, ((k.awaitState clock name state space (.int seconds)).runOn s).1 = .ok seen) ↔
      (∃ look : Nat, 5 * (look : Int) < seconds ∧
        k.glance clock name state space look s = .ok true ∧
        ∀ earlier < look, k.glance clock name state space earlier s = .ok false) ∨
      ∀ look : Nat, 5 * (look : Int) < seconds →
        k.glance clock name state space look s = .ok false := by
  constructor
  · rintro ⟨seen, hseen⟩
    obtain hmisses | ⟨look, hwithin, hne, hearlier⟩ :=
      @misses_or_ends _ k clock name state space s seconds
    · exact .inr hmisses
    · -- a wait that ends with a glance and does not fail has seen the state
      rw [h.runOn_awaitState_of_ends hwithin hne rfl hearlier] at hseen
      rw [show k.glance clock name state space look s = .ok seen from hseen] at hne
      cases seen with
      | false => contradiction
      | true => exact .inl ⟨look, hwithin, hseen, hearlier⟩
  · rintro (⟨look, hwithin, hend, hearlier⟩ | hmisses)
    · exact ⟨true, by rw [h.runOn_awaitState_of_ends hwithin (by simp) hend hearlier]⟩
    · obtain ⟨looks, hleast⟩ := exists_isLeast_looks seconds
      refine ⟨false, ?_⟩
      rw [h.runOn_awaitState_of_misses hleast fun look hlook => hmisses look ?_]
      by_contra hlate
      have := hleast.2 (not_lt.1 hlate)
      omega

end Wait

end Kubernetes

/-! ## Looks at a server -/

namespace Simulation.Server

variable {s : Server} {c name state : Value}

/-- What happens in an `advance` takes no time of its own. -/
theorem now_advance (s : Server) (millis : Int) : (s.advance millis).now = s.now + millis := by
  have hhappen : ∀ (u : Server) (e : Event), (u.happen e).now = u.now := by
    intro u e
    unfold happen
    split <;> rfl
  have hall : ∀ (events : List Event) (u : Server), (events.foldl happen u).now = u.now := by
    intro events
    induction events with
    | nil => exact fun _ => rfl
    | cons e events ih => exact fun u => (ih _).trans (hhappen u e)
  exact hall _ _

/-- `lookFor` is a request, which takes no time. -/
theorem now_lookFor (name state space : Value) (s : Server) :
    (((connection c).lookFor name state space).runOn s).2.now = s.now := by
  have hget : (((connection c).get Deployment.plural name space).runOn s).2.now = s.now := by
    rw [Kubernetes.get, Kubernetes.snd_runOn_orMissing]
    exact now_answer s _
  rw [Kubernetes.lookFor, Action.runOn_bind]
  rcases hrun : ((connection c).get Deployment.plural name space).runOn s with ⟨_ | found, t⟩ <;>
    rw [hrun] at hget <;> exact hget

/-- A server `Paces`: nothing but pauses moves its clock. -/
theorem paces_clock (c : Value) : (connection c).Paces clock Server.now where
  now _ := rfl
  fst_sleep _ _ := rfl
  time_sleep millis s := now_advance s millis
  time_lookFor := now_lookFor

/-- A `lookFor` that shows the state has found a manifest that does. -/
theorem lookFor_eq_true
    (h : (((connection c).lookFor name state .null).runOn s).1 = .ok true) :
    ∃ manifest, s.manifest? Deployment.plural c name = some manifest ∧
      Kubernetes.showsState (some manifest) state = .ok true := by
  rcases hrun : ((connection c).lookFor name state .null).runOn s with ⟨r, t⟩
  rw [hrun] at h
  obtain rfl : r = .ok true := h
  obtain ⟨found, u, hget, hshows⟩ := Action.runOn_bind_eq_ok.1 hrun
  obtain ⟨hshows, -⟩ := Action.runOn_ofOutcome_eq_ok.1 hshows
  cases found with
  | none => simp [Kubernetes.showsState] at hshows
  | some manifest => exact ⟨manifest, (get_eq_ok hget).1, hshows⟩

end Simulation.Server

end FlinkSteward
