import FlinkSteward.Proofs.Cluster.Rest
import Mathlib.Algebra.Order.Archimedean.Basic
import Mathlib.Data.Rat.Floor
import Mathlib.Tactic.Ring

/-!
# How long a stop waits

A job that is stopped with a savepoint is looked at, with a pause between two looks, until the savepoint
is no longer pending or the pauses have taken all the time there is. By an exact clock, which nothing
but the pauses moves, that is the first look with enough pauses before it.

## Key results

- `Rest.told`: what a look comes to, by its answer
- `Rest.ending`: what a stop comes to, by its last look
- `Rest.awaitSavepoint_runOn`: a wait that has gone on for some looks
- `stop_ends_with_look`: which look is the last one
-/

namespace FlinkSteward

/-- Exact time, in seconds. -/
instance : Time ℚ where
  add a b := a + b
  sub a b := a - b
  atLeast a b := decide (b ≤ a)
  steps span step := ⌈span / step⌉₊
  text := toString

theorem Time.atLeast_sub_iff {a b c : ℚ} : atLeast (sub a b) c = true ↔ c ≤ a - b :=
  decide_eq_true_iff

theorem Time.steps_eq (span step : ℚ) : steps span step = ⌈span / step⌉₊ :=
  rfl

namespace Rest

section Looks

variable {τ : Type}

/-- What a look at a savepoint comes to. -/
def told (s : Settings τ) (job trigger : Value) (a : Http.Answer) : Outcome SavepointPoll := do
  let path := jobPath job ++ "/savepoints/" ++ trigger.shown
  let text ← a.reply ("GET " ++ s.baseUrl ++ path) (Http.addressOf s.baseUrl path none)
  dataOf text >>= pollOf

/-- What a look comes to that comes after so many other requests. -/
def look (s : Settings τ) (job trigger : Value) (n : Network τ) (k : ℕ) : Outcome SavepointPoll :=
  told s job trigger (n.answers (n.sent.length + k))

theorem savepointStatus_runOn (s : Settings τ) (job trigger : Value) (n : Network τ) :
    (savepointStatus s job trigger).runOn n =
      (look s job trigger n 0, n.sending (statusRequest s job trigger)) := by
  rw [savepointStatus, Action.runOn_bind, request_runOn, look, told, Nat.add_zero,
    show "GET" ++ " " = "GET " from rfl]
  rcases (n.answers n.sent.length).reply _ _ with f | text <;> rfl

/-- What a stop comes to with its last look. -/
def ending [Time τ] (s : Settings τ) (job : Value) : Outcome SavepointPoll → Outcome Value
  | .ok (.completed place) => .ok place
  | .ok (.failed cause) => .error (stopFailed job cause)
  | .ok .pending => .error (stopTimedOut s job)
  | .error f => .error f

end Looks

variable {s : Settings ℚ} {job trigger : Value}

/-- The network after so many looks and pauses. -/
def looked (s : Settings ℚ) (job trigger : Value) (looks pauses : ℕ) (n : Network ℚ) :
    Network ℚ where
  answers := n.answers
  sent := n.sent ++ List.replicate looks (statusRequest s job trigger)
  now := n.now + pauses * s.pollInterval

theorem looked_one (n : Network ℚ) :
    looked s job trigger 1 0 n = n.sending (statusRequest s job trigger) := by
  simp [looked, Network.sending]

/-- The network after a look and the pause behind it. -/
def paused (s : Settings ℚ) (job trigger : Value) (n : Network ℚ) : Network ℚ :=
  { n.sending (statusRequest s job trigger) with now := n.now + s.pollInterval }

/-- A look and a pause come before those that are to follow in `looked`. -/
theorem looked_paused (looks pauses : ℕ) (n : Network ℚ) :
    looked s job trigger looks pauses (paused s job trigger n) =
      looked s job trigger (looks + 1) (pauses + 1) n := by
  simp only [looked, paused, Network.sending, Network.mk.injEq, true_and]
  refine ⟨?_, ?_⟩
  · rw [List.append_assoc, List.replicate_succ, List.singleton_append]
  · push_cast
    ring

theorem look_paused (n : Network ℚ) (k : ℕ) :
    look s job trigger (paused s job trigger n) k = look s job trigger n (k + 1) := by
  simp only [look, paused, Network.sending, List.length_append, List.length_singleton,
    Nat.add_assoc, Nat.add_comm 1 k]

variable {start : ℚ} {looks : ℕ} {n : Network ℚ}

/-- `awaitSavepoint` ends with a `look` that does not find the savepoint pending. -/
theorem awaitSavepoint_of_settled (h : look s job trigger n 0 ≠ .ok .pending) :
    (awaitSavepoint s job trigger start (looks + 1)).runOn n =
      (ending s job (look s job trigger n 0), looked s job trigger 1 0 n) := by
  rw [awaitSavepoint, Action.runOn_bind, savepointStatus_runOn, looked_one]
  rcases hlook : look s job trigger n 0 with f | poll
  · rfl
  cases poll with
  | failed cause => rfl
  | completed place => rfl
  | pending => exact absurd hlook h

/-- After a `look` that finds the savepoint pending, `awaitSavepoint` ends when there is no time left,
and else goes on after a pause. -/
theorem awaitSavepoint_of_pending (h : look s job trigger n 0 = .ok .pending) :
    (awaitSavepoint s job trigger start (looks + 1)).runOn n =
      if s.stopTimeout ≤ n.now - start then
        (.error (stopTimedOut s job), looked s job trigger 1 0 n)
      else (awaitSavepoint s job trigger start looks).runOn (paused s job trigger n) := by
  rw [awaitSavepoint, Action.runOn_bind, savepointStatus_runOn, h, looked_one]
  dsimp only
  rw [Action.runOn_bind, Action.runOn_read,
    show (n.sending (statusRequest s job trigger)).now = n.now from rfl]
  simp only [Time.atLeast_sub_iff]
  split <;> rfl

/-- An `awaitSavepoint` with `passed` pauses behind it ends with the first `look` that does not find
the savepoint pending, and with the one that has enough pauses before it at the latest. -/
theorem awaitSavepoint_runOn {last i passed : ℕ}
    (hlast : IsLeast {k : ℕ | s.stopTimeout ≤ k * s.pollInterval} last)
    (hnow : n.now = start + passed * s.pollInterval) (hlooks : last < passed + looks)
    (hi : passed + i ≤ last) (hpending : ∀ k < i, look s job trigger n k = .ok .pending)
    (hend : look s job trigger n i = .ok .pending → passed + i = last) :
    (awaitSavepoint s job trigger start looks).runOn n =
      (ending s job (look s job trigger n i), looked s job trigger (i + 1) i n) := by
  -- there are always looks left, so that it is time that ends the wait
  obtain ⟨looks, rfl⟩ : ∃ more, looks = more + 1 := ⟨looks - 1, by omega⟩
  have helapsed : n.now - start = passed * s.pollInterval := by rw [hnow, add_sub_cancel_left]
  induction i generalizing n passed looks with
  | zero =>
    by_cases hlook : look s job trigger n 0 = .ok .pending
    · -- with this look all the time there is has passed
      obtain rfl : passed = last := hend hlook
      have htime : s.stopTimeout ≤ passed * s.pollInterval := hlast.1
      rw [awaitSavepoint_of_pending hlook, helapsed, if_pos htime, hlook]
      rfl
    · exact awaitSavepoint_of_settled hlook
  | succ i ih =>
    have htime : ¬ s.stopTimeout ≤ passed * s.pollInterval := fun hle => by
      have := hlast.2 hle
      omega
    obtain ⟨looks, rfl⟩ : ∃ more, looks = more + 1 := ⟨looks - 1, by omega⟩
    rw [awaitSavepoint_of_pending (hpending 0 (Nat.succ_pos i)), helapsed, if_neg htime,
      ← look_paused, ← looked_paused]
    have hnow' : (paused s job trigger n).now = start + (passed + 1 : ℕ) * s.pollInterval := by
      simp only [paused, hnow]
      push_cast
      ring
    refine ih hnow' (by omega) (fun k hk => ?_) (fun h => ?_) looks (by omega) ?_
    · rw [look_paused]
      exact hpending (k + 1) (by omega)
    · rw [look_paused] at h
      have := hend h
      omega
    · rw [hnow', add_sub_cancel_left]

/-- Once the savepoint of a stop was asked for, `stopWithSavepoint` is `awaitSavepoint`. -/
theorem stopWithSavepoint_runOn {drain : Bool} {directory : Option String}
    (h : n.Tells (fun v => v.item "request-id") n.sent.length trigger) :
    (stopWithSavepoint s job drain directory).runOn n =
      (awaitSavepoint s job trigger n.now (⌈s.stopTimeout / s.pollInterval⌉₊ + 1)).runOn
        (n.sending (stopRequest s job drain directory)) := by
  obtain ⟨text, hcarried, hread⟩ := h
  rw [stopWithSavepoint, Action.runOn_bind, request_eq_ok.2 ⟨hcarried, rfl⟩]
  dsimp only
  rw [hread, Action.runOn_bind, Action.runOn_ofOutcome]
  dsimp only
  rw [Action.runOn_bind, Action.runOn_read, Time.steps_eq]
  rfl

theorem isLeast_ceil (hpoll : 0 < s.pollInterval) :
    IsLeast {k : ℕ | s.stopTimeout ≤ k * s.pollInterval} ⌈s.stopTimeout / s.pollInterval⌉₊ :=
  ⟨(div_le_iff₀ hpoll).1 (Nat.le_ceil _), fun _ hk => Nat.ceil_le.2 ((div_le_iff₀ hpoll).2 hk)⟩

end Rest

open Rest

/-- `stopWithSavepoint`, once its savepoint was asked for, ends with the first `look` that does not
find it pending, if there is enough time for that look, and is what the look says. If there is not, it
fails with `stopTimedOut`, after the first look that has pauses before it for all the time there is.
In between it sends nothing but looks, with a pause between each two (`looked`). -/
theorem stop_ends_with_look (s : Settings ℚ) (hpoll : 0 < s.pollInterval) (job : Value) (drain : Bool)
    (directory : Option String) {n : Network ℚ} {trigger : Value}
    (htrigger : n.Tells (fun v => v.item "request-id") n.sent.length trigger) :
    ∃ last : ℕ, IsLeast {k : ℕ | s.stopTimeout ≤ k * s.pollInterval} last ∧
      let asked := n.sending (stopRequest s job drain directory)
      (∀ i ≤ last, (∀ k < i, look s job trigger asked k = .ok .pending) →
        look s job trigger asked i ≠ .ok .pending →
          (stopWithSavepoint s job drain directory).runOn n =
            (ending s job (look s job trigger asked i), looked s job trigger (i + 1) i asked)) ∧
      ((∀ k ≤ last, look s job trigger asked k = .ok .pending) →
        (stopWithSavepoint s job drain directory).runOn n =
          (.error (stopTimedOut s job), looked s job trigger (last + 1) last asked)) := by
  have hlast := isLeast_ceil hpoll
  refine ⟨_, hlast, ?_⟩
  rw [stopWithSavepoint_runOn htrigger]
  generalize ⌈s.stopTimeout / s.pollInterval⌉₊ = last at hlast ⊢
  generalize hasked : n.sending (stopRequest s job drain directory) = asked
  -- the wait begins with no pause behind it
  have hnow : asked.now = n.now + (0 : ℕ) * s.pollInterval := by
    rw [← hasked]
    simp [Network.sending]
  have hends : ∀ i ≤ last, (∀ k < i, look s job trigger asked k = .ok .pending) →
      (look s job trigger asked i = .ok .pending → i = last) →
        (awaitSavepoint s job trigger n.now (last + 1)).runOn asked =
          (ending s job (look s job trigger asked i), looked s job trigger (i + 1) i asked) := by
    intro i hi hpending hend
    refine awaitSavepoint_runOn hlast hnow (by omega) (by omega) hpending fun h => ?_
    rw [Nat.zero_add, hend h]
  refine ⟨fun i hi hpending hsettled => hends i hi hpending fun h => absurd h hsettled, ?_⟩
  intro hpending
  have hrun := hends last le_rfl (fun k hk => hpending k hk.le) fun _ => rfl
  rwa [hpending last le_rfl] at hrun

/-- A client that waits for half a minute, with a look every four seconds. -/
def patientSettings : Settings ℚ where
  baseUrl := "http://c-rest.ns:8081"
  timeout := 10
  stopTimeout := 30
  pollInterval := 4

/-- A network in which so many looks find a savepoint pending. -/
def slowNetwork (looks : ℕ) : Network ℚ where
  answers k :=
    if k = 0 then .response 202 "\x7b\"request-id\":\"s1\"\x7d" none
    else if k ≤ looks then .response 200 "\x7b\"status\":\x7b\"id\":\"IN_PROGRESS\"\x7d\x7d" none
    else .response 200 ("\x7b\"status\":\x7b\"id\":\"COMPLETED\"\x7d,\"operation\":" ++
      "\x7b\"location\":\"file:///savepoints/1\"\x7d\x7d") none
  sent := []
  now := 0

/-- A savepoint that takes five looks is waited for, and one that takes a hundred is not. -/
theorem slow_stops_end :
    (∃ m, (stopWithSavepoint patientSettings (.text "a1") false none).runOn (slowNetwork 5) =
        (.ok (.text "file:///savepoints/1"), m) ∧ m.sent.length = 7 ∧ m.now = 20) ∧
      ∃ m, (stopWithSavepoint patientSettings (.text "a1") false none).runOn (slowNetwork 100) =
          (.error (stopTimedOut patientSettings (.text "a1")), m) ∧
        m.sent.length = 10 ∧ m.now = 32 := by
  have hpoll : 0 < patientSettings.pollInterval := by norm_num [patientSettings]
  have htrigger : ∀ looks, (slowNetwork looks).Tells (fun v => v.item "request-id")
      (slowNetwork looks).sent.length (.text "s1") :=
    fun looks => ⟨_, ⟨202, none, rfl, rfl⟩, by decide +kernel⟩
  have hpending : ∀ looks k, k < looks → look patientSettings (.text "a1") (.text "s1")
      ((slowNetwork looks).sending (stopRequest patientSettings (.text "a1") false none)) k =
        .ok .pending := by
    intro looks k hk
    have hanswer : (slowNetwork looks).answers (1 + k) =
        .response 200 "\x7b\"status\":\x7b\"id\":\"IN_PROGRESS\"\x7d\x7d" none := by
      simp only [slowNetwork]
      rw [if_neg (by omega), if_pos (by omega)]
    -- what a look is told depends on its answer alone
    refine (congrArg (told _ _ _) hanswer).trans ?_
    decide +kernel
  have hcompleted : look patientSettings (.text "a1") (.text "s1")
      ((slowNetwork 5).sending (stopRequest patientSettings (.text "a1") false none)) 5 =
        .ok (.completed (.text "file:///savepoints/1")) := by
    decide +kernel
  -- eight pauses of four seconds are the first to take thirty
  have hleast : ∀ last,
      IsLeast {k : ℕ | patientSettings.stopTimeout ≤ k * patientSettings.pollInterval} last →
        last = 8 := by
    intro last h
    refine le_antisymm (h.2 (by norm_num [patientSettings])) ?_
    have hle : (30 : ℚ) ≤ last * 4 := h.1
    have : (30 : ℕ) ≤ last * 4 := by exact_mod_cast hle
    omega
  constructor
  · obtain ⟨last, hlast, hends, -⟩ :=
      stop_ends_with_look patientSettings hpoll (.text "a1") false none (htrigger 5)
    obtain rfl := hleast last hlast
    have hrun := hends 5 (by decide) (hpending 5) (by rw [hcompleted]; decide)
    rw [hcompleted] at hrun
    exact ⟨_, hrun, by decide +kernel,
      by norm_num [looked, Network.sending, slowNetwork, patientSettings]⟩
  · obtain ⟨last, hlast, -, hends⟩ :=
      stop_ends_with_look patientSettings hpoll (.text "a1") false none (htrigger 100)
    obtain rfl := hleast last hlast
    have hrun := hends fun k hk => hpending 100 k (by omega)
    exact ⟨_, hrun, by decide +kernel,
      by norm_num [looked, Network.sending, slowNetwork, patientSettings]⟩

end FlinkSteward
