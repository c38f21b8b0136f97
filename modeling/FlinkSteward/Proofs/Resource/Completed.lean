import FlinkSteward.Resource.Savepoint
import Mathlib.Data.List.DropRight
import Mathlib.Data.List.Infix

/-!
# What is remembered of completed savepoints

Savepoints are recorded one after the other, each with a limit of its own on how many are remembered,
or without one. What is remembered in the end are the latest of those that were there before and of
those that were recorded.

## Key results

- `SavepointInfo.Records`: what is known of a job's savepoints after one of them was recorded
- `SavepointInfo.records_iff`: that is what `SavepointInfo.complete` leaves, and nothing else
- `SavepointInfo.completeAll`: savepoints that are completed in turn
- `SavepointInfo.history_completeAll`: which of them are remembered, for any limits
- `completed_savepoints_are_remembered`: all that is known of a job's savepoints afterwards
-/

namespace FlinkSteward

/-- A savepoint that is completed, and how many are remembered when it is. -/
structure Completion where
  /-- The savepoint. -/
  savepoint : Savepoint
  /-- How many are remembered, or all of them. -/
  limit : Option Int

namespace SavepointInfo

/-- How many of so many entries are left within a limit. -/
def within (limit : Option Int) (count : Nat) : Nat :=
  match limit with
  | none => count
  | some k => min count k.toNat

/-- The savepoints `t` are the savepoints `s` after `p` was recorded once: `p` is the last one and the
newest entry of the history, which loses only its oldest entries beyond the limit; the time of a
periodic one is kept; and nothing is pending. -/
structure Records (limit : Option Int) (p : Savepoint) (s t : SavepointInfo) : Prop where
  last : t.lastSavepoint = some p
  history : t.history <:+ s.history ++ [some p]
  length_history : t.history.length = within limit (s.history.length + 1)
  lastPeriodicTimestamp : t.lastPeriodicTimestamp =
    if p.trigger = .periodic then p.timeStamp else s.lastPeriodicTimestamp
  triggerId : t.triggerId = none
  triggerTimestamp : t.triggerTimestamp = none
  triggerType : t.triggerType = none

/-- Records savepoints one after the other. -/
def completeAll (info : SavepointInfo) (cs : List Completion) : SavepointInfo :=
  cs.foldl (fun info c => info.complete c.savepoint c.limit) info

@[simp] theorem completeAll_nil (info : SavepointInfo) : info.completeAll [] = info := rfl

@[simp] theorem completeAll_cons (info : SavepointInfo) (c : Completion) (cs : List Completion) :
    info.completeAll (c :: cs) = (info.complete c.savepoint c.limit).completeAll cs := rfl

theorem completeAll_concat (info : SavepointInfo) (cs : List Completion) (c : Completion) :
    info.completeAll (cs ++ [c]) = (info.completeAll cs).complete c.savepoint c.limit :=
  List.foldl_append

/-! ## The latest entries -/

/-- How many entries are remembered after completions, of so many before them. -/
def remembered (count : Nat) (cs : List Completion) : Nat :=
  cs.foldl (fun count c => within c.limit (count + 1)) count

@[simp] theorem remembered_cons (count : Nat) (c : Completion) (cs : List Completion) :
    remembered count (c :: cs) = remembered (within c.limit (count + 1)) cs := rfl

theorem within_le (limit : Option Int) (count : Nat) : within limit count ≤ count := by
  cases limit with
  | none => exact Nat.le_refl _
  | some k => exact Nat.min_le_left _ _

/-- No completion adds more than one entry to what is `remembered`. -/
theorem remembered_le (count : Nat) (cs : List Completion) :
    remembered count cs ≤ count + cs.length := by
  induction cs generalizing count with
  | nil => exact Nat.le_refl _
  | cons c cs ih =>
    have hfirst := within_le c.limit (count + 1)
    have hrest := ih (within c.limit (count + 1))
    rw [remembered_cons, List.length_cons]
    omega

/-- The same limit on every completion leaves what is within it `remembered`. -/
theorem remembered_of_limit {k : Int} {cs : List Completion} (h : ∀ c ∈ cs, c.limit = some k)
    (hne : cs ≠ []) (count : Nat) : remembered count cs = min (count + cs.length) k.toNat := by
  -- the first completion brings the number within the limit, and the others keep it there
  have hkeep : ∀ {cs : List Completion} {count : Nat}, (∀ c ∈ cs, c.limit = some k) →
      count ≤ k.toNat → remembered count cs = min (count + cs.length) k.toNat := by
    intro cs
    induction cs with
    | nil =>
      intro count _ hcount
      exact (Nat.min_eq_left hcount).symm
    | cons c cs ih =>
      intro count h hcount
      obtain ⟨hc, hcs⟩ := List.forall_mem_cons.1 h
      rw [remembered_cons, hc, within, ih hcs (Nat.min_le_right _ _), List.length_cons]
      omega
  cases cs with
  | nil => contradiction
  | cons c cs =>
    obtain ⟨hc, hcs⟩ := List.forall_mem_cons.1 h
    rw [remembered_cons, hc, within, hkeep hcs (Nat.min_le_right _ _), List.length_cons]
    omega

theorem lastItems_eq_rtake {α : Type} (limit : Option Int) (items : List α) :
    lastItems limit items = items.rtake (within limit items.length) := by
  cases limit with
  | none => simp [lastItems, within, List.rtake]
  | some k =>
    rw [lastItems, within, List.rtake]
    congr 1
    omega

theorem length_rtake {α : Type} (items : List α) (n : Nat) :
    (items.rtake n).length = min n items.length := by
  rw [List.rtake, List.length_drop]
  omega

/-- `rtake` gives the latest of many entries from a part of them that is long enough. -/
theorem rtake_eq_of_suffix {α : Type} {part items : List α} (h : part <:+ items) {n : Nat}
    (hn : n ≤ part.length) : part.rtake n = items.rtake n := by
  obtain ⟨front, rfl⟩ := h
  rw [List.rtake, List.rtake, List.length_append, Nat.add_sub_assoc hn, List.drop_append,
    Nat.add_sub_cancel_left, List.drop_eq_nil_of_le (Nat.le_add_right _ _), List.nil_append]

/-- `SavepointInfo.complete` is what `Records` a savepoint, and nothing else does. -/
theorem records_iff {limit : Option Int} {p : Savepoint} {s t : SavepointInfo} :
    Records limit p s t ↔ t = s.complete p limit := by
  have hwithin := within_le limit (s.history.length + 1)
  constructor
  · rintro ⟨hlast, hhistory, hlength, hperiodic, hid, htime, htype⟩
    -- a suffix is known from its length
    have hkept : t.history = (s.history ++ [some p]).rtake t.history.length := by
      rw [← rtake_eq_of_suffix hhistory le_rfl, List.rtake, Nat.sub_self, List.drop_zero]
    rw [hlength] at hkept
    cases t
    subst hlast hkept hperiodic hid htime htype
    rw [complete, lastItems_eq_rtake, List.length_append, List.length_singleton]
  · rintro rfl
    have hhistory : (s.complete p limit).history =
        (s.history ++ [some p]).rtake (within limit (s.history.length + 1)) := by
      rw [complete, lastItems_eq_rtake, List.length_append, List.length_singleton]
    refine ⟨rfl, ?_, ?_, rfl, rfl, rfl, rfl⟩
    · rw [hhistory]
      exact List.drop_suffix _ _
    · rw [hhistory, length_rtake, List.length_append, List.length_singleton]
      omega

/-- After `completeAll` the latest entries are in the `history`, of those that were there before and
of those that were recorded. -/
theorem history_completeAll (info : SavepointInfo) (cs : List Completion) :
    (info.completeAll cs).history =
      (info.history ++ cs.map fun c => some c.savepoint).rtake
        (remembered info.history.length cs) := by
  induction cs generalizing info with
  | nil => simp [remembered, List.rtake]
  | cons c cs ih =>
    have hfirst : Records c.limit c.savepoint info (info.complete c.savepoint c.limit) :=
      records_iff.2 rfl
    -- what the first completion forgets is too old to be remembered in the end
    have hsuffix : (info.complete c.savepoint c.limit).history ++ cs.map (fun c => some c.savepoint)
        <:+ info.history ++ (c :: cs).map fun c => some c.savepoint := by
      obtain ⟨forgotten, hforgotten⟩ := hfirst.history
      refine ⟨forgotten, ?_⟩
      rw [← List.append_assoc, hforgotten, List.append_assoc]
      rfl
    rw [completeAll_cons, ih, hfirst.length_history, remembered_cons]
    apply rtake_eq_of_suffix hsuffix
    rw [List.length_append, List.length_map, hfirst.length_history]
    exact remembered_le _ cs

/-! ## The other fields -/

/-- After `completeAll` the `lastPeriodicTimestamp` is that of the latest periodic savepoint. -/
theorem lastPeriodicTimestamp_completeAll (info : SavepointInfo) (cs : List Completion) :
    (info.completeAll cs).lastPeriodicTimestamp =
      ((cs.filter fun c => c.savepoint.trigger = .periodic).getLast?.map
        fun c => c.savepoint.timeStamp).getD info.lastPeriodicTimestamp := by
  -- by induction on the last completion, which counts if it is periodic
  induction cs using List.reverseRecOn with
  | nil => rfl
  | append_singleton cs c ih =>
    rw [completeAll_concat, complete, List.filter_append]
    by_cases hperiodic : c.savepoint.trigger = .periodic
    · simp [hperiodic]
    · simp [hperiodic, ih]

end SavepointInfo

open SavepointInfo

/-- After `SavepointInfo.completeAll`, each savepoint with a limit or without one, the last of them is
`lastSavepoint`, none is pending, and `lastPeriodicTimestamp` is the time of the last periodic one,
whether it is remembered or not. The `history` has the latest of all savepoints, and with the same
limit on each, as many of them as are within it. -/
theorem completed_savepoints_are_remembered (info : SavepointInfo) (cs : List Completion)
    (last : Completion) :
    let after := info.completeAll (cs ++ [last])
    let recorded := (cs ++ [last]).map Completion.savepoint
    after.lastSavepoint = some last.savepoint ∧
      after.triggerId = none ∧ after.triggerTimestamp = none ∧ after.triggerType = none ∧
      after.lastPeriodicTimestamp =
        ((recorded.filter fun s => s.trigger = .periodic).getLast?.map Savepoint.timeStamp).getD
          info.lastPeriodicTimestamp ∧
      after.history <:+ info.history ++ recorded.map some ∧
      ∀ k : Int, (∀ c ∈ cs ++ [last], c.limit = some k) →
        (after.history.length : Int) = min (max k 0) (info.history.length + recorded.length) := by
  intro after recorded
  have hafter : after = (info.completeAll cs).complete last.savepoint last.limit :=
    completeAll_concat info cs last
  -- what is remembered is the end of all that was ever recorded
  have hhistory : after.history =
      (info.history ++ recorded.map some).rtake
        (remembered info.history.length (cs ++ [last])) := by
    rw [List.map_map]
    exact history_completeAll info (cs ++ [last])
  refine ⟨by rw [hafter]; rfl, by rw [hafter]; rfl, by rw [hafter]; rfl, by rw [hafter]; rfl, ?_, ?_,
    fun k hk => ?_⟩
  · rw [List.filter_map, List.getLast?_map, Option.map_map]
    exact lastPeriodicTimestamp_completeAll info (cs ++ [last])
  · rw [hhistory]
    exact List.drop_suffix _ _
  · have hrecorded : recorded.length = (cs ++ [last]).length := List.length_map _
    rw [hhistory, length_rtake, remembered_of_limit hk (by simp),
      @List.length_append _ info.history, List.length_map, ← hrecorded]
    omega

/-- A periodic savepoint, and then another one that takes its place where one is remembered. -/
def displacedCompletions : List Completion :=
  [⟨{ timeStamp := .int 10, trigger := .periodic }, some 1⟩]

/-- The time of a periodic savepoint counts when it is not remembered any more. -/
theorem displaced_savepoint_counts :
    let last : Completion := ⟨{ timeStamp := .int 20, trigger := .manual }, some 1⟩
    let after := SavepointInfo.completeAll {} (displacedCompletions ++ [last])
    (∀ c ∈ displacedCompletions ++ [last], c.limit = some 1) ∧
      after.history.length = 1 ∧ after.lastPeriodicTimestamp = .int 10 := by
  intro last after
  have hlimit : ∀ c ∈ displacedCompletions ++ [last], c.limit = some 1 := by decide
  obtain ⟨-, -, -, -, hperiodic, -, hcount⟩ :=
    completed_savepoints_are_remembered {} displacedCompletions last
  have hone : (after.history.length : Int) = 1 := (hcount 1 hlimit).trans (by decide)
  exact ⟨hlimit, by omega, hperiodic⟩

end FlinkSteward
