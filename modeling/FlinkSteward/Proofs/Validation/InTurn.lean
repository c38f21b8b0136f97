import FlinkSteward.Action
import FlinkSteward.Validation.Registry

/-!
# Validators in turn

A registry can be put together in several ways, and what counts is the order in which its validators
were registered. They are asked one after the other: the first that objects has the word, and none is
asked after it. Whether a resource is accepted does not depend on the order, and a validator more
never helps a resource that was refused.

## Key results

- `Registry.Built`: the registries, with their validators in the order of registration
- `runOn_askInTurn`: the judgement, beside the validators that were asked for it
- `judgeInTurn_eq_iff`: the validator that decides
- `validators_judge_in_turn`: the laws of registries, for clusters and for jobs
-/

namespace FlinkSteward

/-! ## Lists of validators -/

/-- Asks validators in turn, and writes down each before it is asked. -/
def askInTurn (judge : Validator → Judgement) :
    List Validator → Action (List Validator) (Option String)
  | [] => pure none
  | v :: rest => do
    Action.change (· ++ [v])
    match ← Action.ofOutcome (judge v) with
    | some reason => return some reason
    | none => askInTurn judge rest

section InTurn

variable {judge : Validator → Judgement} {vs : List Validator}

/-- `askInTurn` gives the judgement of `judgeInTurn`, and has asked the validators of
`consultedInTurn`. -/
theorem runOn_askInTurn (judge : Validator → Judgement) (vs asked : List Validator) :
    (askInTurn judge vs).runOn asked = (judgeInTurn judge vs, asked ++ consultedInTurn judge vs) := by
  induction vs generalizing asked with
  | nil => simp [askInTurn, judgeInTurn, consultedInTurn]
  | cons v rest ih =>
    simp only [askInTurn, judgeInTurn, consultedInTurn, Action.runOn_bind, Action.runOn_change,
      Action.runOn_ofOutcome]
    rcases hv : judge v with f | objection
    · rfl
    · cases objection with
      | some reason => rfl
      | none =>
        -- a validator that accepts passes the word on
        show (askInTurn judge rest).runOn (asked ++ [v]) = _
        rw [ih, List.append_assoc]
        rfl

/-- Behind validators that accept, `judgeInTurn` leaves it to the others. -/
theorem judgeInTurn_append {front : List Validator} (h : ∀ v ∈ front, judge v = .ok none)
    (back : List Validator) : judgeInTurn judge (front ++ back) = judgeInTurn judge back := by
  induction front with
  | nil => rfl
  | cons v front ih =>
    obtain ⟨hv, hfront⟩ := List.forall_mem_cons.1 h
    rw [List.cons_append, judgeInTurn, hv]
    exact ih hfront

/-- `consultedInTurn` begins with validators that accept. -/
theorem consultedInTurn_append {front : List Validator} (h : ∀ v ∈ front, judge v = .ok none)
    (back : List Validator) :
    consultedInTurn judge (front ++ back) = front ++ consultedInTurn judge back := by
  induction front with
  | nil => rfl
  | cons v front ih =>
    obtain ⟨hv, hfront⟩ := List.forall_mem_cons.1 h
    rw [List.cons_append, consultedInTurn, hv]
    exact congrArg (v :: ·) (ih hfront)

/-- The first validator that does not accept decides in `judgeInTurn`, and is the last one in
`consultedInTurn`. -/
theorem inTurn_of_first {front : List Validator} {v : Validator}
    (hfront : ∀ u ∈ front, judge u = .ok none) (hv : judge v ≠ .ok none) (back : List Validator) :
    judgeInTurn judge (front ++ v :: back) = judge v ∧
      consultedInTurn judge (front ++ v :: back) = front ++ [v] := by
  rw [judgeInTurn_append hfront, consultedInTurn_append hfront, judgeInTurn, consultedInTurn]
  rcases hjudge : judge v with f | objection
  · exact ⟨rfl, rfl⟩
  · cases objection with
    | some reason => exact ⟨rfl, rfl⟩
    | none => exact absurd hjudge hv

/-- Unless `judgeInTurn` accepts, there is a first validator that does not. -/
theorem exists_first_of_judgeInTurn_ne (h : judgeInTurn judge vs ≠ .ok none) :
    ∃ front v back, vs = front ++ v :: back ∧ (∀ u ∈ front, judge u = .ok none) ∧
      judge v ≠ .ok none := by
  induction vs with
  | nil => exact absurd rfl h
  | cons v rest ih =>
    by_cases hv : judge v = .ok none
    · rw [judgeInTurn, hv] at h
      obtain ⟨front, u, back, rfl, hfront, hu⟩ := ih h
      exact ⟨v :: front, u, back, rfl, List.forall_mem_cons.2 ⟨hv, hfront⟩, hu⟩
    · exact ⟨[], v, rest, rfl, fun _ hmem => absurd hmem List.not_mem_nil, hv⟩

/-- A judgement of `judgeInTurn` that does not accept is that of the first validator that does not. -/
theorem judgeInTurn_eq_iff {r : Judgement} (hr : r ≠ .ok none) :
    judgeInTurn judge vs = r ↔ ∃ front v back, vs = front ++ v :: back ∧
      (∀ u ∈ front, judge u = .ok none) ∧ judge v = r := by
  constructor
  · intro h
    obtain ⟨front, v, back, rfl, hfront, hv⟩ := exists_first_of_judgeInTurn_ne (h ▸ hr)
    exact ⟨front, v, back, rfl, hfront, by rw [← h, (inTurn_of_first hfront hv back).1]⟩
  · rintro ⟨front, v, back, rfl, hfront, rfl⟩
    exact (inTurn_of_first hfront hr _).1

/-- `consultedInTurn` has all validators when all of them accept. -/
theorem consultedInTurn_of_accept (h : ∀ v ∈ vs, judge v = .ok none) :
    consultedInTurn judge vs = vs := by
  have happend := consultedInTurn_append h []
  rwa [List.append_nil, consultedInTurn, List.append_nil] at happend

end InTurn

/-! ## Registries -/

/-- What is judged: a cluster, or a job with the session cluster if that is there. -/
inductive Judged where
  /-- A cluster. -/
  | deployment (d : Deployment)
  /-- A job on a session cluster. -/
  | sessionJob (j : SessionJob) (session : Option Deployment)

/-- The judgement of a validator. -/
def Validator.judge (v : Validator) : Judged → Judgement
  | .deployment d => v.judgeDeployment d
  | .sessionJob j session => v.judgeSessionJob j session

namespace Registry

/-- The judgement of a registry. -/
def judge (r : Registry) : Judged → Judgement
  | .deployment d => r.validateDeployment d
  | .sessionJob j session => r.validateSessionJob j session

/-- The judgement of a registry that writes down which validators it asks. -/
def ask (r : Registry) (x : Judged) : Action (List Validator) (Option String) :=
  askInTurn (·.judge x) r.validators

/-- The registries, with their validators in the order in which these were registered. -/
inductive Built : List Validator → Registry → Prop where
  /-- A registry is made of a list of validators. -/
  | constructed (vs : List Validator) : Built vs ⟨vs⟩
  /-- A registry is made of extra validators, which get the defaults of the built-in one. -/
  | created (defaults : Config) (extra : List Validator) :
    Built (Validator.builtIn defaults :: extra.map (·.configure defaults)) (create defaults extra)
  /-- One more validator is registered. -/
  | registered {vs : List Validator} {r : Registry} (h : Built vs r) (v : Validator) :
    Built (vs ++ [v]) (r.register v)

theorem Built.validators {vs : List Validator} {r : Registry} (h : Built vs r) :
    r.validators = vs := by
  induction h with
  | constructed vs => rfl
  | created defaults extra => exact validators_create defaults extra
  | registered h v ih => rw [register, ih]

theorem judge_eq (r : Registry) (x : Judged) :
    r.judge x = judgeInTurn (·.judge x) r.validators := by
  cases x <;> rfl

theorem runOn_ask (r : Registry) (x : Judged) :
    (r.ask x).runOn [] = (r.judge x, consultedInTurn (·.judge x) r.validators) := by
  rw [ask, runOn_askInTurn, judge_eq, List.nil_append]

end Registry

open Registry

/-- However a registry was `Built`, with the validators `vs` in the order of registration:
`Registry.judge` accepts a resource exactly when every one of them does, and then `Registry.ask` asks
them all. What it says otherwise is what the first validator says that does not accept the resource,
and it asks that one last. So it gives an answer unless a validator fails, no permutation of `vs`
changes whether a resource is accepted, and after `Registry.register` a resource that was not accepted
is judged as before. -/
theorem validators_judge_in_turn {vs : List Validator} {r : Registry} (hr : Built vs r) (x : Judged) :
    (r.judge x = .ok none ↔ ∀ v ∈ vs, v.judge x = .ok none) ∧
      (r.judge x = .ok none → (r.ask x).runOn [] = (.ok none, vs)) ∧
      (∀ said : Judgement, said ≠ .ok none → (r.judge x = said ↔
        ∃ front v back, vs = front ++ v :: back ∧ (∀ u ∈ front, u.judge x = .ok none) ∧
          v.judge x = said ∧ (r.ask x).runOn [] = (said, front ++ [v]))) ∧
      ((∀ v ∈ vs, ∃ objection, v.judge x = .ok objection) → ∃ objection, r.judge x = .ok objection) ∧
      (∀ {ws : List Validator} {s : Registry}, Built ws s → ws.Perm vs →
        (s.judge x = .ok none ↔ r.judge x = .ok none)) ∧
      ∀ v : Validator, r.judge x ≠ .ok none → (r.register v).judge x = r.judge x := by
  have haccepts : ∀ {ws : List Validator} {s : Registry}, Built ws s →
      (s.judge x = .ok none ↔ ∀ v ∈ ws, v.judge x = .ok none) := by
    intro ws s hs
    rw [judge_eq, judgeInTurn_eq_accept_iff, hs.validators]
  have hdecides : ∀ said : Judgement, said ≠ .ok none → (r.judge x = said ↔
      ∃ front v back, vs = front ++ v :: back ∧ (∀ u ∈ front, u.judge x = .ok none) ∧
        v.judge x = said) := by
    intro said hsaid
    rw [judge_eq, judgeInTurn_eq_iff hsaid, hr.validators]
  refine ⟨haccepts hr, fun h => ?_, fun said hsaid => ?_, fun hsay => ?_, fun hs hperm => ?_,
    fun v h => ?_⟩
  · rw [runOn_ask, h, hr.validators, consultedInTurn_of_accept ((haccepts hr).1 h)]
  · rw [hdecides said hsaid]
    refine exists_congr fun front => exists_congr fun v => exists_congr fun back => ?_
    constructor
    · rintro ⟨hvs, hfront, hv⟩
      have hfirst := inTurn_of_first hfront (hv ▸ hsaid) back
      refine ⟨hvs, hfront, hv, ?_⟩
      rw [runOn_ask, judge_eq, hr.validators, hvs, hfirst.1, hfirst.2, hv]
    · rintro ⟨hvs, hfront, hv, -⟩
      exact ⟨hvs, hfront, hv⟩
  · by_cases h : r.judge x = .ok none
    · exact ⟨none, h⟩
    · -- the validator that decides does not fail
      obtain ⟨front, v, back, hvs, -, hv⟩ := (hdecides _ h).1 rfl
      obtain ⟨objection, hobjection⟩ := hsay v (by simp [hvs])
      exact ⟨objection, hv ▸ hobjection⟩
  · rw [haccepts hs, haccepts hr]
    exact ⟨fun h v hv => h v (hperm.mem_iff.2 hv), fun h v hv => h v (hperm.mem_iff.1 hv)⟩
  · -- the validator that decided still comes first
    obtain ⟨front, u, back, hvs, hfront, hu⟩ := (hdecides _ h).1 rfl
    rw [judge_eq (r.register v), (hr.registered v).validators, hvs, List.append_assoc, List.cons_append,
      (inTurn_of_first hfront (hu ▸ h) _).1, hu]

/-- A session cluster that the built-in rules accept. -/
def plainCluster : Deployment where
  spec := {
    flinkVersion := some .v1_15
    jobManager := some { resource := some { memory := some "1g" } }
    taskManager := some { resource := some { memory := some "1g" } } }

/-- A registry with an extra validator that accepts everything, behind which two more are registered
that do not. -/
def strictRegistry : Registry :=
  ((Registry.create [] [Validator.fixed "lenient" none]).register
    (Validator.fixed "strict" (some "not today"))).register (Validator.fixed "late" (some "too late"))

/-- The first of the two that object decides, and the other one is not asked. -/
theorem strictRegistry_judges_in_turn :
    ∃ vs front v, Built vs strictRegistry ∧
      v.judge (.deployment plainCluster) = .ok (some "not today") ∧
      (strictRegistry.ask (.deployment plainCluster)).runOn [] =
        (.ok (some "not today"), front ++ [v]) ∧
      (front ++ [v]).map Validator.name = ["default", "lenient", "strict"] := by
  have hbuilt : Built _ strictRegistry :=
    ((Built.created [] [Validator.fixed "lenient" none]).registered _).registered _
  have hjudge : strictRegistry.judge (.deployment plainCluster) = .ok (some "not today") := by
    decide +kernel
  have hnames : ((strictRegistry.ask (.deployment plainCluster)).runOn []).2.map Validator.name =
      ["default", "lenient", "strict"] := by decide +kernel
  obtain ⟨-, -, hdecides, -⟩ := validators_judge_in_turn hbuilt (.deployment plainCluster)
  obtain ⟨front, v, back, -, -, hv, hask⟩ := (hdecides (.ok (some "not today")) nofun).1 hjudge
  rw [hask] at hnames
  exact ⟨_, front, v, hbuilt, hv, hask, hnames⟩

end FlinkSteward
