import FlinkSteward.Validation.Rules

/-!
# Validators

A validator judges resources by rules of its own, under the operator's defaults that it was given. A
registry holds validators in the order in which they were registered: a resource is accepted when
all of them accept it, and otherwise the first that objects has the word.

- `Validator.builtIn`: the built-in rules
- `Registry.validateDeployment`, `Registry.validateSessionJob`: the judgement of all validators
- `Registry.consultedOnDeployment`, `Registry.consultedOnSessionJob`: the validators that were asked
  for it
-/

namespace FlinkSteward

/-- A judgement on a resource: an objection, or none. -/
abbrev Judgement := Outcome (Option String)

/-- A validator: its rules, and the defaults it was given. -/
structure Validator where
  /-- What it is known as. -/
  name : String
  /-- The operator's defaults. -/
  defaults : Config
  /-- Its judgement on a cluster. -/
  deployment : Config → Deployment → Judgement
  /-- Its judgement on a job, with the session cluster if that is there. -/
  sessionJob : Config → SessionJob → Option Deployment → Judgement

namespace Validator

/-- The validator under other defaults. -/
def configure (v : Validator) (defaults : Config) : Validator :=
  { v with defaults := defaults }

/-- The judgement on a cluster. -/
def judgeDeployment (v : Validator) (d : Deployment) : Judgement :=
  v.deployment v.defaults d

/-- The judgement on a job. -/
def judgeSessionJob (v : Validator) (j : SessionJob) (session : Option Deployment) : Judgement :=
  v.sessionJob v.defaults j session

/-- The validator with the built-in rules. -/
def builtIn (defaults : Config) : Validator where
  name := "default"
  defaults := defaults
  deployment conf d := (Validation.validateDeployment conf d).map (·.map Violation.message)
  sessionJob conf j session :=
    (Validation.validateSessionJob conf j session).map (·.map Violation.message)

/-- A validator with the same objection to everything, or none. -/
def fixed (name : String) (objection : Option String) : Validator where
  name := name
  defaults := []
  deployment _ _ := .ok objection
  sessionJob _ _ _ := .ok objection

end Validator

/-- The judgement of validators in turn: the first that objects or fails decides. -/
def judgeInTurn (judge : Validator → Judgement) : List Validator → Judgement
  | [] => .ok none
  | v :: rest =>
    match judge v with
    | .ok none => judgeInTurn judge rest
    | r => r

/-- The validators that are asked in turn, up to the first that objects or fails. -/
def consultedInTurn (judge : Validator → Judgement) : List Validator → List Validator
  | [] => []
  | v :: rest =>
    match judge v with
    | .ok none => v :: consultedInTurn judge rest
    | _ => [v]

/-- Validators in the order in which they were registered. -/
structure Registry where
  /-- The validators. -/
  validators : List Validator

namespace Registry

/-- The registry with one more validator, which comes last. -/
def register (r : Registry) (v : Validator) : Registry :=
  ⟨r.validators ++ [v]⟩

/-- The built-in validator with extra ones behind it, all under the same defaults. -/
def create (defaults : Config) (extra : List Validator) : Registry :=
  extra.foldl (fun r v => r.register (v.configure defaults))
    (Registry.register ⟨[]⟩ (Validator.builtIn defaults))

theorem validators_create (defaults : Config) (extra : List Validator) :
    (create defaults extra).validators =
      Validator.builtIn defaults :: extra.map (·.configure defaults) := by
  have hextra : ∀ r : Registry,
      (extra.foldl (fun r v => r.register (v.configure defaults)) r).validators =
        r.validators ++ extra.map (·.configure defaults) := by
    induction extra with
    | nil => exact fun r => (List.append_nil _).symm
    | cons v extra ih =>
      intro r
      rw [List.foldl_cons, ih, register, List.append_assoc]
      rfl
  exact hextra _

/-- The judgement on a cluster. -/
def validateDeployment (r : Registry) (d : Deployment) : Judgement :=
  judgeInTurn (·.judgeDeployment d) r.validators

/-- The judgement on a job. -/
def validateSessionJob (r : Registry) (j : SessionJob) (session : Option Deployment) : Judgement :=
  judgeInTurn (·.judgeSessionJob j session) r.validators

/-- The validators that are asked about a cluster. -/
def consultedOnDeployment (r : Registry) (d : Deployment) : List Validator :=
  consultedInTurn (·.judgeDeployment d) r.validators

/-- The validators that are asked about a job. -/
def consultedOnSessionJob (r : Registry) (j : SessionJob) (session : Option Deployment) :
    List Validator :=
  consultedInTurn (·.judgeSessionJob j session) r.validators

end Registry

/-- `judgeInTurn` accepts exactly when each of the validators does. -/
theorem judgeInTurn_eq_accept_iff (judge : Validator → Judgement) (vs : List Validator) :
    judgeInTurn judge vs = .ok none ↔ ∀ v ∈ vs, judge v = .ok none := by
  induction vs with
  | nil => simp [judgeInTurn]
  | cons v rest ih =>
    simp only [judgeInTurn, List.mem_cons, forall_eq_or_imp]
    split <;> simp_all

end FlinkSteward
