import FlinkSteward.Failure

/-!
# Actions

An action changes a state and either gives a result or fails; what it changed before it failed stays
changed. Actions on a part of a state are actions on the whole.

- `Action`: the type, which is a monad
- `Action.onPart`: an action on a part as one on the whole
- `Action.always`: an action followed by another one, also when it fails
- `Action.beforeFailing`: an action followed by another one when it fails in a certain way
-/

namespace FlinkSteward

/-- A step that may fail and that changes a state either way. -/
abbrev Action (σ α : Type) := ExceptT Failure (StateM σ) α

/-- A part of a state. -/
structure Part (σ τ : Type) where
  /-- The part of a state. -/
  get : σ → τ
  /-- The state with another part. -/
  set : τ → σ → σ

namespace Part

variable {σ τ υ : Type}

/-- The first of a pair. -/
def first : Part (σ × τ) σ :=
  ⟨Prod.fst, fun t s => (t, s.2)⟩

/-- The second of a pair. -/
def second : Part (σ × τ) τ :=
  ⟨Prod.snd, fun t s => (s.1, t)⟩

/-- A part of a part. -/
def andThen (p : Part σ τ) (q : Part τ υ) : Part σ υ :=
  ⟨fun s => q.get (p.get s), fun u s => p.set (q.set u (p.get s)) s⟩

end Part

namespace Action

variable {σ τ α β : Type}

/-- The outcome of an action on a state, and the state after it. -/
def runOn (a : Action σ α) (s : σ) : Outcome α × σ :=
  StateT.run (ExceptT.run a) s

/-- The action that does what a function says. -/
def ofRun (f : σ → Outcome α × σ) : Action σ α :=
  ExceptT.mk f

/-- A step that changes nothing. -/
def ofOutcome (r : Outcome α) : Action σ α :=
  ofRun fun s => (r, s)

/-- Fails. -/
def fail (f : Failure) : Action σ α :=
  ofOutcome (.error f)

/-- Looks at the state. -/
def read (f : σ → α) : Action σ α :=
  ofRun fun s => (.ok (f s), s)

/-- Changes the state. -/
def change (f : σ → σ) : Action σ Unit :=
  ofRun fun s => (.ok (), f s)

/-- An action on a part of a state. -/
def onPart (p : Part σ τ) (a : Action τ α) : Action σ α :=
  ofRun fun s =>
    let (r, t) := a.runOn (p.get s)
    (r, p.set t s)

/-- An action, and then another one even if it fails; its own outcome counts, unless the other fails. -/
def always (a : Action σ α) (last : Action σ Unit) : Action σ α :=
  ofRun fun s =>
    let (r, s) := a.runOn s
    match last.runOn s with
    | (.ok (), s) => (r, s)
    | (.error f, s) => (.error f, s)

/-- An action; if it fails in one of certain ways, another one comes before the failure is passed on. -/
def beforeFailing (a : Action σ α) (applies : Failure → Bool) (last : Action σ Unit) :
    Action σ α :=
  .ofRun fun s =>
    match runOn a s with
    | (.error f, s) =>
      if applies f then
        match last.runOn s with
        | (.ok (), s) => (.error f, s)
        | (.error g, s) => (.error g, s)
      else (.error f, s)
    | r => r

/-- The outcome of an action as its result. -/
def attempt (a : Action σ α) : Action σ (Outcome α) :=
  ofRun fun s =>
    let (r, s) := a.runOn s
    (.ok r, s)

@[simp] theorem runOn_ofRun (f : σ → Outcome α × σ) (s : σ) : (ofRun f).runOn s = f s := rfl

@[simp] theorem runOn_ofOutcome (r : Outcome α) (s : σ) :
    (ofOutcome r : Action σ α).runOn s = (r, s) := rfl

@[simp] theorem runOn_read (f : σ → α) (s : σ) : (read f).runOn s = (.ok (f s), s) := rfl

@[simp] theorem runOn_change (f : σ → σ) (s : σ) : (change f).runOn s = (.ok (), f s) := rfl

@[simp] theorem runOn_pure (a : α) (s : σ) : (pure a : Action σ α).runOn s = (.ok a, s) := rfl

/-- `>>=` runs one action after another, and stops at the first failure. -/
theorem runOn_bind (a : Action σ α) (f : α → Action σ β) (s : σ) :
    (a >>= f).runOn s =
      match a.runOn s with
      | (.ok x, t) => (f x).runOn t
      | (.error e, t) => (.error e, t) := by
  simp only [runOn, bind, ExceptT.bind, ExceptT.mk, ExceptT.run, StateT.bind, StateT.run]
  rcases a s with ⟨r, t⟩
  cases r <;> rfl

end Action

end FlinkSteward
