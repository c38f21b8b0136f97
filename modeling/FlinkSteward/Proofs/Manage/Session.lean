import FlinkSteward.Proofs.Manage.Gate

/-!
# Calls as sessions

A manager's call sends one request after the other, and what it does next depends on the replies
alone. As a *session*, a call is its next request with a continuation for every reply, so that the
requests of several calls can be served in any order.

## Key results

- `Session`: a call that has ended, or that waits for the reply to a request
- `Manager.session`, `Manager.sentOver_session`: the calls that change jobs, as sessions
- `Session.Looked`, `Manager.standing_session`: what a session comes to by look-ups that succeed
-/

namespace FlinkSteward

/-- A call between two requests. -/
inductive Session (α : Type) where
  /-- The call is over. -/
  | ended (outcome : Outcome α)
  /-- The call waits for the reply to a request. -/
  | asking (request : Kubernetes.Request) (next : Outcome request.Reply → Session α)

namespace Session

variable {σ α : Type}

/-- A session whose requests are all sent over a connection, one right after the other. -/
def sentOver (k : Kubernetes σ) : Session α → Action σ α
  | ended outcome => .ofOutcome outcome
  | asking request next => do
    let reply ← (k.send request).attempt
    (next reply).sentOver k

/-- How a session has ended, if it has. -/
def outcome? : Session α → Option (Outcome α)
  | ended outcome => some outcome
  | asking _ _ => none

theorem outcome?_eq_some {session : Session α} {outcome : Outcome α}
    (h : session.outcome? = some outcome) : session = .ended outcome := by
  cases session with
  | ended outcome' =>
    obtain rfl := Option.some.inj h
    rfl
  | asking => exact nomatch h

/-- A session that goes on with an outcome, unless that is a failure. -/
def andThen {β : Type} (outcome : Outcome β) (next : β → Session α) : Session α :=
  match outcome with
  | .ok x => next x
  | .error f => ended (.error f)

theorem sentOver_andThen {β : Type} (k : Kubernetes σ) (outcome : Outcome β) (next : β → Session α) :
    (andThen outcome next).sentOver k = .ofOutcome outcome >>= fun x => (next x).sentOver k := by
  cases outcome <;> rfl

end Session

/-! ## Orders -/

namespace JobOrder

/-- The entry of a job that an order is about. -/
def key : JobOrder → String
  | suspend | resume => "state"
  | savepoint => "savepointTriggerNonce"
  | upgradeMode _ => "upgradeMode"

/-- What an order sets the entry to, for a manifest that was looked up. -/
def entry (manifest : Value) : JobOrder → Outcome Value
  | suspend => .ok (.text (Enumeration.written JobState.suspended))
  | resume => .ok (.text (Enumeration.written JobState.running))
  | savepoint => Deployment.decode manifest >>= Manager.nextNonce
  | upgradeMode mode => .ok (.text (Enumeration.written mode))

/-- How often the cluster is looked up. -/
def looks : JobOrder → Nat
  | savepoint => 2
  | _ => 1

theorem looks_pos (order : JobOrder) : 0 < order.looks := by
  cases order <;> exact Nat.succ_pos _

/-- What the user is given. -/
def result (x : Value) : JobOrder → Value
  | savepoint => x
  | _ => .null

/-- A manifest in which the order has set its entry. -/
def made (x manifest : Value) (order : JobOrder) : Value :=
  manifest.patch (Manager.jobChange order.key x)

end JobOrder

namespace Manager

variable {σ : Type}

/-- Does what is asked for of the job of a cluster, and gives the nonce of a request for a savepoint.
-/
def call (m : Manager σ) (name : String) : JobOrder → Action σ Value
  | .savepoint => m.requestSavepoint name
  | order => do
    m.perform (.change name order)
    return .null

/-- The namespace of the clusters whose jobs are changed. -/
def place (m : Manager σ) : Value :=
  m.kubernetes.spaceOf .null

/-- A session that looks a cluster up, which has to be there. -/
def lookedUp (m : Manager σ) (name : String) (next : Value → Session Value) : Session Value :=
  .asking (lookUp m.place name) fun reply =>
    match reply with
    | .ok manifest => next manifest
    | .error f => .ended (.error (if Kubernetes.isMissing f then .noSuchDeployment name else f))

/-- A session that makes a change of a job and ends with a result. -/
def changed (m : Manager σ) (name : String) (patch result : Value) : Session Value :=
  m.lookedUp name fun manifest =>
    .andThen (m.check (manifest.patch patch)) fun _ =>
      .asking (.patch m.place Deployment.plural (.text name) patch) fun reply =>
        .ended (reply.map fun _ => result)

/-- The session of a call. A nonce is decided on by a look-up of its own. -/
def session (m : Manager σ) (name : String) : JobOrder → Session Value
  | .suspend =>
    m.changed name (jobChange "state" (.text (Enumeration.written JobState.suspended))) .null
  | .resume =>
    m.changed name (jobChange "state" (.text (Enumeration.written JobState.running))) .null
  | .savepoint =>
    m.lookedUp name fun manifest =>
      .andThen (Deployment.decode manifest >>= nextNonce) fun nonce =>
        m.changed name (jobChange "savepointTriggerNonce" nonce) nonce
  | .upgradeMode mode =>
    m.changed name (jobChange "upgradeMode" (.text (Enumeration.written mode))) .null

theorem sentOver_lookedUp (m : Manager σ) (name : String) (next : Value → Session Value) :
    (m.lookedUp name next).sentOver m.kubernetes =
      m.manifestOf name >>= fun manifest => (next manifest).sentOver m.kubernetes := by
  funext s
  change ((m.lookedUp name next).sentOver m.kubernetes).runOn s = (m.manifestOf name >>= _).runOn s
  simp only [lookedUp, place, Session.sentOver, lookUp, manifestOf, Kubernetes.get,
    Kubernetes.orMissing, Action.attempt, Action.runOn_bind, Action.runOn_ofRun]
  rcases (m.kubernetes.send (.get (m.kubernetes.spaceOf .null) Deployment.plural
    (.text name))).runOn s with ⟨f | manifest, t⟩
  · cases hf : Kubernetes.isMissing f <;> simp [hf, Session.sentOver]
  · rfl

theorem sentOver_changed (m : Manager σ) (name : String) (patch result : Value) :
    (m.changed name patch result).sentOver m.kubernetes =
      m.change name patch >>= fun _ => pure result := by
  simp only [changed, sentOver_lookedUp, Session.sentOver_andThen, change, bind_assoc, pure_bind]
  refine bind_congr fun manifest => bind_congr fun _ => ?_
  funext s
  change ((Session.asking _ _).sentOver m.kubernetes).runOn s =
    (m.kubernetes.patch _ _ _ >>= _).runOn s
  simp only [Session.sentOver, place, Kubernetes.patch, Action.attempt, Action.runOn_bind,
    Action.runOn_ofRun]
  rcases (m.kubernetes.send (.patch (m.kubernetes.spaceOf .null) Deployment.plural (.text name)
    patch)).runOn s with ⟨f | reply, t⟩ <;> rfl

/-- `Manager.session`, sent over the manager's connection without a break, is `Manager.call`. -/
theorem sentOver_session (m : Manager σ) (name : String) (order : JobOrder) :
    (m.session name order).sentOver m.kubernetes = m.call name order := by
  cases order with
  | savepoint =>
    rw [session, sentOver_lookedUp]
    simp only [Session.sentOver_andThen, sentOver_changed]
    rfl
  | suspend | resume | upgradeMode => exact sentOver_changed m name _ .null

/-! ## Look-ups that succeed -/

end Manager

/-- What a session comes to by look-ups of a cluster that find the manifests `seen`, one after the
other. -/
inductive Session.Looked {α : Type} (space : Value) (name : String) :
    Session α → List Value → Session α → Prop where
  | refl (session : Session α) : Looked space name session [] session
  | found {next : Outcome Value → Session α} {manifest : Value} {seen : List Value}
      {session : Session α} (h : Looked space name (next (.ok manifest)) seen session) :
    Looked space name (.asking (.get space Deployment.plural (.text name)) next) (manifest :: seen)
      session

namespace Session.Looked

variable {α : Type} {space : Value} {name : String} {session session' : Session α}
  {seen : List Value}

/-- A session that has `Looked` has done so with one more look-up. -/
theorem snoc {next : Outcome Value → Session α}
    (h : Looked space name session seen (.asking (.get space Deployment.plural (.text name)) next))
    (manifest : Value) :
    Looked space name session (seen ++ [manifest]) (next (.ok manifest)) := by
  generalize hlast : Session.asking (.get space Deployment.plural (.text name)) next = last at h
  induction h with
  | refl session =>
    subst hlast
    exact .found (.refl _)
  | found _ ih => exact .found (ih hlast)

/-- A session `andThen` another one that does not look anything up stays what it is. -/
theorem of_andThen {β : Type} {outcome : Outcome β} {next : β → Session α}
    (h : Looked space name (.andThen outcome next) seen session) :
    (∃ f, outcome = .error f ∧ session = .ended (.error f)) ∨
      ∃ x, outcome = .ok x ∧ Looked space name (next x) seen session := by
  cases outcome with
  | ok x => exact .inr ⟨x, rfl, h⟩
  | error f =>
    cases h with
    | refl => exact .inl ⟨f, rfl, rfl⟩

end Session.Looked

namespace Manager

variable {σ : Type} {m : Manager σ} {name : String} {order : JobOrder} {seen : List Value}
  {session : Session Value}

/-- An order sets its entry to `x` for a manifest that was found first, and the validators accept what
becomes with it of the manifest that was found last. -/
structure Grants (m : Manager σ) (order : JobOrder) (first last x : Value) : Prop where
  entry : order.entry first = .ok x
  accepts : m.Accepts (order.made x last)

/-- Where the session of an order stands after look-ups that found these manifests: it has failed, it
looks the cluster up again, or it is about to send its change. -/
inductive Standing (m : Manager σ) (name : String) (order : JobOrder) (seen : List Value) :
    Session Value → Prop where
  | failed (f : Failure) : Standing m name order seen (.ended (.error f))
  | looking {next : Outcome Value → Session Value}
      (h : ∀ f, ∃ g, next (.error f) = .ended (.error g)) :
    Standing m name order seen
      (.asking (.get m.place Deployment.plural (.text name)) next)
  | changing {first last x : Value} (hfirst : seen.head? = some first)
      (hlast : seen.getLast? = some last) (hlength : seen.length = order.looks)
      (hgrants : m.Grants order first last x) :
    Standing m name order seen
      (.asking (.patch m.place Deployment.plural (.text name)
        (jobChange order.key x)) fun reply => .ended (reply.map fun _ => order.result x))

/-- A session that is `lookedUp` has not found the cluster yet, or has found something. -/
private theorem looked_lookedUp {next : Value → Session Value}
    (h : Session.Looked m.place name (m.lookedUp name next) seen session) :
    (∀ order seen, m.Standing name order seen session) ∨ ∃ manifest rest, seen = manifest :: rest ∧
      Session.Looked m.place name (next manifest) rest session := by
  cases h with
  | refl => exact .inl fun _ _ => .looking fun f => ⟨_, rfl⟩
  | found h => exact .inr ⟨_, _, rfl, h⟩

/-- A session that is `changed` looks the cluster up once, and is checked before it is sent. -/
private theorem looked_changed {patch result : Value}
    (h : Session.Looked m.place name (m.changed name patch result) seen session) :
    (∀ order seen, m.Standing name order seen session) ∨ ∃ manifest, seen = [manifest] ∧
      m.Accepts (manifest.patch patch) ∧
      session = .asking (.patch m.place Deployment.plural (.text name) patch)
        fun reply => .ended (reply.map fun _ => result) := by
  obtain hstands | ⟨manifest, rest, rfl, hfound⟩ := looked_lookedUp h
  · exact .inl hstands
  obtain ⟨f, -, rfl⟩ | ⟨_, hchecked, hsend⟩ := hfound.of_andThen
  · exact .inl fun _ _ => .failed f
  · cases hsend with
    | refl => exact .inr ⟨manifest, rfl, check_eq_ok.1 hchecked, rfl⟩

theorem standing_session
    (h : Session.Looked m.place name (m.session name order) seen session) :
    m.Standing name order seen session := by
  -- all orders but one are a single change
  have hchange {x : Value} (hentry : ∀ manifest, order.entry manifest = .ok x)
      (hlooks : order.looks = 1) (h : Session.Looked m.place name
        (m.changed name (jobChange order.key x) (order.result x)) seen session) :
      m.Standing name order seen session := by
    obtain hstands | ⟨manifest, rfl, haccepts, rfl⟩ := looked_changed h
    · exact hstands order seen
    · exact .changing rfl rfl hlooks.symm ⟨hentry manifest, haccepts⟩
  cases order with
  | suspend | resume | upgradeMode => exact hchange (fun _ => rfl) rfl h
  | savepoint =>
    obtain hstands | ⟨manifest, rest, rfl, hfound⟩ := looked_lookedUp h
    · exact hstands .savepoint seen
    obtain ⟨f, -, rfl⟩ | ⟨nonce, hnonce, hnext⟩ := hfound.of_andThen
    · exact .failed f
    obtain hstands | ⟨again, rfl, haccepts, rfl⟩ := looked_changed hnext
    · exact hstands .savepoint _
    · exact .changing rfl rfl rfl ⟨hnonce, haccepts⟩

end Manager

end FlinkSteward
