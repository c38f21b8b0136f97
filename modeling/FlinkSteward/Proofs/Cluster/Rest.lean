import FlinkSteward.Cluster.Rest
import FlinkSteward.Proofs.Action

/-!
# What the network told

When a call of the REST client succeeds, each of its requests was carried out, and what it gives is
what the last answer tells.

## Key results

- `Rest.request_runOn`: a request, by its answer
- `Rest.request_eq_ok`, `Rest.savepointStatus_eq_ok`: calls of a single request that succeed
- `Rest.awaitSavepoint_eq_ok`: looks at a savepoint, until it is there
- `Rest.stopWithSavepoint_eq_ok`: jobs that were stopped
- `Client.use_eq_ok`: uses of a client
-/

namespace FlinkSteward

namespace Http.Answer

/-- What an answer gives to the call that waits for it, or how the call fails for it. -/
def reply (what url : String) : Answer → Outcome String
  | timeout message => .error (.clusterTimeout (what ++ " timed out: " ++ message))
  | broken message => .error (.cluster (what ++ " failed: " ++ message))
  | response status text location =>
    if isSuccess status then .ok text
    else .error (.cluster (what ++ " failed: " ++ refusal status url location))

theorem reply_eq_ok {what url text : String} {a : Answer} :
    a.reply what url = .ok text ↔
      ∃ status location, a = .response status text location ∧ isSuccess status = true := by
  constructor
  · intro h
    unfold reply at h
    split at h
    · exact nomatch h
    · exact nomatch h
    · rename_i status told location
      split at h
      · rename_i hsuccess
        obtain rfl := Except.ok.inj h
        exact ⟨status, location, rfl, hsuccess⟩
      · exact nomatch h
  · rintro ⟨status, location, rfl, hsuccess⟩
    exact if_pos hsuccess

end Http.Answer

namespace Network

variable {τ : Type}

/-- The request that `count` others come before is carried out, and answered by `text`. -/
def Carries (n : Network τ) (count : Nat) (text : String) : Prop :=
  ∃ status location, n.answers count = .response status text location ∧ Http.isSuccess status

/-- The request that `count` others come before is answered by data of which `read` makes `x`. -/
def Tells {α : Type} (n : Network τ) (read : Value → Outcome α) (count : Nat) (x : α) : Prop :=
  ∃ text, n.Carries count text ∧ (Rest.dataOf text >>= read) = .ok x

/-- The network after another request was sent. -/
def sending (n : Network τ) (r : Http.Request) : Network τ :=
  { n with sent := n.sent ++ [r] }

/-- What a network `Tells` does not depend on the moment. -/
theorem tells_congr {α : Type} {n m : Network τ} (h : m.answers = n.answers)
    {read : Value → Outcome α} {count : Nat} {x : α} :
    m.Tells read count x ↔ n.Tells read count x := by
  simp only [Tells, Carries, h]

end Network

namespace Rest

variable {τ : Type} {s : Settings τ} {n m : Network τ} {job trigger : Value}

/-- A `request` is sent, and the `reply` to it decides what it gives. -/
theorem request_runOn (s : Settings τ) (method path : String) (query : Option String)
    (body : Option Value) (n : Network τ) :
    (request s method path query body).runOn n =
      ((n.answers n.sent.length).reply (method ++ " " ++ s.baseUrl ++ path)
          (Http.addressOf s.baseUrl path query),
        n.sending ⟨method, Http.addressOf s.baseUrl path query, body⟩) := by
  rw [request, Action.runOn_bind, send, Action.runOn_ofRun]
  dsimp only
  cases n.answers n.sent.length with
  | timeout message => rfl
  | broken message => rfl
  | response status text location =>
    dsimp only [Http.Answer.reply]
    split <;> rfl

/-- A `request` succeeds exactly when its answer `Carries` the text. -/
theorem request_eq_ok {method path text : String} {query : Option String} {body : Option Value} :
    (request s method path query body).runOn n = (.ok text, m) ↔
      n.Carries n.sent.length text ∧
        m = n.sending ⟨method, Http.addressOf s.baseUrl path query, body⟩ := by
  rw [request_runOn, Prod.mk.injEq, Http.Answer.reply_eq_ok, eq_comm (b := m)]
  rfl

/-- A `request` whose answer is read by `dataOf` succeeds exactly when the answer `Tells` the
result. -/
theorem request_ofOutcome_eq_ok {α : Type} {method path : String} {query : Option String}
    {body : Option Value} {read : Value → Outcome α} {x : α} :
    (do
      let text ← request s method path query body
      .ofOutcome (dataOf text >>= read) : Action (Network τ) α).runOn n = (.ok x, m) ↔
      n.Tells read n.sent.length x ∧
        m = n.sending ⟨method, Http.addressOf s.baseUrl path query, body⟩ := by
  simp only [Action.runOn_bind_eq_ok, request_eq_ok, Action.runOn_ofOutcome_eq_ok, Network.Tells]
  constructor
  · rintro ⟨text, _, ⟨hcarried, rfl⟩, hread, rfl⟩
    exact ⟨⟨text, hcarried, hread⟩, rfl⟩
  · rintro ⟨⟨text, hcarried, hread⟩, rfl⟩
    exact ⟨text, _, ⟨hcarried, rfl⟩, hread, rfl⟩

/-- The request that stops a job with a savepoint. -/
def stopRequest (s : Settings τ) (job : Value) (drain : Bool) (directory : Option String) :
    Http.Request :=
  ⟨"POST", Http.addressOf s.baseUrl (jobPath job ++ "/stop") none,
    some (bodyOf "drain" drain "targetDirectory" directory)⟩

/-- The request that looks at a savepoint. -/
def statusRequest (s : Settings τ) (job trigger : Value) : Http.Request :=
  ⟨"GET", Http.addressOf s.baseUrl (jobPath job ++ "/savepoints/" ++ trigger.shown) none, none⟩

theorem savepointStatus_eq_ok {poll : SavepointPoll} :
    (savepointStatus s job trigger).runOn n = (.ok poll, m) ↔
      n.Tells pollOf n.sent.length poll ∧ m = n.sending (statusRequest s job trigger) :=
  request_ofOutcome_eq_ok

/-- Looks at a savepoint: all were carried out, and it was pending until the last one, which found
it at a place. -/
structure Awaited (s : Settings τ) (job trigger : Value) (looks : Nat) (n m : Network τ)
    (place : Value) : Prop where
  answers : m.answers = n.answers
  sent : m.sent = n.sent ++ List.replicate (looks + 1) (statusRequest s job trigger)
  pending : ∀ i < looks, n.Tells pollOf (n.sent.length + i) .pending
  completed : n.Tells pollOf (n.sent.length + looks) (.completed place)

/-- A look that finds the savepoint pending comes before those that are to follow. -/
theorem Awaited.after_pending {looks : Nat} {u : Network τ} {place : Value}
    (h : Awaited s job trigger looks u m place)
    (hpending : n.Tells pollOf n.sent.length .pending) (hanswers : u.answers = n.answers)
    (hsent : u.sent = n.sent ++ [statusRequest s job trigger]) :
    Awaited s job trigger (looks + 1) n m place where
  answers := h.answers.trans hanswers
  sent := by
    rw [h.sent, hsent, List.append_assoc, List.replicate_succ (n := looks + 1)]
    rfl
  pending i hi := by
    cases i with
    | zero => exact hpending
    | succ i =>
      have := h.pending i (by omega)
      rwa [Network.tells_congr hanswers, hsent, List.length_append, List.length_singleton,
        Nat.add_assoc, Nat.add_comm 1] at this
  completed := by
    -- the looks that follow are counted from one request later
    have := h.completed
    rwa [Network.tells_congr hanswers, hsent, List.length_append, List.length_singleton,
      Nat.add_assoc, Nat.add_comm 1] at this

variable [Time τ] {place : Value}

/-- An `awaitSavepoint` that succeeds ends with a look that finds the savepoint. -/
theorem awaitSavepoint_eq_ok {start : τ} {looks : Nat}
    (h : (awaitSavepoint s job trigger start looks).runOn n = (.ok place, m)) :
    ∃ passed, Awaited s job trigger passed n m place := by
  -- by induction on the looks that are left, each of which begins where the one before ended
  induction looks generalizing n with
  | zero => simp [awaitSavepoint] at h
  | succ looks ih =>
    obtain ⟨poll, u, hlook, hrest⟩ := Action.runOn_bind_eq_ok.1 h
    obtain ⟨htold, rfl⟩ := savepointStatus_eq_ok.1 hlook
    cases poll with
    | failed cause => simp at hrest
    | completed found =>
      obtain ⟨rfl, rfl⟩ : found = place ∧ n.sending _ = m := by simpa using hrest
      exact ⟨0, rfl, rfl, fun i hi => absurd hi (Nat.not_lt_zero i), htold⟩
    | pending =>
      obtain ⟨now, v, hnow, hrest'⟩ := Action.runOn_bind_eq_ok.1 hrest
      obtain ⟨-, rfl⟩ : _ ∧ n.sending _ = v := by simpa using hnow
      split at hrest'
      · simp at hrest'
      · obtain ⟨_, v, hslept, hagain⟩ := Action.runOn_bind_eq_ok.1 hrest'
        obtain ⟨passed, hpassed⟩ := ih hagain
        obtain rfl : _ = v := (Prod.mk.inj hslept).2
        exact ⟨passed + 1, hpassed.after_pending htold rfl rfl⟩

/-- A job was stopped: that was asked for, and the savepoint of the request was `Awaited` until it was
found at a place. -/
def Stopped (s : Settings τ) (job : Value) (drain : Bool) (directory : Option String)
    (n m : Network τ) (place : Value) : Prop :=
  ∃ trigger looks, n.Tells (fun v => v.item "request-id") n.sent.length trigger ∧
    Awaited s job trigger looks (n.sending (stopRequest s job drain directory)) m place

/-- A `stopWithSavepoint` that succeeds gives the place that the last answer told. -/
theorem stopWithSavepoint_eq_ok {drain : Bool} {directory : Option String}
    (h : (stopWithSavepoint s job drain directory).runOn n = (.ok place, m)) :
    Stopped s job drain directory n m place := by
  obtain ⟨text, u, hasked, hrest⟩ := Action.runOn_bind_eq_ok.1 h
  obtain ⟨hcarried, rfl⟩ := request_eq_ok.1 hasked
  obtain ⟨trigger, v, hread, hrest'⟩ := Action.runOn_bind_eq_ok.1 hrest
  obtain ⟨htrigger, rfl⟩ := Action.runOn_ofOutcome_eq_ok.1 hread
  obtain ⟨start, w, hnow, hawait⟩ := Action.runOn_bind_eq_ok.1 hrest'
  obtain ⟨looks, hawaited⟩ := awaitSavepoint_eq_ok hawait
  obtain rfl : _ = w := (Prod.mk.inj hnow).2
  exact ⟨trigger, looks, ⟨text, hcarried, htrigger⟩, hawaited⟩

end Rest

/-- A `Client.use` that succeeds, when connecting does nothing, is what was done with the client. -/
theorem Client.use_eq_ok {σ α : Type} {connect : Action σ (Client σ)} {c : Client σ}
    {f : Client σ → Action σ α} {w v : σ} {x : α} (hconnect : connect = pure c)
    (h : (use connect f).runOn w = (.ok x, v)) : ∃ u, (f c).runOn w = (.ok x, u) := by
  rw [use, hconnect] at h
  obtain ⟨_, u, hclient, hused⟩ := Action.runOn_bind_eq_ok.1 h
  obtain ⟨rfl, rfl⟩ := Action.runOn_pure_eq_ok.1 hclient
  obtain ⟨u, hdone, -⟩ := Action.runOn_always_eq_ok.1 hused
  exact ⟨u, hdone⟩

end FlinkSteward
