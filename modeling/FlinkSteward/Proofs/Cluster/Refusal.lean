import FlinkSteward.Proofs.Cluster.Rest
import FlinkSteward.Proofs.Control.Suspend
import FlinkSteward.Proofs.Control.Trigger

/-!
# Refused requests

A call of the REST client goes on only after an answer that is a success. Any other answer ends it: it
fails with what the answer stands for, and sends nothing more. So a savepoint that was not asked for
with success is not recorded as pending.

## Key results

- `Http.Answer.Refuses`: answers that are no success, and what they stand for
- `Network.Answered`: the requests of a call that is ended by an answer that is no success
- `Rest.Heedful`: calls that are, with rules for putting them together
- `refused_request_ends_call`: all calls of the client, and requests for savepoints on resources
-/

namespace FlinkSteward

/-! ## Answers -/

/-- An answer that is no success, and the failure that it stands for. -/
inductive Http.Answer.Refuses : Http.Answer → Failure → Prop where
  /-- The server did not carry the request out. -/
  | status {status : Nat} (h : ¬ (200 ≤ status ∧ status ≤ 299)) (text : String)
    (location : Option String) (reason : String) :
    Refuses (.response status text location) (.cluster reason)
  /-- There was no answer in time. -/
  | timeout (message reason : String) : Refuses (.timeout message) (.clusterTimeout reason)
  /-- There was no answer. -/
  | broken (message reason : String) : Refuses (.broken message) (.cluster reason)

theorem Http.Answer.refuses_of_reply {a : Answer} {what url : String} {f : Failure}
    (h : a.reply what url = .error f) : a.Refuses f := by
  unfold reply at h
  split at h
  · obtain rfl := Except.error.inj h
    exact .timeout ..
  · obtain rfl := Except.error.inj h
    exact .broken ..
  · split at h
    · exact nomatch h
    · rename_i hstatus
      obtain rfl := Except.error.inj h
      exact .status (by simpa [isSuccess] using hstatus) ..

/-- The requests of a call, and what it comes to: each of them was carried out (`Network.Carries`),
unless it was the last one and the call fails with what its answer `Refuses`. -/
structure Network.Answered {τ α : Type} (n m : Network τ) (requests : List Http.Request)
    (outcome : Outcome α) : Prop where
  answers : m.answers = n.answers
  sent : m.sent = n.sent ++ requests
  heeded : ∀ i < requests.length, (∃ text, n.Carries (n.sent.length + i) text) ∨
    i + 1 = requests.length ∧
      ∃ f, (n.answers (n.sent.length + i)).Refuses f ∧ outcome = .error f

/-! ## Calls -/

namespace Rest

variable {τ α β : Type} {s : Settings τ}

/-- A call that is `Answered`: an answer that is no success ends it. -/
def Heedful (a : Action (Network τ) α) : Prop :=
  ∀ n : Network τ, ∃ requests, n.Answered (a.runOn n).2 requests (a.runOn n).1

namespace Heedful

/-- What sends nothing is `Heedful`. -/
theorem silent {a : Action (Network τ) α}
    (h : ∀ n : Network τ, (a.runOn n).2.answers = n.answers ∧ (a.runOn n).2.sent = n.sent) :
    Heedful a :=
  fun n => ⟨[], (h n).1, by rw [(h n).2, List.append_nil], nofun⟩

theorem ofOutcome (r : Outcome α) : Heedful (.ofOutcome r : Action (Network τ) α) :=
  silent fun _ => ⟨rfl, rfl⟩

theorem fail (f : Failure) : Heedful (.fail f : Action (Network τ) α) :=
  ofOutcome (.error f)

theorem pure (x : α) : Heedful (Pure.pure x : Action (Network τ) α) :=
  silent fun _ => ⟨rfl, rfl⟩

end Heedful

/-- `a >>= f` goes on only when all that came before was carried out. -/
theorem answered_bind {n : Network τ} {requests : List Http.Request} {a : Action (Network τ) α}
    {f : α → Action (Network τ) β}
    (ha : n.Answered (a.runOn n).2 requests (a.runOn n).1) (hf : ∀ x, Heedful (f x)) :
    ∃ later, n.Answered ((a >>= f).runOn n).2 (requests ++ later) ((a >>= f).runOn n).1 := by
  rw [Action.runOn_bind]
  rcases hrun : a.runOn n with ⟨e | x, u⟩ <;> rw [hrun] at ha
  · -- what fails sends nothing more, for whatever reason
    refine ⟨[], ha.answers, by rw [List.append_nil]; exact ha.sent, ?_⟩
    rw [List.append_nil]
    intro i hi
    refine (ha.heeded i hi).imp_right fun ⟨hlast, f, hrefuses, he⟩ => ⟨hlast, f, hrefuses, ?_⟩
    rw [Except.error.inj he]
  · obtain ⟨later, hlater⟩ := hf x u
    have hlength : u.sent.length = n.sent.length + requests.length := by
      rw [ha.sent, List.length_append]
    refine ⟨later, hlater.answers.trans ha.answers, ?_, fun i hi => ?_⟩
    · rw [hlater.sent, ha.sent, List.append_assoc]
    by_cases hfirst : i < requests.length
    · exact (ha.heeded i hfirst).imp_right fun ⟨_, _, _, he⟩ => nomatch he
    · obtain ⟨j, rfl⟩ := Nat.exists_eq_add_of_le (Nat.le_of_not_lt hfirst)
      rw [List.length_append] at hi ⊢
      have hj := hlater.heeded j (by omega)
      rw [hlength, Nat.add_assoc] at hj
      refine hj.imp (fun ⟨text, h⟩ => ⟨text, ?_⟩) fun ⟨hlast, f, hrefuses, he⟩ =>
        ⟨by omega, f, ?_, he⟩
      · rwa [Network.Carries, ha.answers] at h
      · rwa [ha.answers] at hrefuses

theorem Heedful.bind {a : Action (Network τ) α} {f : α → Action (Network τ) β} (ha : Heedful a)
    (hf : ∀ x, Heedful (f x)) : Heedful (a >>= f) := by
  intro n
  obtain ⟨requests, h⟩ := ha n
  obtain ⟨later, hlater⟩ := answered_bind h hf
  exact ⟨_, hlater⟩

/-- A `request` is a single one, and ended by its answer. -/
theorem answered_request (s : Settings τ) (method path : String) (query : Option String)
    (body : Option Value) (n : Network τ) :
    n.Answered ((request s method path query body).runOn n).2
      [⟨method, Http.addressOf s.baseUrl path query, body⟩]
      ((request s method path query body).runOn n).1 := by
  rw [request_runOn]
  refine ⟨rfl, rfl, fun i hi => ?_⟩
  obtain rfl : i = 0 := by simpa using hi
  rw [Nat.add_zero]
  cases hreply : (n.answers n.sent.length).reply (method ++ " " ++ s.baseUrl ++ path)
    (Http.addressOf s.baseUrl path query) with
  | ok text =>
    obtain ⟨status, location, hanswer⟩ := Http.Answer.reply_eq_ok.1 hreply
    exact .inl ⟨text, status, location, hanswer⟩
  | error f => exact .inr ⟨rfl, f, Http.Answer.refuses_of_reply hreply, rfl⟩

theorem Heedful.request (s : Settings τ) (method path : String) (query : Option String)
    (body : Option Value) : Heedful (Rest.request s method path query body) :=
  fun n => ⟨_, answered_request s method path query body n⟩

theorem Heedful.savepointStatus (s : Settings τ) (job trigger : Value) :
    Heedful (savepointStatus s job trigger) :=
  .bind (.request s _ _ _ _) fun _ => .ofOutcome _

theorem Heedful.awaitSavepoint [Time τ] (s : Settings τ) (job trigger : Value) (start : τ)
    (looks : Nat) : Heedful (awaitSavepoint s job trigger start looks) := by
  induction looks with
  | zero => exact .fail _
  | succ looks ih =>
    refine .bind (.savepointStatus s job trigger) fun poll => ?_
    cases poll with
    | failed cause => exact .fail _
    | completed place => exact .pure place
    | pending =>
      refine .bind (.silent fun _ => ⟨rfl, rfl⟩) fun now => ?_
      split
      · exact .fail _
      · exact .bind (.silent fun _ => ⟨rfl, rfl⟩) fun _ => ih

end Rest

/-! ## Questions -/

namespace Client

/-- What a client can be asked, by what it gives. -/
inductive Question : Type → Type where
  | jobs : Question (List JobReport)
  | cancel (job : Value) : Question Unit
  | stop (job : Value) (drain : Bool) (directory : Option String) : Question Value
  | savepoint (job : Value) (directory : Option String) (cancel : Bool) : Question Value
  | status (job trigger : Value) : Question SavepointPoll

/-- Asks a client. -/
def ask {σ α : Type} (c : Client σ) : Question α → Action σ α
  | .jobs => c.listJobs
  | .cancel job => c.cancel job
  | .stop job drain directory => c.stopWithSavepoint job drain directory
  | .savepoint job directory cancel => c.triggerSavepoint job directory cancel
  | .status job trigger => c.savepointStatus job trigger

end Client

namespace Rest

variable {τ α : Type}

/-- The request that a question begins with. -/
def opening (s : Settings τ) : Client.Question α → Http.Request
  | .jobs => ⟨"GET", Http.addressOf s.baseUrl "/jobs/overview" none, none⟩
  | .cancel job => ⟨"PATCH", Http.addressOf s.baseUrl (jobPath job) (some "mode=cancel"), none⟩
  | .stop job drain directory => stopRequest s job drain directory
  | .savepoint job directory cancel =>
    ⟨"POST", Http.addressOf s.baseUrl (jobPath job ++ "/savepoints") none,
      some (bodyOf "cancel-job" cancel "target-directory" directory)⟩
  | .status job trigger => statusRequest s job trigger

/-- A question to the `client` begins with its `opening`, and is ended by an answer that is no
success. -/
theorem answered_ask [Time τ] (s : Settings τ) (q : Client.Question α) (n : Network τ) :
    ∃ later, n.Answered (((client s).ask q).runOn n).2 (opening s q :: later)
      (((client s).ask q).runOn n).1 := by
  cases q with
  | jobs => exact answered_bind (answered_request s ..) fun _ => .ofOutcome _
  | cancel job => exact answered_bind (answered_request s ..) fun _ => .pure ()
  | stop job drain directory =>
    exact answered_bind (answered_request s ..) fun _ => .bind (.ofOutcome _) fun trigger =>
      .bind (.silent fun _ => ⟨rfl, rfl⟩) fun start => .awaitSavepoint s job trigger start _
  | savepoint job directory cancel =>
    exact answered_bind (answered_request s ..) fun _ => .ofOutcome _
  | status job trigger => exact answered_bind (answered_request s ..) fun _ => .ofOutcome _

end Rest

/-! ## Savepoints on resources -/

namespace Operator

variable {ρ σ τ : Type} [Time τ] {o : Operator σ} {conf : Config} {p : Part σ (Network τ)}
  {s : Rest.Settings τ}

/-- Over the network, `Operator.requestSavepoint` is a question to `Rest.client`. -/
theorem requestSavepoint_runOn_network
    (hconnect : o.connect conf = pure ((Rest.client s).onPart p)) {directory : Option String}
    (hdirectory : conf.savepointDirectory = .ok directory) (job : Value) (w : σ) :
    ((o.requestSavepoint conf job).runOn w).1 =
      (((Rest.client s).ask (.savepoint job directory false)).runOn (p.get w)).1 := by
  rw [requestSavepoint, Client.use, hconnect, pure_bind, hdirectory]
  refine (Action.runOn_always_fst (fun u => ⟨_, rfl⟩) w).trans ?_
  rw [Action.runOn_bind, Action.runOn_ofOutcome]
  rfl

variable [Resource ρ]

/-- An `Operator.triggerSavepoint` that fails leaves the resource as it was. -/
theorem triggerSavepoint_eq_error (o : Operator σ) (job : Value) (conf : Config)
    (trigger : SavepointTrigger) {r s : ρ} {w v : σ} {f : Failure}
    (h : (o.triggerSavepoint job conf trigger).runOn (r, w) = (.error f, s, v)) : s = r := by
  rw [triggerSavepoint_runOn] at h
  split at h
  · exact (Prod.mk.inj (Prod.mk.inj h).2).1.symm
  · split at h
    · exact (Prod.mk.inj (Prod.mk.inj h).2).1.symm
    · exact nomatch h

end Operator

/-- Whatever the network makes of the requests of a call of `Rest.client`, they are `Answered`: each
of them was carried out, or it was the last one and the call fails with what its answer stands for. So
`Operator.triggerSavepoint` fails when its request was not carried out, and where it fails the
resource stays as it was. -/
theorem refused_request_ends_call {τ : Type} [Time τ] (s : Rest.Settings τ) :
    (∀ {α : Type} (q : Client.Question α) (n : Network τ), ∃ later,
      n.Answered (((Rest.client s).ask q).runOn n).2 (Rest.opening s q :: later)
        (((Rest.client s).ask q).runOn n).1) ∧
    ∀ {ρ σ : Type} [Resource ρ] {o : Operator σ} {conf : Config} {p : Part σ (Network τ)},
      o.connect conf = pure ((Rest.client s).onPart p) →
      ∀ (job : Value) (trigger : SavepointTrigger) (r : ρ) (w : σ),
        let run := (o.triggerSavepoint job conf trigger).runOn (r, w)
        (∀ f, run.1 = .error f → run.2.1 = r) ∧
        ∀ directory, conf.savepointDirectory = .ok directory →
          (¬ ∃ text, (p.get w).Carries (p.get w).sent.length text) →
            ∃ f, ((p.get w).answers (p.get w).sent.length).Refuses f ∧ run.1 = .error f := by
  refine ⟨fun q n => Rest.answered_ask s q n, ?_⟩
  intro ρ σ _ o conf p hconnect job trigger r w
  refine ⟨fun f hf => o.triggerSavepoint_eq_error job conf trigger (Prod.ext hf rfl), ?_⟩
  intro directory hdirectory hnot
  have hasked := o.requestSavepoint_runOn_network hconnect hdirectory job w
  obtain ⟨later, hanswered⟩ :=
    Rest.answered_ask s (.savepoint job directory false) (p.get w)
  -- the request was not carried out, so that it was the last one
  obtain ⟨-, f, hrefuses, hfails⟩ :=
    (hanswered.heeded 0 (by simp)).resolve_left hnot
  refine ⟨f, hrefuses, ?_⟩
  rw [hfails] at hasked
  rw [Operator.triggerSavepoint_runOn]
  rcases hrun : (o.requestSavepoint conf job).runOn w with ⟨outcome, v⟩
  rw [hrun] at hasked
  obtain rfl : outcome = .error f := hasked
  rfl

/-- A network whose server is overloaded. -/
def busyNetwork : Network Number where
  answers _ := .response 503 "try again later" none
  sent := []
  now := .int 0

/-- A savepoint that the server did not take the request for is not recorded as pending. -/
theorem overloaded_savepoint_not_recorded :
    networkOperator.connect [] = pure ((Rest.client (Rest.settingsOf {} [])).onPart .first) ∧
      Config.savepointDirectory [] = .ok none ∧
      ∃ reason v, (networkOperator.triggerSavepoint (.text "a1") [] .manual).runOn
        (runningDeployment, busyNetwork, { files := { root := "" } }) =
          (.error (.cluster reason), runningDeployment, v) := by
  have hconnect : networkOperator.connect [] =
      pure ((Rest.client (Rest.settingsOf {} [])).onPart .first) := rfl
  obtain ⟨hkept, hfails⟩ := (refused_request_ends_call (Rest.settingsOf {} [])).2 hconnect
    (.text "a1") .manual runningDeployment (busyNetwork, { files := { root := "" } })
  obtain ⟨f, hrefuses, hf⟩ := hfails none rfl (by
    rintro ⟨text, status, location, hanswer, hsuccess⟩
    cases hanswer
    exact nomatch hsuccess)
  cases hrefuses with
  | status _ _ _ reason => exact ⟨hconnect, rfl, reason, _, Prod.ext hf (Prod.ext (hkept _ hf) rfl)⟩

end FlinkSteward
