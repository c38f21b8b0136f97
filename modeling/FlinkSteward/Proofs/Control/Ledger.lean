import FlinkSteward.Proofs.Control.Suspend
import FlinkSteward.Proofs.Control.Trigger
import FlinkSteward.Proofs.Observe.Passes
import FlinkSteward.Proofs.Resource.Completed

/-!
# One pending savepoint at a time

A savepoint is asked for only while none is pending. The one that was asked for is pending until a
pass finds out what became of it, or until the job is stopped with another one; then it has ended, and
nothing is recorded of it any more.

## Key results

- `SavepointEnd`: how a request for a savepoint ends
- `sameTaken_or_ended`, `Operator.sameTaken_triggerIfDue`, `Operator.suspend_savepoints`: what the
  steps record
- `Booked`: runs, with the requests that were accepted and the steps that ended them
- `Booked.balanced`: at most the latest request is open, and it is the one that is pending
- `savepoint_request_ends_once`: what that says of passes, calls and stops
-/

namespace FlinkSteward

variable {ρ : Type} [Resource ρ] {limit : Int} {r s start : ρ}

/-! ## Requests -/

/-- A request for a savepoint that was accepted, with the steps that ended it, latest first. Such a
step is the resource before and after it. -/
structure SavepointRequest (ρ : Type) where
  id : Value
  trigger : SavepointTrigger
  ends : List (ρ × ρ) := []

namespace SavepointRequest

/-- The request that a call sent, if it was accepted. -/
def accepted : Option (SavepointTrigger × Outcome Value) → List (SavepointRequest ρ)
  | some (trigger, .ok id) => [{ id, trigger }]
  | _ => []

/-- The requests after a step. One that leaves no savepoint pending where one was has ended the latest
request. -/
def noted (r s : ρ) (requests : List (SavepointRequest ρ)) : List (SavepointRequest ρ) :=
  if (Resource.job r).savepoints.isPending ∧ (Resource.job s).savepoints.isPending = false then
    requests.modifyHead fun q => { q with ends := (r, s) :: q.ends }
  else requests

theorem noted_of_not_ended {requests : List (SavepointRequest ρ)}
    (h : (Resource.job r).savepoints.isPending = true →
      (Resource.job s).savepoints.isPending = true) : noted r s requests = requests := by
  refine if_neg fun ⟨hr, hs⟩ => ?_
  rw [h hr] at hs
  contradiction

end SavepointRequest

/-- The savepoints that were recorded are the same, whatever is pending: `lastSavepoint`, `history`
and `lastPeriodicTimestamp`. -/
structure SameTaken (r s : ρ) : Prop where
  last : (Resource.job s).savepoints.lastSavepoint = (Resource.job r).savepoints.lastSavepoint
  history : (Resource.job s).savepoints.history = (Resource.job r).savepoints.history
  periodic : (Resource.job s).savepoints.lastPeriodicTimestamp =
    (Resource.job r).savepoints.lastPeriodicTimestamp

theorem SameTaken.of_savepoints
    (h : (Resource.job s).savepoints = (Resource.job r).savepoints) : SameTaken r s :=
  ⟨by rw [h], by rw [h], by rw [h]⟩

variable [ObservedResource ρ]

/-- What ends a request for a savepoint with the id `id`, which `trigger` caused, in a step from `r` to
`s`. Passes leave at most `limit` entries in the history. -/
inductive SavepointEnd (limit : Int) (id : Value) (trigger : SavepointTrigger) (r s : ρ) : Prop where
  /-- The savepoint is there: the history gains one entry, with what caused it. -/
  | completed (time : Int) (place : Value)
    (htaken : SavepointInfo.Records (some limit)
      { timeStamp := .int time, location := place.nonNull?, trigger }
      (Resource.job r).savepoints (Resource.job s).savepoints)
    (herror : RecordedResource.error s = RecordedResource.error r)
  /-- The savepoint has failed: nothing is recorded but the error, and nothing is pending. -/
  | failed (cause : Value)
    (hcleared : (Resource.job s).savepoints = { (Resource.job r).savepoints with
      triggerId := none, triggerTimestamp := none, triggerType := none })
    (herror : RecordedResource.error s = some (savepointFailed cause))
  /-- The savepoint took too long: nothing is recorded but the error, and nothing is pending. -/
  | timedOut (job : Value) (budget : Duration)
    (hcleared : (Resource.job s).savepoints = { (Resource.job r).savepoints with
      triggerId := none, triggerTimestamp := none, triggerType := none })
    (herror : RecordedResource.error s = some (savepointTimedOut id job budget))
  /-- The job was stopped with another savepoint, which is what is recorded. -/
  | stopped {σ : Type} (o : Operator σ) (conf : Config) (w : σ) (time : Int) (place : Value)
    (hplace : place ≠ .null) (hok : ((o.suspend .savepoint conf).runOn (r, w)).1 = .ok place)
    (hstop : ((o.suspend .savepoint conf).runOn (r, w)).2.1 = s)
    (htaken : SavepointInfo.Records none
      { timeStamp := .int time, location := some place, trigger := .unknown }
      (Resource.job r).savepoints (Resource.job s).savepoints)

/-! ## What steps record -/

/-- A pass records a savepoint (not `SameTaken`) only when it ends a request. -/
theorem sameTaken_or_ended (hl : ObservedResource.Look limit r s) :
    SameTaken r s ∨ (Resource.job r).savepoints.isPending = true ∧
      (Resource.job s).savepoints.isPending = false := by
  obtain ⟨message, hres, -⟩ := ObservedResource.resolved_of_look hl
  generalize hinfo : (Resource.job s).savepoints = info at hres
  cases hres with
  | same => exact .inl (.of_savepoints hinfo)
  | dated => exact .inl ⟨by rw [hinfo], by rw [hinfo], by rw [hinfo]⟩
  | failed hpending => exact .inr ⟨hpending, rfl⟩
  | timedOut hpending => exact .inr ⟨hpending, rfl⟩
  | completed hpending => exact .inr ⟨hpending, rfl⟩

namespace Operator

variable {σ : Type} (o : Operator σ) (conf : Config) (w : σ)

/-- `Operator.triggerIfDue` records no savepoint. -/
theorem sameTaken_triggerIfDue (r : ρ) :
    SameTaken r ((o.triggerIfDue conf).runOn (r, w)).2.1 := by
  rcases o.triggerIfDue_eq_or_requested conf r w with hs | ⟨trigger, id, time, hs⟩ <;> rw [hs]
  · exact .of_savepoints rfl
  · exact ⟨by simp [SavepointInfo.begin], by simp [SavepointInfo.begin],
      by simp [SavepointInfo.begin]⟩

/-- `Operator.suspend` leaves the savepoints as they are, or `Records` its own. -/
theorem suspend_savepoints (mode : UpgradeMode) (r : ρ) :
    (Resource.job ((o.suspend mode conf).runOn (r, w)).2.1).savepoints =
        (Resource.job r).savepoints ∨
      mode = .savepoint ∧ ∃ time place, place ≠ .null ∧
        ((o.suspend mode conf).runOn (r, w)).1 = .ok place ∧
        SavepointInfo.Records none
          { timeStamp := .int time, location := some place, trigger := .unknown }
          (Resource.job r).savepoints
          (Resource.job ((o.suspend mode conf).runOn (r, w)).2.1).savepoints := by
  rcases hrun : (o.suspend mode conf).runOn (r, w) with ⟨_ | place, s, v⟩
  · rw [suspend_eq_error hrun]
    exact .inl rfl
  obtain ⟨u, time, hstop, -, rfl⟩ := suspend_eq_ok.1 hrun
  by_cases hplace : place = .null
  · subst hplace
    exact .inl (by rw [LawfulResource.job_withJob, JobStatus.stopped_null])
  refine .inr ⟨?_, time, place, hplace, rfl, ?_⟩
  · -- only a stop with a savepoint gives a place
    by_contra hmode
    exact hplace (stopJob_eq_null hmode hstop)
  · rw [LawfulResource.job_withJob, JobStatus.stopped_of_ne hplace]
    exact SavepointInfo.records_iff.2 rfl

end Operator

/-! ## Runs -/

open SavepointRequest

/-- Passes of operators that remember `limit` savepoints, calls of `Operator.triggerIfDue` and of
`Operator.suspend` in any order. Beside the resource stand the requests that were accepted, latest
first. -/
inductive Booked (limit : Int) (start : ρ) : ρ → List (SavepointRequest ρ) → Prop where
  | start : Booked limit start start []
  | looked {r s : ρ} {requests : List (SavepointRequest ρ)} (h : Booked limit start r requests)
    (hl : ObservedResource.Look limit r s) : Booked limit start s (noted r s requests)
  /-- The cluster gives a text as the id of a request that it accepts. -/
  | triggered {r : ρ} {requests : List (SavepointRequest ρ)} {σ : Type} {o : Operator σ}
    (h : Booked limit start r requests) (ho : o.Dependable) (conf : Config) (w : σ)
    (hid : ∀ trigger id, o.asked conf r w = some (trigger, .ok id) →
      ∃ text, id = .text text ∧ text ≠ "") :
    Booked limit start ((o.triggerIfDue conf).runOn (r, w)).2.1
      (accepted (o.asked conf r w) ++
        noted r ((o.triggerIfDue conf).runOn (r, w)).2.1 requests)
  | suspended {r : ρ} {requests : List (SavepointRequest ρ)} {σ : Type}
    (h : Booked limit start r requests) (o : Operator σ) (mode : UpgradeMode) (conf : Config)
    (w : σ) :
    Booked limit start ((o.suspend mode conf).runOn (r, w)).2.1
      (noted r ((o.suspend mode conf).runOn (r, w)).2.1 requests)
  /-- Anything else that leaves the savepoints of the job. -/
  | edited {r s : ρ} {requests : List (SavepointRequest ρ)} (h : Booked limit start r requests)
    (hsame : (Resource.job s).savepoints = (Resource.job r).savepoints) :
    Booked limit start s requests

/-- At most the latest request is open, and it is the one that is pending. -/
structure Balanced (limit : Int) (r : ρ) (requests : List (SavepointRequest ρ)) : Prop where
  /-- What is pending is the latest request, which is open. -/
  pending : (Resource.job r).savepoints.isPending = true → ∃ q, requests.head? = some q ∧
    q.ends = [] ∧ (Resource.job r).savepoints.triggerId = some q.id ∧
    (Resource.job r).savepoints.triggerType = some q.trigger
  /-- While nothing is pending, no request is open. -/
  idle : (Resource.job r).savepoints.isPending = false → ∀ q ∈ requests, q.ends.length = 1
  /-- No request before the latest is open. -/
  earlier : ∀ q ∈ requests.tail, q.ends.length = 1
  /-- Each ended while it was the pending one. -/
  ended : ∀ q ∈ requests, ∀ e ∈ q.ends,
    (Resource.job e.1).savepoints.triggerId = some q.id ∧ SavepointEnd limit q.id q.trigger e.1 e.2

namespace Balanced

variable {requests : List (SavepointRequest ρ)}

/-- A step that leaves what is pending leaves the requests `Balanced`. -/
theorem of_same (h : Balanced limit r requests)
    (hid : (Resource.job s).savepoints.triggerId = (Resource.job r).savepoints.triggerId)
    (htype : (Resource.job s).savepoints.triggerType = (Resource.job r).savepoints.triggerType) :
    Balanced limit s (noted r s requests) := by
  have hsame : (Resource.job s).savepoints.isPending = (Resource.job r).savepoints.isPending := by
    rw [SavepointInfo.isPending, hid, SavepointInfo.isPending]
  rw [noted_of_not_ended hsame.trans]
  exact ⟨by rw [hsame, hid, htype]; exact h.pending, by rw [hsame]; exact h.idle, h.earlier, h.ended⟩

/-- A step that leaves nothing pending, and is the `SavepointEnd` of the request that was pending if
there was one, leaves the requests `Balanced`. -/
theorem of_ended (h : Balanced limit r requests)
    (hs : (Resource.job s).savepoints.isPending = false)
    (hend : (Resource.job r).savepoints.isPending = true → ∀ id trigger,
      (Resource.job r).savepoints.triggerId = some id →
      (Resource.job r).savepoints.triggerType = some trigger → SavepointEnd limit id trigger r s) :
    Balanced limit s (noted r s requests) := by
  cases hr : (Resource.job r).savepoints.isPending with
  | false =>
    rw [noted_of_not_ended (nomatch hr.symm.trans ·)]
    exact ⟨(nomatch hs.symm.trans ·), fun _ => h.idle hr, h.earlier, h.ended⟩
  | true =>
    obtain ⟨q, hhead, hopen, hid, htype⟩ := h.pending hr
    obtain ⟨rest, rfl⟩ := List.head?_eq_some_iff.1 hhead
    have hclosed : ∀ p ∈ noted r s (q :: rest), p.ends.length = 1 := by
      rw [noted, if_pos ⟨hr, hs⟩, List.modifyHead_cons, List.forall_mem_cons]
      exact ⟨by simp [hopen], h.earlier⟩
    refine ⟨(nomatch hs.symm.trans ·), fun _ => hclosed,
      fun p hp => hclosed p (List.mem_of_mem_tail hp), ?_⟩
    -- the end of the latest request is this step; the ends of others are known already
    rw [noted, if_pos ⟨hr, hs⟩, List.modifyHead_cons, List.forall_mem_cons]
    refine ⟨?_, fun p hp => h.ended p (.tail _ hp)⟩
    rintro e he
    obtain rfl : e = (r, s) := by simpa [hopen] using he
    exact ⟨hid, hend hr q.id q.trigger hid htype⟩

/-- A request that is accepted while nothing is pending leaves the requests `Balanced`. -/
theorem granted (h : Balanced limit r requests) {id : Value} {trigger : SavepointTrigger}
    (hr : (Resource.job r).savepoints.isPending = false)
    (hs : (Resource.job s).savepoints.isPending = true)
    (hid : (Resource.job s).savepoints.triggerId = some id)
    (htype : (Resource.job s).savepoints.triggerType = some trigger) :
    Balanced limit s ({ id, trigger } :: noted r s requests) := by
  rw [noted_of_not_ended fun _ => hs]
  refine ⟨fun _ => ⟨_, rfl, rfl, hid, htype⟩, (nomatch hs.symm.trans ·), h.idle hr, ?_⟩
  exact List.forall_mem_cons.2 ⟨nofun, h.ended⟩

/-- No request that is `Balanced` ends twice. -/
theorem length_ends_le (h : Balanced limit r requests) : ∀ q ∈ requests, q.ends.length ≤ 1 := by
  cases hr : (Resource.job r).savepoints.isPending with
  | false => exact fun q hq => (h.idle hr q hq).le
  | true =>
    obtain ⟨q, hhead, hopen, -⟩ := h.pending hr
    obtain ⟨rest, rfl⟩ := List.head?_eq_some_iff.1 hhead
    exact List.forall_mem_cons.2 ⟨by simp [hopen], fun p hp => (h.earlier p hp).le⟩

/-- A pass (`ObservedResource.Look`) ends the pending request, or leaves it. -/
theorem looked (h : Balanced limit r requests) (hl : ObservedResource.Look limit r s) :
    Balanced limit s (noted r s requests) := by
  obtain ⟨message, hres, herror⟩ := ObservedResource.resolved_of_look hl
  generalize hinfo : (Resource.job s).savepoints = info at hres
  cases hres with
  | same => exact h.of_same (by rw [hinfo]) (by rw [hinfo])
  | dated => exact h.of_same (by rw [hinfo]) (by rw [hinfo])
  | failed _ cause =>
    exact h.of_ended (by rw [hinfo, SavepointInfo.isPending_clear]) fun _ _ _ _ _ =>
      .failed cause hinfo herror
  | timedOut _ job budget =>
    refine h.of_ended (by rw [hinfo, SavepointInfo.isPending_clear]) fun _ id _ hid _ => ?_
    rw [hid] at herror
    exact .timedOut job budget hinfo herror
  | completed _ time place =>
    refine h.of_ended (by rw [hinfo, SavepointInfo.isPending_complete]) fun _ _ _ _ htype => ?_
    rw [htype] at hinfo
    exact .completed time place (SavepointInfo.records_iff.2 hinfo) herror

/-- `Operator.triggerIfDue` has a request accepted while nothing is pending, or leaves what is. -/
theorem triggered {σ : Type} {o : Operator σ} (h : Balanced limit r requests) (ho : o.Dependable)
    (conf : Config) (w : σ)
    (hid : ∀ trigger id, o.asked conf r w = some (trigger, .ok id) →
      ∃ text, id = .text text ∧ text ≠ "") :
    Balanced limit ((o.triggerIfDue conf).runOn (r, w)).2.1
      (accepted (o.asked conf r w) ++
        noted r ((o.triggerIfDue conf).runOn (r, w)).2.1 requests) := by
  have hcall := o.asked_outcome ho conf r w
  rcases hrun : (o.triggerIfDue conf).runOn (r, w) with ⟨outcome, s, v⟩
  rcases hask : o.asked conf r w with _ | ⟨trigger, _ | id⟩ <;> rw [hask, hrun] at hcall
  · obtain ⟨rfl, -⟩ := hcall
    exact h.of_same rfl rfl
  · obtain ⟨rfl, -⟩ := hcall
    exact h.of_same rfl rfl
  obtain ⟨-, time, rfl⟩ := hcall
  obtain ⟨job, haskable⟩ := Operator.askable_of_asked hask
  obtain ⟨text, rfl, htext⟩ := hid trigger id hask
  obtain ⟨-, -, -, hidle⟩ := Resource.askable_eq_some haskable
  refine h.granted hidle ?_ ?_ ?_ <;>
    simp [SavepointInfo.begin, SavepointInfo.isPending, Value.nonNull?, Value.isTruthy, htext]

/-- `Operator.suspend` with a savepoint ends the pending request; other stops leave it. -/
theorem suspended {σ : Type} (h : Balanced limit r requests) (o : Operator σ) (mode : UpgradeMode)
    (conf : Config) (w : σ) :
    Balanced limit ((o.suspend mode conf).runOn (r, w)).2.1
      (noted r ((o.suspend mode conf).runOn (r, w)).2.1 requests) := by
  rcases o.suspend_savepoints conf w mode r with hsame | ⟨rfl, time, place, hplace, hok, htaken⟩
  · exact h.of_same (by rw [hsame]) (by rw [hsame])
  · exact h.of_ended (by rw [SavepointInfo.isPending, htaken.triggerId]) fun _ _ _ _ _ =>
      .stopped o conf w time place hplace hok rfl htaken

end Balanced

/-- Requests that are `Booked` are `Balanced`. By induction on the run, with a case for each of its
steps. -/
theorem Booked.balanced {requests : List (SavepointRequest ρ)} (h : Booked limit start r requests)
    (hstart : (Resource.job start).savepoints.isPending = false) : Balanced limit r requests := by
  induction h with
  | start => exact ⟨(nomatch hstart.symm.trans ·), nofun, nofun, nofun⟩
  | looked _ hl ih => exact ih.looked hl
  | triggered _ ho conf w hid ih => exact ih.triggered ho conf w hid
  | suspended _ o mode conf w ih => exact ih.suspended o mode conf w
  | @edited r s requests _ hsame ih =>
    have hnoted := ih.of_same (s := s) (by rw [hsame]) (by rw [hsame])
    rwa [noted_of_not_ended fun hr => hsame ▸ hr] at hnoted

/-- However often a job without a pending savepoint is looked at, asked for savepoints and stopped,
and whatever its clusters answer (`Booked`), the requests that were accepted are `Balanced`: what is
pending is the latest of them, and every request ends at most once, by a `SavepointEnd`. A request is
sent only while no savepoint is pending. A pass that ends no request leaves what is recorded, as a
call of `Operator.triggerIfDue` always does (`SameTaken`), and a stop `Records` no more than its own
savepoint. -/
theorem savepoint_request_ends_once {requests : List (SavepointRequest ρ)}
    (h : Booked limit start r requests)
    (hstart : (Resource.job start).savepoints.isPending = false) :
    Balanced limit r requests ∧ (∀ q ∈ requests, q.ends.length ≤ 1) ∧
    ((Resource.job r).savepoints.isPending = true → ∀ {σ : Type} (o : Operator σ) conf w,
      o.asked conf r w = none ∧ (o.triggerIfDue conf).runOn (r, w) = (.ok none, r, w)) ∧
    (∀ {s}, ObservedResource.Look limit r s → SameTaken r s ∨
      (Resource.job r).savepoints.isPending = true ∧
        (Resource.job s).savepoints.isPending = false) ∧
    (∀ {σ : Type} (o : Operator σ) conf w,
      SameTaken r ((o.triggerIfDue conf).runOn (r, w)).2.1) ∧
    ∀ {σ : Type} (o : Operator σ) mode conf w,
      (Resource.job ((o.suspend mode conf).runOn (r, w)).2.1).savepoints =
          (Resource.job r).savepoints ∨
        mode = .savepoint ∧ ∃ time place, place ≠ .null ∧
          ((o.suspend mode conf).runOn (r, w)).1 = .ok place ∧
          SavepointInfo.Records none
            { timeStamp := .int time, location := some place, trigger := .unknown }
            (Resource.job r).savepoints
            (Resource.job ((o.suspend mode conf).runOn (r, w)).2.1).savepoints := by
  have hbalanced := h.balanced hstart
  exact ⟨hbalanced, hbalanced.length_ends_le, fun hpending _ _ _ _ =>
    Operator.triggerIfDue_of_pending hpending, sameTaken_or_ended,
    fun o conf w => o.sameTaken_triggerIfDue conf w r,
    fun o mode conf w => o.suspend_savepoints conf w mode r⟩

/-- A cluster whose user asks for a savepoint. -/
def askingDeployment : Deployment where
  metadata := { name := some "basic" }
  spec := { job := some { savepointTriggerNonce := some (.int 1) } }
  status.job := { jobId := some "a1" }

/-- A job on a session cluster whose user asks for a savepoint. -/
def askingJob : SessionJob where
  spec.job := some { savepointTriggerNonce := some (.int 1) }
  status.job.jobId := some "a1"
  status.reconciliation.lastReconciledSpec := some "{}"

/-- A cluster in memory on which the savepoint that was asked for first is there. -/
def savedWorld : Simulation.World where
  files := { root := "" }
  cluster.jobs := [⟨.text "a1", .text "job", .text "RUNNING", .int 0⟩]
  cluster.savepoints := [(.text "trigger-1", .completed (.text "file:///savepoints/1"))]

/-- A resource after the call that asks for its savepoint. -/
def afterRequest {ρ : Type} [Resource ρ] (r : ρ) : ρ :=
  ((memoryOperator.triggerIfDue []).runOn (r, quietWorld)).2.1

/-- The job after the pass that finds its savepoint. -/
def savedJob : SessionJob :=
  ((memoryOperator.observeSessionJob (some { status.manager := .ready })).runOn
    (afterRequest askingJob, savedWorld)).2.1

variable (limit) in
/-- The request of a user is `Booked`. -/
theorem booked_afterRequest
    (hasked : memoryOperator.asked [] r quietWorld = some (.manual, .ok (.text "trigger-1")))
    (hpending : (Resource.job (afterRequest r)).savepoints.isPending = true) :
    Booked limit r (afterRequest r) [{ id := .text "trigger-1", trigger := .manual }] := by
  have hid : ∀ trigger id, memoryOperator.asked [] r quietWorld = some (trigger, .ok id) →
      ∃ text, id = .text text ∧ text ≠ "" := by
    rw [hasked]
    rintro _ _ ⟨⟩
    exact ⟨_, rfl, by decide⟩
  have hstart : Booked limit r r [] := .start
  have hrun := hstart.triggered memoryOperator_dependable [] quietWorld hid
  unfold afterRequest at hpending ⊢
  rwa [hasked, noted_of_not_ended fun _ => hpending] at hrun

/-- The savepoint that was asked for ends with a stop of the cluster. The one of the job on a session
cluster is found by a pass, and becomes the only entry of its `history`, with what caused it. -/
theorem asked_savepoint_ends_once :
    (askingDeployment.status.job.savepoints.isPending = false ∧ ∃ d q,
      Booked 10 askingDeployment d [q] ∧ q.id = .text "trigger-1" ∧ q.trigger = .manual ∧
        q.ends.length = 1) ∧
    askingJob.status.job.savepoints.isPending = false ∧ ∃ q,
      Booked 10 askingJob savedJob [q] ∧ q.id = .text "trigger-1" ∧
        q.ends = [(afterRequest askingJob, savedJob)] ∧
        ∃ p, p.trigger = .manual ∧ p.location = some (.text "file:///savepoints/1") ∧
          savedJob.status.job.savepoints.history = [some p] := by
  constructor
  · have hpending : (afterRequest askingDeployment).status.job.savepoints.isPending = true := by
      decide +kernel
    have hidle : (Resource.job ((memoryOperator.suspend .savepoint []).runOn
        (afterRequest askingDeployment, quietWorld)).2.1).savepoints.isPending = false := by
      decide +kernel
    have hrun := (booked_afterRequest 10 (r := askingDeployment) (by decide +kernel) hpending).suspended
      memoryOperator .savepoint [] quietWorld
    -- the request that the call sent is the one that the stop ends
    rw [noted, if_pos ⟨hpending, hidle⟩] at hrun
    have hends := (savepoint_request_ends_once hrun rfl).1.idle hidle _ (.head _)
    exact ⟨rfl, _, _, hrun, rfl, rfl, hends⟩
  · have hpending : (afterRequest askingJob).status.job.savepoints.isPending = true := by decide +kernel
    have hidle : savedJob.status.job.savepoints.isPending = false := by decide +kernel
    have hlook : ObservedResource.Look 10 (afterRequest askingJob) savedJob :=
      .observed (o := memoryOperator) rfl _ savedWorld
    have hrun := (booked_afterRequest 10 (r := askingJob) (by decide +kernel) hpending).looked hlook
    rw [noted, if_pos ⟨hpending, hidle⟩] at hrun
    have hend : SavepointEnd 10 (.text "trigger-1") .manual (afterRequest askingJob) savedJob :=
      ((savepoint_request_ends_once hrun rfl).1.ended _ (.head _) _ (.head _)).2
    refine ⟨rfl, _, hrun, rfl, rfl, ?_⟩
    have herror : savedJob.status.error = none := by decide +kernel
    have hlast : savedJob.status.job.savepoints.lastSavepoint.map
        (fun p => (p.location, p.trigger)) =
          some (some (.text "file:///savepoints/1"), .manual) := by decide +kernel
    cases hend with
    | completed time place htaken =>
      rw [show savedJob.status.job.savepoints.lastSavepoint = _ from htaken.last] at hlast
      obtain ⟨hplace, -⟩ := Prod.mk.inj (Option.some.inj hlast)
      -- nothing was recorded before, and one entry is within the limit
      have hbefore : (Resource.job (afterRequest askingJob)).savepoints.history = [] := by
        decide +kernel
      have hcount := htaken.length_history
      have hhistory := htaken.history
      rw [hbefore] at hcount hhistory
      exact ⟨_, rfl, hplace, hhistory.eq_of_length hcount⟩
    | failed cause _ hfailed => exact nomatch herror.symm.trans hfailed
    | timedOut job budget _ hlate => exact nomatch herror.symm.trans hlate
    | stopped o conf w time place _ _ _ htaken =>
      rw [show savedJob.status.job.savepoints.lastSavepoint = _ from htaken.last] at hlast
      exact nomatch hlast

end FlinkSteward
