import FlinkSteward.Proofs.Observe.Readiness

/-!
# Looks at a tracked job

A look at a job lists the jobs of its cluster and takes over what is reported of the one with its id. A
listing that comes too late, or not at all in time, has the caller's own measure taken, once. Whatever
fails leaves the job as it was, and the order of the listing does not matter.

Measures are counted in a world that has a count beside it, and is the same otherwise.

## Key results

- `matchingJob_perm`: the order of a listing
- `Operator.ListsLate`, `Operator.ListingFails`: listings that come too late, and that fail
- `Operator.observeJob_counted`: how often the measure is taken
- `Operator.observeJob_error_job`: what fails leaves the job
- `job_tracked_once`: what a look gives and leaves
-/

namespace FlinkSteward

open Simulation FlinkSteward.Text

/-- `matchingJob` compares ids in lower case and without the blanks around them. -/
theorem matchingJob_eq (id : String) (jobs : List JobReport) :
    matchingJob id jobs =
      match jobs.filter fun j => lower (strip j.id.shown) = lower (strip id) with
      | [] => .ok none
      | [j] => .ok (some j)
      | several => .error (severalJobs id several.length) := rfl

/-- The order of a listing does not matter to `matchingJob`. -/
theorem matchingJob_perm (id : String) {jobs others : List JobReport} (h : jobs.Perm others) :
    matchingJob id jobs = matchingJob id others := by
  have hperm := h.filter fun j => decide (normalizedId j.id.shown = normalizedId id)
  unfold matchingJob
  generalize jobs.filter _ = found at hperm
  generalize others.filter _ = again at hperm
  -- only the number of the jobs that were found matters, unless it is one
  match found, again, hperm with
  | [], _, hperm => rw [hperm.nil_eq]
  | [j], _, hperm => rw [List.singleton_perm.1 hperm]
  | j :: k :: rest, [], hperm => exact nomatch hperm.length_eq
  | j :: k :: rest, [l], hperm => exact nomatch hperm.length_eq
  | j :: k :: rest, l :: m :: more, hperm => simp only [hperm.length_eq]

/-! ## Measures that are counted -/

/-- A measure on a resource, with a count beside the world of how often it was taken. -/
def Subject.counted {ρ σ : Type} (measure : Action (ρ × σ) Unit) : Action (ρ × (σ × Nat)) Unit :=
  .ofRun fun s =>
    let (outcome, r, w) := measure.runOn (s.1, s.2.1)
    (outcome, r, w, s.2.2 + 1)

namespace Operator

variable {ρ σ : Type} {o : Operator σ} {conf : Config} {budget : Option Duration}
  {measure : Action (ρ × σ) Unit} {r : ρ} {w : σ} {id : String}

/-- A look at a tracked job: what it gives and what it leaves, the latter with a count of the measures
that were taken. -/
def countedLook [Resource ρ] (o : Operator σ) (conf : Config) (budget : Option Duration)
    (measure : Action (ρ × σ) Unit) (r : ρ) (w : σ) : Outcome Bool × ρ × σ × Nat :=
  ((o.onPart Part.first).observeJob conf budget (Subject.counted measure)).runOn (r, w, 0)

/-- Asked for its jobs, the cluster does not answer, or not as it should. -/
def ListingFails (o : Operator σ) (conf : Config) (w : σ) (f : Failure) (v : σ) : Prop :=
  ∃ start u, o.uptime.runOn w = (.ok start, u) ∧ (o.listJobs conf).runOn u = (.error f, v)

/-- The listing of the jobs does not come in time, or takes longer than its budget. -/
inductive ListsLate (o : Operator σ) (conf : Config) (budget : Option Duration) (w : σ) : Prop where
  | never {f : Failure} {v : σ} (h : o.ListingFails conf w f v) (htimeout : isTimeout f = true)
  | slowly {jobs : List JobReport} {elapsed : Double} {b : Duration} {v : σ}
    (h : o.Lists conf w jobs elapsed v) (hbudget : budget = some b)
    (hover : elapsed.compare? b.seconds = some .gt)

/-- Listings that came to the same, but for the order of the jobs. -/
inductive ListedAlike : Outcome (List JobReport) × σ → Outcome (List JobReport) × σ → Prop where
  | failed (f : Failure) (v : σ) : ListedAlike (.error f, v) (.error f, v)
  | listed {jobs others : List JobReport} (h : jobs.Perm others) (v : σ) :
    ListedAlike (.ok jobs, v) (.ok others, v)

variable [Resource ρ]

/-- `takeReport` from its parts. -/
theorem takeReport_runOn (jobs : List JobReport) :
    (o.takeReport id jobs).runOn (r, w) =
      match matchingJob id jobs with
      | .error f => (.error f, r, w)
      | .ok none => (.ok false, r, w)
      | .ok (some report) =>
        match o.now.runOn w with
        | (.error f, v) => (.error f, r, v)
        | (.ok now, v) =>
          (.ok true, Resource.withJob r ((Resource.job r).observed report now), v) := by
  rw [takeReport, Action.runOn_bind, Action.runOn_ofOutcome]
  rcases matchingJob id jobs with f | _ | report
  · rfl
  · rfl
  · dsimp only
    rw [Action.runOn_bind, Subject.runOn_outside]
    rcases o.now.runOn w with ⟨_ | now, v⟩ <;> rfl

/-- A `takeReport` that fails leaves the resource as it was. -/
theorem takeReport_error {jobs : List JobReport} {f : Failure}
    (h : ((o.takeReport id jobs).runOn (r, w)).1 = .error f) :
    ((o.takeReport id jobs).runOn (r, w)).2.1 = r := by
  rw [takeReport_runOn] at h ⊢
  rcases hmatch : matchingJob id jobs with _ | _ | report
  · rfl
  · rfl
  · rw [hmatch] at h
    rcases hnow : o.now.runOn w with ⟨_ | now, v⟩
    · rfl
    · rw [hnow] at h
      exact nomatch h

/-! ## How often the measure is taken -/

theorem listsLate_iff_of_fails {f : Failure} {v : σ} (h : o.ListingFails conf w f v) :
    o.ListsLate conf budget w ↔ isTimeout f = true := by
  obtain ⟨start, u, hstart, hlist⟩ := h
  constructor
  · rintro (⟨⟨start', u', hstart', hlist'⟩, htimeout⟩ | ⟨⟨start', _, u', _, hstart', hlist', _, _⟩, _, _⟩)
    -- both speak of the one listing that there is
    all_goals
      obtain ⟨⟨⟩, rfl⟩ := Prod.mk.inj (hstart.symm.trans hstart')
      obtain ⟨hsame, -⟩ := Prod.mk.inj (hlist.symm.trans hlist')
    · rwa [Except.error.inj hsame]
    · exact nomatch hsame
  · exact fun htimeout => .never ⟨start, u, hstart, hlist⟩ htimeout

omit [Resource ρ] in
theorem isOverBudget_iff {elapsed : Double} : isOverBudget budget elapsed = true ↔
    ∃ b, budget = some b ∧ elapsed.compare? b.seconds = some .gt := by
  simp [isOverBudget, Option.any_eq_true]

theorem listsLate_iff_of_lists {jobs : List JobReport} {elapsed : Double} {v : σ}
    (h : o.Lists conf w jobs elapsed v) :
    o.ListsLate conf budget w ↔ isOverBudget budget elapsed = true := by
  obtain ⟨start, stop, u, u', hstart, hlist, hstop, helapsed⟩ := h
  rw [isOverBudget_iff]
  constructor
  · rintro (⟨⟨start', x, hstart', hlist'⟩, htimeout⟩ |
      ⟨⟨start', stop', x, x', hstart', hlist', hstop', helapsed'⟩, hbudget, hover⟩)
    all_goals obtain ⟨⟨⟩, rfl⟩ := Prod.mk.inj (hstart.symm.trans hstart')
    · exact nomatch hlist.symm.trans hlist'
    · obtain ⟨-, rfl⟩ := Prod.mk.inj (hlist.symm.trans hlist')
      obtain ⟨⟨⟩, -⟩ := Prod.mk.inj (hstop.symm.trans hstop')
      rw [helapsed, ← helapsed']
      exact ⟨_, hbudget, hover⟩
  · rintro ⟨b, hbudget, hover⟩
    exact .slowly ⟨start, stop, u, u', hstart, hlist, hstop, helapsed⟩ hbudget hover

theorem not_listsLate_of_unstarted {f : Failure} {v : σ} (h : o.uptime.runOn w = (.error f, v)) :
    ¬ o.ListsLate conf budget w := by
  rintro (⟨⟨_, _, hstart, _⟩, _⟩ | ⟨⟨_, _, _, _, hstart, _, _, _⟩, _, _⟩)
  all_goals exact nomatch h.symm.trans hstart

theorem not_listsLate_of_unstopped {f : Failure} {jobs : List JobReport} {start : Double} {u v x : σ}
    (hstart : o.uptime.runOn w = (.ok start, u)) (hlist : (o.listJobs conf).runOn u = (.ok jobs, v))
    (hstop : o.uptime.runOn v = (.error f, x)) : ¬ o.ListsLate conf budget w := by
  rintro (⟨⟨_, _, hstart', hlist'⟩, _⟩ | ⟨⟨_, _, _, _, hstart', hlist', hstop', _⟩, _, _⟩)
  all_goals obtain ⟨⟨⟩, rfl⟩ := Prod.mk.inj (hstart.symm.trans hstart')
  · exact nomatch hlist.symm.trans hlist'
  · obtain ⟨-, rfl⟩ := Prod.mk.inj (hlist.symm.trans hlist')
    exact nomatch hstop.symm.trans hstop'

theorem uptime_counted (o : Operator σ) (w : σ) (calls : Nat) :
    (o.onPart Part.first).uptime.runOn (w, calls) =
      ((o.uptime.runOn w).1, (o.uptime.runOn w).2, calls) := rfl

theorem listJobs_counted (o : Operator σ) (conf : Config) (w : σ) (calls : Nat) :
    ((o.onPart Part.first).listJobs conf).runOn (w, calls) =
      (((o.listJobs conf).runOn w).1, ((o.listJobs conf).runOn w).2, calls) := by
  have hpart : (o.onPart (Part.first (τ := Nat))).listJobs conf = .onPart .first (o.listJobs conf) :=
    Client.use_onPart_first (o.connect conf) fun _ => rfl
  rw [hpart, Action.runOn_onPart]
  rfl

/-- The same with a count beside the world. -/
def withCount {α : Type} (x : Outcome α × ρ × σ) (calls : Nat) : Outcome α × ρ × σ × Nat :=
  (x.1, x.2.1, x.2.2, calls)

theorem takeReport_counted (jobs : List JobReport) (r : ρ) (w : σ) (calls : Nat) :
    ((o.onPart Part.first).takeReport id jobs).runOn (r, w, calls) =
      withCount ((o.takeReport id jobs).runOn (r, w)) calls := by
  rw [takeReport_runOn, takeReport_runOn]
  rcases matchingJob id jobs with f | _ | report
  · rfl
  · rfl
  · dsimp only [onPart, Part.first, Action.runOn_onPart]
    rcases o.now.runOn w with ⟨_ | now, v⟩ <;> rfl

omit [Resource ρ] in
/-- A `Subject.counted` measure and what comes after it. -/
theorem counted_bind {α : Type} (measure : Action (ρ × σ) Unit) (next : Action (ρ × σ) α)
    (next' : Action (ρ × σ × Nat) α)
    (h : ∀ r w calls, next'.runOn (r, w, calls) = withCount (next.runOn (r, w)) calls)
    (r : ρ) (w : σ) (calls : Nat) :
    (Subject.counted measure >>= fun _ => next').runOn (r, w, calls) =
      withCount ((measure >>= fun _ => next).runOn (r, w)) (calls + 1) := by
  rw [Action.runOn_bind, Action.runOn_bind, Subject.counted, Action.runOn_ofRun]
  rcases measure.runOn (r, w) with ⟨_ | _, s, v⟩
  · rfl
  · exact h s v (calls + 1)

/-- `observeJob` takes the measure once if the operator `ListsLate`, and not at all otherwise. -/
theorem observeJob_counted (hid : (Resource.job r).jobId = some id) (hne : id ≠ "") :
    ∃ calls, o.countedLook conf budget measure r w =
        withCount ((o.observeJob conf budget measure).runOn (r, w)) calls ∧
      (o.ListsLate conf budget w → calls = 1) ∧ (¬ o.ListsLate conf budget w → calls = 0) := by
  rw [countedLook, observeJob_runOn_tracked hid hne, observeJob_runOn_tracked hid hne,
    uptime_counted]
  rcases hstart : o.uptime.runOn w with ⟨f | start, v⟩
  · have hearly : ¬ o.ListsLate conf budget w := not_listsLate_of_unstarted hstart
    exact ⟨0, rfl, fun hlate => absurd hlate hearly, fun _ => rfl⟩
  dsimp only
  rw [listJobs_counted]
  rcases hlist : (o.listJobs conf).runOn v with ⟨f | jobs, u⟩
  · -- a listing that fails has no length, and is late if it was given up
    have hlate : o.ListsLate conf budget w ↔ isTimeout f = true :=
      listsLate_iff_of_fails ⟨start, v, hstart, hlist⟩
    cases htimeout : isTimeout f with
    | true =>
      have hcounted := counted_bind measure (.fail f : Action _ Bool) (.fail f) (fun _ _ _ => rfl)
        r u 0
      exact ⟨1, by simpa only [htimeout, if_true] using hcounted, fun _ => rfl,
        fun hearly => absurd (hlate.2 htimeout) hearly⟩
    | false =>
      refine ⟨0, ?_, fun h => (nomatch htimeout.symm.trans (hlate.1 h)), fun _ => rfl⟩
      simp only [htimeout, Bool.false_eq_true, if_false, withCount]
  dsimp only
  rw [uptime_counted]
  rcases hstop : o.uptime.runOn u with ⟨f | stop, x⟩
  · have hearly : ¬ o.ListsLate conf budget w := not_listsLate_of_unstopped hstart hlist hstop
    exact ⟨0, rfl, fun hlate => absurd hlate hearly, fun _ => rfl⟩
  -- a listing that succeeds is late by the time between its two ends
  have hlate : o.ListsLate conf budget w ↔ isOverBudget budget (stop.sub start) = true :=
    listsLate_iff_of_lists ⟨start, stop, v, u, hstart, hlist, hstop, rfl⟩
  cases hover : isOverBudget budget (stop.sub start) with
  | true =>
    have hcounted := counted_bind measure (o.takeReport id jobs) _ (takeReport_counted jobs) r x 0
    refine ⟨1, ?_, fun _ => rfl, fun hearly => absurd (hlate.2 hover) hearly⟩
    simpa only [hover, if_true] using hcounted
  | false =>
    refine ⟨0, ?_, fun h => (nomatch hover.symm.trans (hlate.1 h)), fun _ => rfl⟩
    simpa only [hover, Bool.false_eq_true, if_false] using takeReport_counted jobs r x 0

/-! ## What a look gives and leaves -/

/-- A measure leaves what was observed of the job. -/
def LeavesJob (measure : Action (ρ × σ) Unit) : Prop :=
  ∀ s v, Resource.job (measure.runOn (s, v)).2.1 = Resource.job s

/-- `observeManager` leaves the job. -/
theorem leavesJob_observeManager (o : Operator σ) (conf : Config) :
    LeavesJob (o.observeManager conf) := by
  intro d v
  rw [observeManager_runOn]
  rcases (o.readManager conf).runOn v with ⟨_ | found, u⟩ <;> rfl

/-- What fails after a measure that leaves the job (`LeavesJob`) leaves it, too, if it does so by
itself. -/
theorem LeavesJob.job_of_bind_error {α : Type} {next : Action (ρ × σ) α} {x : σ} {f : Failure}
    (hmeasure : LeavesJob measure)
    (hnext : ∀ s v, (next.runOn (s, v)).1 = .error f → (next.runOn (s, v)).2.1 = s)
    (h : ((measure >>= fun _ => next).runOn (r, x)).1 = .error f) :
    Resource.job ((measure >>= fun _ => next).runOn (r, x)).2.1 = Resource.job r := by
  have hkept := hmeasure r x
  rw [Action.runOn_bind] at h ⊢
  rcases hrun : measure.runOn (r, x) with ⟨g | _, s, v⟩
  · rwa [hrun] at hkept
  · rw [hrun] at h hkept
    exact (congrArg Resource.job (hnext s v h)).trans hkept

/-- An `observeJob` that fails leaves the job as it was. -/
theorem observeJob_error_job (hid : (Resource.job r).jobId = some id) (hne : id ≠ "")
    (hmeasure : LeavesJob measure) {f : Failure}
    (h : ((o.observeJob conf budget measure).runOn (r, w)).1 = .error f) :
    Resource.job ((o.observeJob conf budget measure).runOn (r, w)).2.1 = Resource.job r := by
  rw [observeJob_runOn_tracked hid hne] at h ⊢
  rcases hstart : o.uptime.runOn w with ⟨_ | start, v⟩
  · rfl
  rw [hstart] at h
  dsimp only at h ⊢
  rcases hlist : (o.listJobs conf).runOn v with ⟨g | jobs, u⟩
  · rw [hlist] at h
    dsimp only at h ⊢
    cases htimeout : isTimeout g with
    | true =>
      simp only [htimeout, if_true] at h ⊢
      exact hmeasure.job_of_bind_error (fun _ _ _ => rfl) h
    | false => simp only [Bool.false_eq_true, if_false]
  rw [hlist] at h
  dsimp only at h ⊢
  -- what can fail from here on is the clock, the measure, and the report
  rcases hstop : o.uptime.runOn u with ⟨_ | stop, x⟩
  · rfl
  rw [hstop] at h
  dsimp only at h ⊢
  cases hover : isOverBudget budget (stop.sub start) with
  | true =>
    simp only [hover, if_true] at h ⊢
    exact hmeasure.job_of_bind_error (fun _ _ => takeReport_error) h
  | false =>
    simp only [hover, Bool.false_eq_true, if_false] at h ⊢
    exact congrArg Resource.job (takeReport_error h)

theorem observeJob_runOn_of_fails (hid : (Resource.job r).jobId = some id) (hne : id ≠ "")
    {f : Failure} {v : σ} (h : o.ListingFails conf w f v) :
    (o.observeJob conf budget measure).runOn (r, w) =
      if isTimeout f then (measure >>= fun _ => .fail f).runOn (r, v) else (.error f, r, v) := by
  obtain ⟨start, u, hstart, hlist⟩ := h
  rw [observeJob_runOn_tracked hid hne, hstart]
  dsimp only
  rw [hlist]

theorem observeJob_runOn_of_lists (hid : (Resource.job r).jobId = some id) (hne : id ≠ "")
    {jobs : List JobReport} {elapsed : Double} {v : σ} (h : o.Lists conf w jobs elapsed v) :
    (o.observeJob conf budget measure).runOn (r, w) =
      if isOverBudget budget elapsed then (measure >>= fun _ => o.takeReport id jobs).runOn (r, v)
      else (o.takeReport id jobs).runOn (r, v) := by
  obtain ⟨start, stop, u, u', hstart, hlist, hstop, rfl⟩ := h
  rw [observeJob_runOn_tracked hid hne, hstart]
  dsimp only
  rw [hlist]
  dsimp only
  rw [hstop]

/-- Another order of the listing (`ListedAlike`) makes no difference to `observeJob`. -/
theorem observeJob_runOn_of_alike (hid : (Resource.job r).jobId = some id) (hne : id ≠ "")
    {p : Operator σ} (hnow : p.now = o.now) (huptime : p.uptime = o.uptime)
    (hlist : ∀ v, ListedAlike ((o.listJobs conf).runOn v) ((p.listJobs conf).runOn v)) :
    (p.observeJob conf budget measure).runOn (r, w) =
      (o.observeJob conf budget measure).runOn (r, w) := by
  have htake {jobs others : List JobReport} (h : jobs.Perm others) :
      (p.takeReport id others : Action (ρ × σ) Bool) = o.takeReport id jobs := by
    rw [takeReport, takeReport, matchingJob_perm id h, hnow]
  rw [observeJob_runOn_tracked hid hne, observeJob_runOn_tracked hid hne, huptime]
  rcases o.uptime.runOn w with ⟨_ | start, v⟩
  · rfl
  have hsame := hlist v
  dsimp only
  generalize (o.listJobs conf).runOn v = listed at hsame
  generalize (p.listJobs conf).runOn v = listed' at hsame
  cases hsame with
  | failed f u => rfl
  | listed hperm u => simp only [htake hperm]

end Operator

open Operator

/-- What `Operator.observeJob` does for a job whose id is set, with a `measure` against late listings.

The measure is taken once if the operator `ListsLate`, that is if the listing does not come in time or
takes longer than the budget, and not at all otherwise. When the look fails, the job stays as it was,
unless the measure itself moves it; a listing that fails (`ListingFails`) makes the look fail in the
same way, after the measure if it was late. Otherwise (`Lists`) the look finds nothing, fails with
`severalJobs`, or takes over the state, the name and the times of the job, by how many jobs of the
listing have the id of the tracked one, stripped and in lower case. In which order they are listed
makes no difference. -/
theorem job_tracked_once {ρ σ : Type} [Resource ρ] {o : Operator σ} {conf : Config}
    {budget : Option Duration} {measure : Action (ρ × σ) Unit} {r : ρ} {w : σ} {id : String}
    (hid : (Resource.job r).jobId = some id) (hne : id ≠ "") :
    let run := (o.observeJob conf budget measure).runOn (r, w)
    (∃ calls, o.countedLook conf budget measure r w = withCount run calls ∧
      (o.ListsLate conf budget w → calls = 1) ∧ (¬ o.ListsLate conf budget w → calls = 0)) ∧
    (LeavesJob measure → ∀ f, run.1 = .error f → Resource.job run.2.1 = Resource.job r) ∧
    (∀ f v, o.ListingFails conf w f v →
      (isTimeout f = false → run = (.error f, r, v)) ∧
      (isTimeout f = true → ∀ s x, measure.runOn (r, v) = (.ok (), s, x) →
        run = (.error f, s, x))) ∧
    (LeavesJob measure → ∀ jobs elapsed v s x, o.Lists conf w jobs elapsed v →
      (if budget.any fun b => elapsed.compare? b.seconds = some .gt then
        measure.runOn (r, v) = (.ok (), s, x) else (s, x) = (r, v)) →
      match jobs.filter fun j => lower (strip j.id.shown) = lower (strip id) with
      | [] => run = (.ok false, s, x)
      | [report] => ∀ now y, o.now.runOn x = (.ok now, y) →
        run = (.ok true, Resource.withJob s { Resource.job r with
          state := report.state.nonNull?
          jobName := report.name.nonNull?
          startTime := some report.startTime.shown
          updateTime := some (toString now) }, y)
      | several => run = (.error (severalJobs id several.length), s, x)) ∧
    ∀ p : Operator σ, p.now = o.now → p.uptime = o.uptime →
      (∀ v, ListedAlike ((o.listJobs conf).runOn v) ((p.listJobs conf).runOn v)) →
      (p.observeJob conf budget measure).runOn (r, w) = run := by
  refine ⟨observeJob_counted hid hne, fun hmeasure f hf => observeJob_error_job hid hne hmeasure hf,
    fun f v hfails => ⟨fun hother => ?_, fun htimeout s x hrun => ?_⟩,
    fun hmeasure jobs elapsed v s x hlists htaken => ?_,
    fun p hnow huptime hlist => observeJob_runOn_of_alike hid hne hnow huptime hlist⟩
  · rw [observeJob_runOn_of_fails hid hne hfails, hother]
    rfl
  · rw [observeJob_runOn_of_fails hid hne hfails, if_pos htimeout, Action.runOn_bind, hrun]
    rfl
  · -- late or not, the report is taken from the resource and the world that are there now
    have hjob : Resource.job s = Resource.job r ∧
        (o.observeJob conf budget measure).runOn (r, w) = (o.takeReport id jobs).runOn (s, x) := by
      rw [observeJob_runOn_of_lists hid hne hlists]
      rw [← isOverBudget] at htaken
      cases hover : isOverBudget budget elapsed with
      | true =>
        rw [hover, if_pos rfl] at htaken
        rw [if_pos rfl, Action.runOn_bind, htaken]
        have hkept := hmeasure r v
        rw [htaken] at hkept
        exact ⟨hkept, rfl⟩
      | false =>
        rw [hover, if_neg Bool.false_ne_true] at htaken
        obtain ⟨rfl, rfl⟩ := Prod.mk.inj htaken
        exact ⟨rfl, rfl⟩
    obtain ⟨hsame, hrun⟩ := hjob
    rw [hrun, takeReport_runOn, matchingJob_eq]
    generalize jobs.filter _ = found
    match found with
    | [] => rfl
    | [report] =>
      intro now y hnow
      dsimp only
      rw [hnow, hsame]
      rfl
    | _ :: _ :: _ => rfl

/-- The configuration of the cluster in the world where listings take long. -/
def slowConfig : Config :=
  [(Config.clusterIdKey, .text "basic"), (Config.namespaceKey, .text "default")]

/-- The operator of this world. -/
def slowOperator : Operator World :=
  World.operator (.text "default") {} []

/-- A world where listings take long, and the tracked job is the second one that is listed, under an id
in capitals between blanks. -/
def crowdedWorld : World :=
  { slowWorld with cluster.jobs := [
      ⟨.text "b2", .text "other", .text "FAILED", .int 5⟩,
      ⟨.text " A1\n", .text "basic", .text "RUNNING", .int 7⟩] }

/-- A look at the job of that cluster, whose measure is another look at the JobManager. -/
def slowLook : Outcome Bool × Deployment × World × Nat :=
  slowOperator.countedLook slowConfig (some slowOperator.settings.clientTimeout)
    (slowOperator.observeManager slowConfig) readyDeployment crowdedWorld

/-- The listing is late, so that the measure is taken once, and the job is found running under its id
with blanks around it and in upper case. -/
theorem job_tracked_once_slowly :
    (Resource.job readyDeployment).jobId = some "a1" ∧ "a1" ≠ "" ∧
      LeavesJob (slowOperator.observeManager slowConfig) ∧
      slowOperator.ListsLate slowConfig (some slowOperator.settings.clientTimeout) crowdedWorld ∧
      slowLook.2.2.2 = 1 ∧ slowLook.1 = .ok true ∧
      slowLook.2.1.status.job = { readyDeployment.status.job with
        state := some (.text "RUNNING")
        jobName := some (.text "basic")
        startTime := some "7"
        updateTime := some "20000" } := by
  have hleaves := leavesJob_observeManager slowOperator slowConfig
  obtain ⟨elapsed, v, s, x, hlist, hover, hlooked, hnow⟩ : ∃ elapsed v s x,
      slowOperator.Lists slowConfig crowdedWorld crowdedWorld.cluster.jobs elapsed v ∧
      elapsed.compare? slowOperator.settings.clientTimeout.seconds = some .gt ∧
      (slowOperator.observeManager slowConfig).runOn (readyDeployment, v) = (.ok (), s, x) ∧
      slowOperator.now.runOn x = (.ok 20000, x) :=
    ⟨(Double.ofRatio 20000 1000).sub (.ofRatio 0 1000), _, _, _, ⟨_, _, _, _, rfl, rfl, rfl, rfl⟩,
      by decide +kernel, rfl, rfl⟩
  have hlate : slowOperator.ListsLate slowConfig (some slowOperator.settings.clientTimeout)
      crowdedWorld := .slowly hlist rfl hover
  obtain ⟨⟨calls, hlook, honce, -⟩, -, -, hreport, -⟩ := @job_tracked_once Deployment World _
    slowOperator slowConfig (some slowOperator.settings.clientTimeout)
    (slowOperator.observeManager slowConfig) readyDeployment crowdedWorld "a1" rfl (by decide)
  obtain rfl : calls = 1 := honce hlate
  -- the second job is the only one whose id is the tracked one, as ids are compared
  have hmatch : (crowdedWorld.cluster.jobs.filter fun j => lower (strip j.id.shown) =
      lower (strip "a1")) = [⟨.text " A1\n", .text "basic", .text "RUNNING", .int 7⟩] := by
    decide +kernel
  have htaken := hreport hleaves _ _ v s x hlist
    ((if_pos (decide_eq_true hover)).mpr hlooked)
  rw [hmatch] at htaken
  rw [htaken 20000 x hnow] at hlook
  refine ⟨rfl, by decide, hleaves, hlate, ?_⟩
  rw [slowLook, hlook]
  exact ⟨rfl, rfl, rfl⟩

end FlinkSteward
