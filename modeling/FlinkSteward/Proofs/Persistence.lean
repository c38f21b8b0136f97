import FlinkSteward.Proofs.Resource.RoundTrip
import FlinkSteward.Proofs.Subject

/-!
# Statuses that a server keeps

The operator changes the status of a resource in memory and writes it as a whole. The server merges
what is written into the manifest that it keeps, and what is not set is not written: a field that was
set when the status was written before, and is not set any more, stays as it was.

## Key results

- `Call`: what happens to a resource in memory
- `Kubernetes.merging`: a server that merges
- `Run`: calls and writes in any order
- `written_status_reads_back_iff`: when the server has the status that is in memory
-/

namespace FlinkSteward

open Record

/-! ## Changes keep what can be written -/

theorem Value.ne_null_of_mem_nonNull? {u v : Value} (h : u ∈ v.nonNull?) : u ≠ .null := by
  rintro rfl
  cases v <;> simp [Value.nonNull?] at h

namespace SavepointInfo

variable {s t b : SavepointInfo}

theorem mem_of_mem_lastItems {α : Type} {limit : Option Int} {items : List α} {a : α}
    (h : a ∈ lastItems limit items) : a ∈ items := by
  cases limit with
  | none => exact h
  | some k => exact List.mem_of_mem_drop h

theorem Valid.change (h : s.Valid) (hc : s.Change t) : t.Valid := by
  cases hc with
  | begun id trigger time =>
    exact { h with
      triggerId := fun _ hv => Value.ne_null_of_mem_nonNull? hv
      triggerTimestamp := by rintro _ ⟨⟩; exact Content.valid_int time }
  | dated time => exact { h with triggerTimestamp := by rintro _ ⟨⟩; exact Content.valid_int time }
  | cleared => exact { h with triggerId := nofun, triggerTimestamp := nofun }
  | completed time location trigger limit =>
    have hp : Savepoint.Valid
        { timeStamp := .int time, location := location.nonNull?, trigger := trigger } :=
      ⟨Content.valid_int time, fun _ hv => Value.ne_null_of_mem_nonNull? hv⟩
    -- the new savepoint is the latest, may be the last periodic one, and goes into the history
    refine ⟨?_, nofun, nofun, ?_, fun item hitem p hmem => ?_⟩
    · rintro _ ⟨⟩
      exact hp
    · dsimp only [complete]
      split
      · exact Content.valid_int time
      · exact h.lastPeriodicTimestamp
    · rcases List.mem_append.1 (mem_of_mem_lastItems hitem) with hold | hnew
      · exact h.history item hold p hmem
      · obtain rfl := List.mem_singleton.1 hnew
        obtain rfl := Option.some.inj hmem
        exact hp

/-- A status that `Replaces` another one does so after a `Change`: no new time merges with an old
one. -/
theorem Replaces.change (h : s.Replaces b) (hc : s.Change t) : t.Replaces b := by
  have hint : ∀ time, Piece.integer.OptionReplaces (some (.int time)) b.triggerTimestamp := by
    rintro time _ ⟨⟩ v -
    exact Piece.int_replaces time v
  cases hc with
  | begun id trigger time => exact { h with triggerTimestamp := hint time }
  | dated time => exact { h with triggerTimestamp := hint time }
  | cleared => exact { h with triggerTimestamp := nofun }
  | completed time location trigger limit =>
    refine ⟨?_, nofun, ?_⟩
    · rintro _ ⟨⟩ p -
      exact Piece.int_replaces time p.timeStamp
    · dsimp only [complete]
      split
      · exact Piece.int_replaces time _
      · exact h.lastPeriodicTimestamp

end SavepointInfo

namespace JobStatus

variable {s t b : JobStatus}

theorem Valid.change (h : s.Valid) (hc : s.Change t) : t.Valid := by
  cases hc with
  | observed report time =>
    exact { h with
      state := fun _ hv => Value.ne_null_of_mem_nonNull? hv
      jobName := fun _ hv => Value.ne_null_of_mem_nonNull? hv }
  | suspended => exact { h with state := by rintro _ ⟨⟩; exact Value.noConfusion }
  | savepoints hs => exact { h with savepoints := h.savepoints.change hs }

theorem Replaces.change (h : s.Replaces b) (hc : s.Change t) : t.Replaces b := by
  cases hc with
  | observed report time => exact h
  | suspended => exact h
  | savepoints hs => exact SavepointInfo.Replaces.change h hs

end JobStatus

namespace ReconciliationStatus

variable {s t b : ReconciliationStatus}

/-- A record stays `Valid` with the same time, or with a new one, which is an integer. -/
theorem Valid.change (h : s.Valid) (ht : t.timestamp = s.timestamp ∨ ∃ i, t.timestamp = .int i) :
    t.Valid := by
  rcases ht with ht | ⟨i, ht⟩
  · rwa [Valid, ht]
  · rw [Valid, ht]
    exact Content.valid_int i

theorem Replaces.change (h : s.Replaces b)
    (ht : t.timestamp = s.timestamp ∨ ∃ i, t.timestamp = .int i) : t.Replaces b := by
  rcases ht with ht | ⟨i, ht⟩
  · rwa [Replaces, ht]
  · rw [Replaces, ht]
    exact Piece.int_replaces i b.timestamp

end ReconciliationStatus

/-! ## Writing a status -/

/-- A missing `manifestPart` reads as the default. -/
private theorem read_manifestPart {α : Type} {read : Value → Outcome α} {default : α}
    (hnull : read .null = .ok default) (fields : Entries Value) (key : String) :
    read (manifestPart fields key) = required fields key default read := by
  rw [manifestPart, required, lookup]
  cases fields.get? key with
  | none => exact hnull
  | some v =>
    by_cases hv : v = .null
    · rw [hv]; exact hnull
    · simp [Value.nonNull?_of_ne hv]

/-- What is written of a `Piece` under a key of a manifest, as it is read from there after
`Value.patchFields`. -/
theorem Piece.read_patched {α : Type} (p : Piece α) {default : α} (hnull : p.read .null = .ok default)
    (hcovers : ∀ t, p.Covers t default) {fields : Entries Value} {key : String} {b : α}
    (hb : p.read (manifestPart fields key) = .ok b) {a : α} (ha : p.Valid a) (hr : p.Replaces a b) :
    ReadsOver p.Covers p.Replaces p.Faithful
      (p.read (manifestPart (Value.patchFields fields [(key, p.write a)]) key)) a
      fun t => p.Covers t b := by
  rw [read_manifestPart hnull] at hb ⊢
  exact p.required_laid (laid_patchFields fields (distinct_field key (some _))) hcovers hb
    (by simp) ha hr

/-! ## Calls and writes -/

/-- What a call of an operation makes of a resource in memory, whatever the world answers. Each kind of
resources has its own passes of observation. -/
inductive Call {ρ : Type} [Resource ρ] (Pass : ρ → ρ → Prop) (r : ρ) : ρ → Prop where
  /-- A savepoint is begun, dropped or recorded. -/
  | savepoints {s : SavepointInfo} (h : (Resource.job r).savepoints.Change s) :
    Call Pass r (Resource.withJob r { Resource.job r with savepoints := s })
  /-- A savepoint is asked for if one is due. -/
  | triggered {σ : Type} (o : Operator σ) (conf : Config) (w : σ) :
    Call Pass r ((o.triggerIfDue conf : Action (ρ × σ) _).runOn (r, w)).2.1
  /-- The job is stopped. -/
  | suspended {σ : Type} (o : Operator σ) (mode : UpgradeMode) (conf : Config) (w : σ) :
    Call Pass r ((o.suspend mode conf : Action (ρ × σ) Value).runOn (r, w)).2.1
  /-- The specification was applied. -/
  | applied {σ : Type} (o : Operator σ) (w : σ) :
    Call Pass r ((o.recordApplied : Action (ρ × σ) Unit).runOn (r, w)).2.1
  /-- Something went wrong. -/
  | failed (message : String) : Call Pass r (Resource.withError r (some message))
  /-- The world is looked at. -/
  | observed {s : ρ} (h : Pass r s) : Call Pass r s

/-- The passes of `Operator.observeDeployment` over clusters. -/
inductive Deployment.Pass (d : Deployment) : Deployment → Prop where
  | observed {σ : Type} (o : Operator σ) (w : σ) : Pass d (o.observeDeployment.runOn (d, w)).2.1

/-- The passes of `Operator.observeSessionJob` over jobs on session clusters. -/
inductive SessionJob.Pass (j : SessionJob) : SessionJob → Prop where
  | observed {σ : Type} (o : Operator σ) (session : Option Deployment) (w : σ) :
    Pass j ((o.observeSessionJob session).runOn (j, w)).2.1

/-- A server that keeps one manifest, and merges into it what is written to its status. -/
def Kubernetes.merging (space : Value) : Kubernetes Value where
  space := space
  send
    | .patchStatus _ _ _ change => .ofRun fun kept => (.ok (kept.patch change), kept.patch change)
    | _ => .fail (.api 404)

/-- `Call`s and writes by `Operator.persist` in any order, from a resource that was read from a
manifest: the resource in memory, the manifest that the server keeps, and the resources whose status
it was given, the latest first and the one of the manifest last. -/
inductive Run {ρ : Type} [Resource ρ] (Pass : ρ → ρ → Prop) (object : Value) (start : ρ) :
    ρ → Value → List ρ → Prop where
  | start : Run Pass object start start object [start]
  | called {r s : ρ} {kept : Value} {written : List ρ} (h : Run Pass object start r kept written)
    (hc : Call Pass r s) : Run Pass object start s kept written
  | persisted {r : ρ} {kept : Value} {written : List ρ} (h : Run Pass object start r kept written)
    {o : Operator Value} {space : Value} (ho : o.kubernetes = .merging space) :
    Run Pass object start (o.persist.runOn (r, kept)).2.1 (o.persist.runOn (r, kept)).2.2
      (r :: written)

section Runs

variable {ρ : Type} [Resource ρ] {Pass : ρ → ρ → Prop} {I : ρ → Prop}

/-- A `Lasting` property holds through every `Call` if it depends on the time of an application only
as far as that is an integer or what it was. -/
theorem Call.keeps (hI : Lasting I)
    (hrecord : ∀ r (s : ReconciliationStatus), I r →
      (s.timestamp = (Resource.reconciliation r).timestamp ∨ ∃ i, s.timestamp = .int i) →
        I (Resource.withReconciliation r s))
    (hpass : ∀ r s, I r → Pass r s → I s) {r s : ρ} (h : Call Pass r s) (hr : I r) : I s := by
  cases h with
  | savepoints hs => exact hI.job r _ hr (.savepoints hs)
  | triggered o conf w =>
    exact (o.keeps_triggerIfDue hI (fun _ _ _ _ _ _ _ _ t ht => hrecord t _ ht (.inl rfl)) r w hr).1
  | suspended o mode conf w => exact (o.keeps_suspend hI r w hr).1
  | applied o w =>
    exact (o.keeps_recordApplied (fun t time ht =>
      hI.error _ none (hrecord t _ ht (.inr ⟨time, rfl⟩))) r w hr).1
  | failed message => exact hI.error r _ hr
  | observed h => exact hpass r s hr h

/-- `Operator.persist` leaves the resource in memory as it is, and the server merges the status with
`Value.patch`. -/
theorem Operator.persist_runOn {o : Operator Value} {space : Value}
    (ho : o.kubernetes = .merging space) (r : ρ) (kept : Value) :
    (o.persist : Action (ρ × Value) Unit).runOn (r, kept) =
      (.ok (), r, kept.patch (.map [("status", Resource.encodeStatus r)])) := by
  simp only [persist, Kubernetes.writeStatus, ho]
  rfl

theorem Run.induct {object : Value} {start : ρ} {J : ρ → Value → List ρ → Prop}
    (hstart : J start object [start])
    (hcall : ∀ {r s kept written}, J r kept written → Call Pass r s → J s kept written)
    (hpersist : ∀ {r kept written}, J r kept written →
      J r (kept.patch (.map [("status", Resource.encodeStatus r)])) (r :: written))
    {r : ρ} {kept : Value} {written : List ρ} (h : Run Pass object start r kept written) :
    J r kept written := by
  induction h with
  | start => exact hstart
  | called _ hc ih => exact hcall ih hc
  | persisted _ ho ih =>
    rw [Operator.persist_runOn ho]
    exact hpersist ih

end Runs

/-! ## What the server has -/

/-- What is known of the statuses of a kind of resources, and of what observing does to them. -/
structure Keeping (ρ : Type) [Resource ρ] where
  /-- The statuses of this kind. -/
  Status : Type
  /-- The status of a resource. -/
  status : ρ → Status
  /-- Statuses as they are written over each other. -/
  piece : Piece Status
  /-- The status where there is none. -/
  empty : Status
  /-- Reads a manifest. -/
  decode : Value → Outcome ρ
  /-- The passes of observation. -/
  Pass : ρ → ρ → Prop
  write_status : ∀ r, Resource.encodeStatus r = piece.write (status r)
  read_null : piece.read .null = .ok empty
  valid_empty : piece.Valid empty ∧ piece.Faithful empty
  covers_empty : ∀ t, piece.Covers t empty
  replaces_self : ∀ {a}, piece.Valid a → piece.Replaces a a
  decode_status : ∀ {v r}, decode v = .ok r →
    ∃ fields, v = .map fields ∧ piece.read (manifestPart fields "status") = .ok (status r)
  decode_patched : ∀ {fields r v s}, decode (.map fields) = .ok r →
    piece.read (manifestPart (Value.patchFields fields [("status", v)]) "status") = .ok s →
      ∃ e, decode (.map (Value.patchFields fields [("status", v)])) = .ok e ∧ status e = s
  lasting : ∀ b, Lasting fun r => piece.Valid (status r) ∧ piece.Replaces (status r) b
  retimed : ∀ b r (s : ReconciliationStatus),
    piece.Valid (status r) ∧ piece.Replaces (status r) b →
    (s.timestamp = (Resource.reconciliation r).timestamp ∨ ∃ i, s.timestamp = .int i) →
      piece.Valid (status (Resource.withReconciliation r s)) ∧
        piece.Replaces (status (Resource.withReconciliation r s)) b
  passed : ∀ b r s, piece.Valid (status r) ∧ piece.Replaces (status r) b → Pass r s →
    piece.Valid (status s) ∧ piece.Replaces (status s) b

namespace Keeping

variable {ρ : Type} [Resource ρ] (k : Keeping ρ)

/-- What the server has is covered by what covers all that it was given, and what is in memory can be
written over it. -/
def Kept (r : ρ) (kept : Value) (written : List ρ) : Prop :=
  ∃ e, k.decode kept = .ok e ∧
    (k.piece.Valid (k.status r) ∧ k.piece.Replaces (k.status r) (k.status e)) ∧
    ∀ t, k.piece.Covers t (k.status e) ↔ ∀ s ∈ written, k.piece.Covers t (k.status s)

theorem Kept.write {r : ρ} {kept : Value} {written : List ρ} (h : k.Kept r kept written) :
    ∃ e, k.decode (kept.patch (.map [("status", Resource.encodeStatus r)])) = .ok e ∧
      (k.status e = k.status r ↔ k.piece.Faithful (k.status r) ∧
        ∀ s ∈ written, k.piece.Covers (k.status r) (k.status s)) ∧
      (k.piece.Valid (k.status r) ∧ k.piece.Replaces (k.status r) (k.status e)) ∧
      ∀ t, k.piece.Covers t (k.status e) ↔ ∀ s ∈ r :: written, k.piece.Covers t (k.status s) := by
  obtain ⟨e, he, ⟨hv, hr⟩, hcovers⟩ := h
  obtain ⟨fields, rfl, hstatus⟩ := k.decode_status he
  -- the status is written over the one that the server has, which covers all that was written
  obtain ⟨w, hw, hcov, hiff, hrep⟩ := k.piece.read_patched k.read_null k.covers_empty hstatus hv hr
  obtain ⟨e', he', rfl⟩ := k.decode_patched he hw
  refine ⟨e', by rw [k.write_status, Value.patch_map, he'], ?_, ⟨hv, hrep⟩, fun t => ?_⟩
  · exact hiff.trans (and_congr_right' (hcovers _))
  · rw [List.forall_mem_cons, ← hcovers]
    exact hcov t

theorem kept_of_run {object : Value} (hobject : object.Sound) {start r : ρ}
    (hstart : k.decode object = .ok start) {kept : Value} {written : List ρ}
    (h : Run k.Pass object start r kept written) : k.Kept r kept written := by
  refine h.induct ?_ ?_ ?_
  · -- at first the server has what was read, of which no number merges with itself
    obtain ⟨fields, rfl, hstatus⟩ := k.decode_status hstart
    have hv := (k.piece.valid_of_part k.valid_empty k.read_null
      (sound_manifestPart hobject _) hstatus).1
    exact ⟨start, hstart, ⟨hv, k.replaces_self hv⟩, by simp⟩
  · -- a call changes what is in memory alone
    rintro r s kept written ⟨e, he, hw, hcovers⟩ hc
    exact ⟨e, he, hc.keeps (k.lasting _) (k.retimed _) (k.passed _) hw, hcovers⟩
  · intro r kept written hr
    obtain ⟨e, he, -, hkept⟩ := hr.write
    exact ⟨e, he, hkept⟩

/-- After `Operator.persist` the server has what is in memory exactly when that is `Faithful` and
`Covers` all that the server was given before. -/
theorem reads_back_iff {object : Value} (hobject : object.Sound) {start r : ρ}
    (hstart : k.decode object = .ok start) {kept : Value} {written : List ρ}
    (h : Run k.Pass object start r kept written) {o : Operator Value} {space : Value}
    (ho : o.kubernetes = .merging space) :
    ∃ e, k.decode (o.persist.runOn (r, kept)).2.2 = .ok e ∧
      (k.status e = k.status r ↔ k.piece.Faithful (k.status r) ∧
        ∀ s ∈ written, k.piece.Covers (k.status r) (k.status s)) := by
  obtain ⟨e, he, hiff, -⟩ := (k.kept_of_run hobject hstart h).write
  exact ⟨e, by rw [Operator.persist_runOn ho, he], hiff⟩

end Keeping

private theorem Deployment.lasting (b : DeploymentStatus) :
    Lasting fun d : Deployment => d.status.Valid ∧ d.status.Replaces b where
  job _ _ h hc := ⟨{ h.1 with job := h.1.job.change hc }, { h.2 with job := h.2.job.change hc }⟩
  stable _ h := ⟨⟨h.1.job, h.1.reconciliation⟩, ⟨h.2.job, h.2.reconciliation⟩⟩
  error _ _ h := ⟨⟨h.1.job, h.1.reconciliation⟩, ⟨h.2.job, h.2.reconciliation⟩⟩

private theorem SessionJob.lasting (b : SessionJobStatus) :
    Lasting fun j : SessionJob => j.status.Valid ∧ j.status.Replaces b where
  job _ _ h hc := ⟨{ h.1 with job := h.1.job.change hc }, { h.2 with job := h.2.job.change hc }⟩
  stable _ h := ⟨⟨h.1.job, h.1.reconciliation⟩, ⟨h.2.job, h.2.reconciliation⟩⟩
  error _ _ h := ⟨⟨h.1.job, h.1.reconciliation⟩, ⟨h.2.job, h.2.reconciliation⟩⟩

/-- Clusters as a server keeps them. -/
def Deployment.keeping : Keeping Deployment where
  Status := DeploymentStatus
  status := status
  piece := DeploymentStatus.piece
  empty := {}
  decode := decode
  Pass := Pass
  write_status _ := rfl
  read_null := rfl
  valid_empty := DeploymentStatus.valid_empty
  covers_empty := DeploymentStatus.covers_empty
  replaces_self := DeploymentStatus.Valid.replaces_self
  decode_status h := by
    obtain ⟨fields, rfl, -, -, hstatus⟩ := decode_eq_ok.1 h
    exact ⟨fields, rfl, hstatus⟩
  decode_patched {fields r v s} h hs := by
    obtain ⟨_, ⟨⟩, hmetadata, hspec, -⟩ := decode_eq_ok.1 h
    refine ⟨{ r with status := s }, decode_eq_ok.2 ⟨_, rfl, ?_, ?_, hs⟩, rfl⟩
    · rwa [manifestPart_patched fields (by decide)]
    · rwa [manifestPart_patched fields (by decide)]
  lasting := Deployment.lasting
  retimed b r s h hs :=
    ⟨{ h.1 with reconciliation := h.1.reconciliation.change hs },
      { h.2 with reconciliation := h.2.reconciliation.change hs }⟩
  passed b r s h hs := by
    obtain ⟨o, w⟩ := hs
    exact (o.keeps_observeDeployment (fun _ _ h =>
      ⟨⟨h.1.job, h.1.reconciliation⟩, ⟨h.2.job, h.2.reconciliation⟩⟩) (Deployment.lasting b) r w h).1

/-- Jobs on session clusters as a server keeps them. -/
def SessionJob.keeping : Keeping SessionJob where
  Status := SessionJobStatus
  status := status
  piece := SessionJobStatus.piece
  empty := {}
  decode := decode
  Pass := Pass
  write_status _ := rfl
  read_null := rfl
  valid_empty := SessionJobStatus.valid_empty
  covers_empty := SessionJobStatus.covers_empty
  replaces_self := SessionJobStatus.Valid.replaces_self
  decode_status h := by
    obtain ⟨fields, rfl, -, -, hstatus⟩ := decode_eq_ok.1 h
    exact ⟨fields, rfl, hstatus⟩
  decode_patched {fields r v s} h hs := by
    obtain ⟨_, ⟨⟩, hmetadata, hspec, -⟩ := decode_eq_ok.1 h
    refine ⟨{ r with status := s }, decode_eq_ok.2 ⟨_, rfl, ?_, ?_, hs⟩, rfl⟩
    · rwa [manifestPart_patched fields (by decide)]
    · rwa [manifestPart_patched fields (by decide)]
  lasting := SessionJob.lasting
  retimed b r s h hs :=
    ⟨{ h.1 with reconciliation := h.1.reconciliation.change hs },
      { h.2 with reconciliation := h.2.reconciliation.change hs }⟩
  passed b r s h hs := by
    obtain ⟨o, session, w⟩ := hs
    exact (o.keeps_observeSessionJob (SessionJob.lasting b) r w h).1

/-- After any `Run` of passes and writes, `Operator.persist` leaves a manifest that decodes to the
status in memory exactly when that status is `Faithful` (what the cluster reported of the job are
texts) and `Covers` every status that was in the manifest at first or was written since: whatever was
set there is still set. Stated for `Deployment` and for `SessionJob`. -/
theorem written_status_reads_back_iff {object : Value} (hobject : object.Sound) :
    (∀ {start d : Deployment} {kept written}, Deployment.decode object = .ok start →
      Run Deployment.Pass object start d kept written →
      ∀ {o : Operator Value} {space}, o.kubernetes = .merging space →
        ∃ e, Deployment.decode (o.persist.runOn (d, kept)).2.2 = .ok e ∧
          (e.status = d.status ↔
            d.status.Faithful ∧ ∀ s ∈ written, d.status.Covers s.status)) ∧
    (∀ {start j : SessionJob} {kept written}, SessionJob.decode object = .ok start →
      Run SessionJob.Pass object start j kept written →
      ∀ {o : Operator Value} {space}, o.kubernetes = .merging space →
        ∃ e, SessionJob.decode (o.persist.runOn (j, kept)).2.2 = .ok e ∧
          (e.status = j.status ↔
            j.status.Faithful ∧ ∀ s ∈ written, j.status.Covers s.status)) :=
  ⟨fun hstart hrun _ _ ho => Deployment.keeping.reads_back_iff hobject hstart hrun ho,
    fun hstart hrun _ _ ho => SessionJob.keeping.reads_back_iff hobject hstart hrun ho⟩

/-- An operator whose server merges, on a clock that stands still. -/
def mergingOperator : Operator Value where
  settings := {}
  defaults := []
  kubernetes := .merging .null
  connect _ := .fail (.api 503)
  now := pure 0
  uptime := pure (.zero false)
  files := ⟨fun _ => { root := "" }, fun _ kept => kept⟩

/-- The manifest of a cluster that nobody looked at yet. -/
def newManifest : Value :=
  .map [("kind", .text Deployment.kind), ("metadata", .map [("name", .text "basic")]),
    ("spec", .map [])]

/-- The cluster of the manifest. -/
def newDeployment : Deployment :=
  { metadata := { name := some "basic" } }

/-- An error that was written stays on the server when the cluster is applied afterwards: `persist` of
a status without an error leaves a manifest that decodes to another one. -/
theorem written_error_reads_back :
    newManifest.Sound ∧ Deployment.decode newManifest = .ok newDeployment ∧
      ∃ (d : Deployment) (kept : Value) (written : List Deployment),
        Run Deployment.Pass newManifest newDeployment d kept written ∧ d.status.error = none ∧
        ∃ e, Deployment.decode (mergingOperator.persist.runOn (d, kept)).2.2 = .ok e ∧
          e.status ≠ d.status := by
  have hsound : newManifest.Sound := by
    simp [newManifest, Value.Sound, Value.SoundFields, Entries.get?]
  have hstart : Deployment.decode newManifest = .ok newDeployment := by decide +kernel
  have hfirst : Run Deployment.Pass newManifest newDeployment newDeployment newManifest
      [newDeployment] := .start
  have hwritten := (hfirst.called (.failed "Job must start")).persisted (o := mergingOperator) rfl
  have hrun := hwritten.called (.applied mergingOperator .null)
  obtain ⟨e, he, hiff⟩ :=
    (written_status_reads_back_iff hsound).1 hstart hrun (o := mergingOperator) rfl
  refine ⟨hsound, hstart, _, _, _, hrun, rfl, e, he, fun heq => ?_⟩
  -- the error that was written is not covered by a status without one
  have hcovers := (hiff.1 heq).2 _ List.mem_cons_self
  exact Bool.false_ne_true (hcovers.2.2 rfl)

end FlinkSteward
