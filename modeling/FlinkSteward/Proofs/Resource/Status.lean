import FlinkSteward.Proofs.Resource.Piece
import FlinkSteward.Resource.Basic

/-!
# Statuses written over statuses

The records of a status as pieces. One status covers another if everything that is set in the other
is set in it; a status is faithful if the cluster reported texts where texts are kept; and it replaces
another one if no time merges with one of that.

## Key results

- `Covers`, `Replaces` and `Faithful` of each record
- `DeploymentStatus.piece`, `SessionJobStatus.piece`: what statuses read as that were written over
  others
-/

namespace FlinkSteward

open Record

/-! ## Savepoints -/

namespace Savepoint

theorem decode_eq_ok {v : Value} (hv : v ≠ .null) {s : Savepoint} :
    decode v = .ok s ↔ ∃ r, v = .map r ∧
      required r "timeStamp" (.int 0) integer = .ok s.timeStamp ∧
      optional r "location" Piece.reported.read = .ok s.location ∧
      required r "triggerType" .unknown Enumeration.parse = .ok s.trigger := by
  unfold decode
  split
  · contradiction
  · cases s
    simp [Outcome.bind_eq_ok, Outcome.map_eq_ok, entriesOf_eq_ok, Piece.reported]

/-- What a savepoint of a status holds. -/
structure Valid (s : Savepoint) : Prop where
  timeStamp : Piece.integer.Valid s.timeStamp
  location : ∀ v ∈ s.location, v ≠ .null

/-- The location is a text. -/
def Faithful (s : Savepoint) : Prop :=
  ∀ v ∈ s.location, ∃ t, v = .text t

/-- A location stays set. -/
def Covers (t s : Savepoint) : Prop :=
  StaysSet s.location t.location

/-- The time does not merge. -/
def Replaces (t s : Savepoint) : Prop :=
  Piece.integer.Replaces t.timeStamp s.timeStamp

theorem decode_laid {a b : Savepoint} {older changes fields : Entries Value} (hv : a.Valid)
    (hch : a.encode = .map changes) (hb : decode (.map older) = .ok b)
    (hl : Laid older changes fields) (hr : a.Replaces b) :
    ReadsOver Covers Replaces Faithful (decode (.map fields)) a fun t => Covers t b := by
  obtain ⟨r, hmap, h₁, h₂, h₃⟩ := (decode_eq_ok Value.noConfusion).1 hb
  obtain rfl := Value.map.inj hmap
  obtain rfl := Value.map.inj hch
  -- only the location can be left from the older record
  have hw₁ := Piece.required_integer_laid hl h₁ (by simp) hv.timeStamp hr
  obtain ⟨w₂, hw₂, hc₂, he₂⟩ := Piece.optional_reported_laid hl h₂ (by simp) hv.location
  have hw₃ := Piece.required_member_laid hl (a := a.trigger) h₃ (by simp)
  refine ⟨{ a with location := w₂ },
    (decode_eq_ok Value.noConfusion).2 ⟨_, rfl, hw₁, hw₂, hw₃⟩, fun t => hc₂ t.location, ?_,
    Value.patch_self hv.timeStamp.1⟩
  cases a
  simpa [Faithful, Covers] using he₂

theorem valid_of_decode {r : Entries Value} (hs : (Value.map r).Sound) {s : Savepoint}
    (h : decode (.map r) = .ok s) : s.Valid ∧ s.Faithful := by
  obtain ⟨_, ⟨⟩, h₁, h₂, -⟩ := (decode_eq_ok Value.noConfusion).1 h
  have ht := Piece.integer.valid_of_required hs (Piece.valid_int 0) h₁
  have hl := Piece.reported.valid_of_optional hs h₂
  exact ⟨⟨ht.1, fun v hv => (hl v hv).1⟩, fun v hv => (hl v hv).2⟩

/-- A savepoint as a piece of a status. -/
def piece : Piece Savepoint :=
  .ofRecord decode encode Valid Faithful Covers Replaces {} rfl (fun _ h => nomatch h)
    (fun _ => Piece.replaces_int _ 0)
    (fun hne h => ((decode_eq_ok hne).1 h).imp fun _ h => h.1) (fun _ => ⟨_, rfl, by simp⟩)
    valid_of_decode decode_laid

@[simp] theorem faithful_piece : piece.Faithful = Faithful := rfl

end Savepoint

/-! ## Savepoints of a job -/

namespace SavepointInfo

theorem decode_eq_ok {v : Value} (hv : v ≠ .null) {s : SavepointInfo} :
    decode v = .ok s ↔ ∃ r, v = .map r ∧
      optional r "lastSavepoint" Savepoint.decode = .ok s.lastSavepoint ∧
      optional r "triggerId" Piece.reported.read = .ok s.triggerId ∧
      optional r "triggerTimestamp" integer = .ok s.triggerTimestamp ∧
      optional r "triggerType" Enumeration.parse = .ok s.triggerType ∧
      required r "lastPeriodicSavepointTimestamp" (.int 0) integer = .ok s.lastPeriodicTimestamp ∧
      required r "savepointHistory" [] (listOf Savepoint.decode) = .ok s.history := by
  unfold decode
  split
  · contradiction
  · cases s
    simp [Outcome.bind_eq_ok, Outcome.map_eq_ok, entriesOf_eq_ok, Piece.reported]

/-- What the savepoints of a status hold. -/
structure Valid (s : SavepointInfo) : Prop where
  lastSavepoint : ∀ p ∈ s.lastSavepoint, p.Valid
  triggerId : ∀ v ∈ s.triggerId, v ≠ .null
  triggerTimestamp : ∀ v ∈ s.triggerTimestamp, Piece.integer.Valid v
  lastPeriodicTimestamp : Piece.integer.Valid s.lastPeriodicTimestamp
  history : ∀ item ∈ s.history, ∀ p ∈ item, p.Valid

/-- The id of the pending savepoint and all locations are texts. -/
def Faithful (s : SavepointInfo) : Prop :=
  (∀ p ∈ s.lastSavepoint, p.Faithful) ∧ (∀ v ∈ s.triggerId, ∃ t, v = .text t) ∧
    ∀ item ∈ s.history, ∀ p ∈ item, p.Faithful

/-- The latest savepoint and all that is known of the pending one stay set. -/
def Covers (t s : SavepointInfo) : Prop :=
  Savepoint.piece.OptionCovers t.lastSavepoint s.lastSavepoint ∧
    StaysSet s.triggerId t.triggerId ∧ StaysSet s.triggerTimestamp t.triggerTimestamp ∧
      StaysSet s.triggerType t.triggerType

/-- No time merges. -/
structure Replaces (t s : SavepointInfo) : Prop where
  lastSavepoint : Savepoint.piece.OptionReplaces t.lastSavepoint s.lastSavepoint
  triggerTimestamp : Piece.integer.OptionReplaces t.triggerTimestamp s.triggerTimestamp
  lastPeriodicTimestamp : Piece.integer.Replaces t.lastPeriodicTimestamp s.lastPeriodicTimestamp

theorem Valid.replaces_self {s : SavepointInfo} (h : s.Valid) : s.Replaces s := by
  refine ⟨fun p hp q hq => ?_, fun v hv u hu => ?_, Value.patch_self h.lastPeriodicTimestamp.1⟩
  · obtain rfl := Option.mem_unique hp hq
    exact Value.patch_self (h.lastSavepoint p hp).timeStamp.1
  · obtain rfl := Option.mem_unique hv hu
    exact Value.patch_self (h.triggerTimestamp v hv).1

theorem decode_laid {a b : SavepointInfo} {older changes fields : Entries Value} (hv : a.Valid)
    (hch : a.encode = .map changes) (hb : decode (.map older) = .ok b)
    (hl : Laid older changes fields) (hr : a.Replaces b) :
    ReadsOver Covers Replaces Faithful (decode (.map fields)) a fun t => Covers t b := by
  obtain ⟨r, hmap, h₁, h₂, h₃, h₄, h₅, h₆⟩ := (decode_eq_ok Value.noConfusion).1 hb
  obtain rfl := Value.map.inj hmap
  obtain rfl := Value.map.inj hch
  -- field by field, each over what the older record has of it
  obtain ⟨w₁, hw₁, hc₁, he₁, hr₁⟩ := Savepoint.piece.optional_laid hl h₁ (by simp; rfl)
    hv.lastSavepoint hr.lastSavepoint
  obtain ⟨w₂, hw₂, hc₂, he₂⟩ := Piece.optional_reported_laid hl h₂ (by simp) hv.triggerId
  obtain ⟨w₃, hw₃, hc₃, he₃, hr₃⟩ := Piece.optional_integer_laid hl h₃ (by simp)
    hv.triggerTimestamp hr.triggerTimestamp
  obtain ⟨w₄, hw₄, hc₄, he₄⟩ := Piece.optional_member_laid hl (a := a.triggerType) h₄ (by simp)
  have hw₅ := Piece.required_integer_laid hl h₅ (by simp) hv.lastPeriodicTimestamp
    hr.lastPeriodicTimestamp
  obtain ⟨w₆, hw₆, -, he₆, -⟩ := Savepoint.piece.listOf.required_laid hl (fun _ => trivial) h₆
    (by simp; rfl) hv.history trivial
  refine ⟨⟨w₁, w₂, w₃, w₄, a.lastPeriodicTimestamp, w₆⟩,
    (decode_eq_ok Value.noConfusion).2 ⟨_, rfl, hw₁, hw₂, hw₃, hw₄, hw₅, hw₆⟩, fun t => ?_, ?_,
    ⟨hr₁, hr₃, Value.patch_self hv.lastPeriodicTimestamp.1⟩⟩
  · -- what covers both in each field covers both
    simp only [Covers, hc₁, hc₂, hc₃, hc₄]
    constructor
    · rintro ⟨⟨a₁, b₁⟩, ⟨a₂, b₂⟩, ⟨a₃, b₃⟩, a₄, b₄⟩
      exact ⟨⟨a₁, a₂, a₃, a₄⟩, b₁, b₂, b₃, b₄⟩
    · rintro ⟨⟨a₁, a₂, a₃, a₄⟩, b₁, b₂, b₃, b₄⟩
      exact ⟨⟨a₁, b₁⟩, ⟨a₂, b₂⟩, ⟨a₃, b₃⟩, a₄, b₄⟩
  · -- the record comes back exactly when each field does
    cases a
    simp only [mk.injEq, he₁, he₂, he₃, he₄, he₆, Faithful, Covers, Savepoint.faithful_piece,
      Piece.faithful_listOf, Piece.covers_listOf]
    constructor
    · rintro ⟨⟨f₁, c₁⟩, ⟨f₂, c₂⟩, c₃, c₄, _, f₆, _⟩
      exact ⟨⟨f₁, f₂, f₆⟩, c₁, c₂, c₃, c₄⟩
    · rintro ⟨⟨f₁, f₂, f₆⟩, c₁, c₂, c₃, c₄⟩
      exact ⟨⟨f₁, c₁⟩, ⟨f₂, c₂⟩, c₃, c₄, trivial, f₆, trivial⟩

theorem valid_of_decode {r : Entries Value} (hs : (Value.map r).Sound) {s : SavepointInfo}
    (h : decode (.map r) = .ok s) : s.Valid ∧ s.Faithful := by
  obtain ⟨_, ⟨⟩, h₁, h₂, h₃, -, h₅, h₆⟩ := (decode_eq_ok Value.noConfusion).1 h
  have v₁ := Savepoint.piece.valid_of_optional hs h₁
  have v₂ := Piece.reported.valid_of_optional hs h₂
  have v₃ := Piece.integer.valid_of_optional hs h₃
  have v₅ := Piece.integer.valid_of_required hs (Piece.valid_int 0) h₅
  have v₆ := Savepoint.piece.listOf.valid_of_required hs Savepoint.piece.valid_listOf_nil h₆
  exact ⟨⟨fun p hp => (v₁ p hp).1, fun v hv => (v₂ v hv).1, fun v hv => (v₃ v hv).1, v₅.1, v₆.1⟩,
    fun p hp => (v₁ p hp).2, fun v hv => (v₂ v hv).2, v₆.2⟩

theorem covers_empty (t : SavepointInfo) : t.Covers {} :=
  ⟨fun _ h => (nomatch h), fun h => (nomatch h), fun h => (nomatch h), fun h => (nomatch h)⟩

theorem replaces_empty (t : SavepointInfo) : t.Replaces {} :=
  ⟨fun _ _ _ h => (nomatch h), fun _ _ _ h => (nomatch h), Piece.replaces_int _ 0⟩

/-- The savepoints of a job as a piece of a status. -/
def piece : Piece SavepointInfo :=
  .ofRecord decode encode Valid Faithful Covers Replaces {} rfl covers_empty replaces_empty
    (fun hne h => ((decode_eq_ok hne).1 h).imp fun _ h => h.1) (fun _ => ⟨_, rfl, by simp⟩)
    valid_of_decode decode_laid

@[simp] theorem faithful_piece : piece.Faithful = Faithful := rfl

@[simp] theorem covers_piece : piece.Covers = Covers := rfl

theorem valid_empty : Valid {} ∧ Faithful {} :=
  valid_of_decode (r := []) trivial rfl

end SavepointInfo

/-! ## What was observed of a job -/

namespace JobStatus

theorem decode_eq_ok {v : Value} (hv : v ≠ .null) {s : JobStatus} :
    decode v = .ok s ↔ ∃ r, v = .map r ∧
      optional r "jobId" text = .ok s.jobId ∧
      optional r "state" Piece.reported.read = .ok s.state ∧
      optional r "jobName" Piece.reported.read = .ok s.jobName ∧
      optional r "startTime" text = .ok s.startTime ∧
      optional r "updateTime" text = .ok s.updateTime ∧
      required r "savepointInfo" {} SavepointInfo.decode = .ok s.savepoints := by
  unfold decode
  split
  · contradiction
  · cases s
    simp [Outcome.bind_eq_ok, Outcome.map_eq_ok, entriesOf_eq_ok, Piece.reported]

/-- What was observed of a job, as a status holds it. -/
structure Valid (s : JobStatus) : Prop where
  state : ∀ v ∈ s.state, v ≠ .null
  jobName : ∀ v ∈ s.jobName, v ≠ .null
  savepoints : s.savepoints.Valid

/-- The state and the name are texts, and what was reported of savepoints too. -/
def Faithful (s : JobStatus) : Prop :=
  (∀ v ∈ s.state, ∃ t, v = .text t) ∧ (∀ v ∈ s.jobName, ∃ t, v = .text t) ∧ s.savepoints.Faithful

/-- What was observed stays set, and what is known of savepoints too. -/
def Covers (t s : JobStatus) : Prop :=
  StaysSet s.jobId t.jobId ∧ StaysSet s.state t.state ∧ StaysSet s.jobName t.jobName ∧
    StaysSet s.startTime t.startTime ∧ StaysSet s.updateTime t.updateTime ∧
      t.savepoints.Covers s.savepoints

/-- No time of a savepoint merges. -/
def Replaces (t s : JobStatus) : Prop :=
  t.savepoints.Replaces s.savepoints

theorem decode_laid {a b : JobStatus} {older changes fields : Entries Value} (hv : a.Valid)
    (hch : a.encode = .map changes) (hb : decode (.map older) = .ok b)
    (hl : Laid older changes fields) (hr : a.Replaces b) :
    ReadsOver Covers Replaces Faithful (decode (.map fields)) a fun t => Covers t b := by
  obtain ⟨r, hmap, h₁, h₂, h₃, h₄, h₅, h₆⟩ := (decode_eq_ok Value.noConfusion).1 hb
  obtain rfl := Value.map.inj hmap
  obtain rfl := Value.map.inj hch
  -- field by field, each over what the older record has of it
  obtain ⟨w₁, hw₁, hc₁, he₁⟩ := Piece.optional_text_laid hl (a := a.jobId) h₁ (by simp)
  obtain ⟨w₂, hw₂, hc₂, he₂⟩ := Piece.optional_reported_laid hl h₂ (by simp) hv.state
  obtain ⟨w₃, hw₃, hc₃, he₃⟩ := Piece.optional_reported_laid hl h₃ (by simp) hv.jobName
  obtain ⟨w₄, hw₄, hc₄, he₄⟩ := Piece.optional_text_laid hl (a := a.startTime) h₄ (by simp)
  obtain ⟨w₅, hw₅, hc₅, he₅⟩ := Piece.optional_text_laid hl (a := a.updateTime) h₅ (by simp)
  obtain ⟨w₆, hw₆, hc₆, he₆, hr₆⟩ := SavepointInfo.piece.required_laid hl
    (SavepointInfo.covers_empty) h₆ (by simp; rfl) hv.savepoints hr
  refine ⟨⟨w₁, w₂, w₃, w₄, w₅, w₆⟩,
    (decode_eq_ok Value.noConfusion).2 ⟨_, rfl, hw₁, hw₂, hw₃, hw₄, hw₅, hw₆⟩, fun t => ?_, ?_, hr₆⟩
  · -- what covers both in each field covers both
    simp only [Covers, hc₁, hc₂, hc₃, hc₄, hc₅, ← SavepointInfo.covers_piece, hc₆]
    constructor
    · rintro ⟨⟨a₁, b₁⟩, ⟨a₂, b₂⟩, ⟨a₃, b₃⟩, ⟨a₄, b₄⟩, ⟨a₅, b₅⟩, a₆, b₆⟩
      exact ⟨⟨a₁, a₂, a₃, a₄, a₅, a₆⟩, b₁, b₂, b₃, b₄, b₅, b₆⟩
    · rintro ⟨⟨a₁, a₂, a₃, a₄, a₅, a₆⟩, b₁, b₂, b₃, b₄, b₅, b₆⟩
      exact ⟨⟨a₁, b₁⟩, ⟨a₂, b₂⟩, ⟨a₃, b₃⟩, ⟨a₄, b₄⟩, ⟨a₅, b₅⟩, a₆, b₆⟩
  · -- the record comes back exactly when each field does
    cases a
    simp only [mk.injEq, he₁, he₂, he₃, he₄, he₅, he₆, Faithful, Covers,
      SavepointInfo.faithful_piece, SavepointInfo.covers_piece]
    constructor
    · rintro ⟨c₁, ⟨f₂, c₂⟩, ⟨f₃, c₃⟩, c₄, c₅, f₆, c₆⟩
      exact ⟨⟨f₂, f₃, f₆⟩, c₁, c₂, c₃, c₄, c₅, c₆⟩
    · rintro ⟨⟨f₂, f₃, f₆⟩, c₁, c₂, c₃, c₄, c₅, c₆⟩
      exact ⟨c₁, ⟨f₂, c₂⟩, ⟨f₃, c₃⟩, c₄, c₅, f₆, c₆⟩

theorem valid_of_decode {r : Entries Value} (hs : (Value.map r).Sound) {s : JobStatus}
    (h : decode (.map r) = .ok s) : s.Valid ∧ s.Faithful := by
  obtain ⟨_, ⟨⟩, -, h₂, h₃, -, -, h₆⟩ := (decode_eq_ok Value.noConfusion).1 h
  have v₂ := Piece.reported.valid_of_optional hs h₂
  have v₃ := Piece.reported.valid_of_optional hs h₃
  have v₆ := SavepointInfo.piece.valid_of_required hs SavepointInfo.valid_empty h₆
  exact ⟨⟨fun v hv => (v₂ v hv).1, fun v hv => (v₃ v hv).1, v₆.1⟩,
    fun v hv => (v₂ v hv).2, fun v hv => (v₃ v hv).2, v₆.2⟩

theorem covers_empty (t : JobStatus) : t.Covers {} :=
  ⟨fun h => (nomatch h), fun h => (nomatch h), fun h => (nomatch h), fun h => (nomatch h),
    fun h => (nomatch h), SavepointInfo.covers_empty _⟩

theorem replaces_empty (t : JobStatus) : t.Replaces {} :=
  SavepointInfo.replaces_empty _

/-- What was observed of a job as a piece of a status. -/
def piece : Piece JobStatus :=
  .ofRecord decode encode Valid Faithful Covers Replaces {} rfl covers_empty replaces_empty
    (fun hne h => ((decode_eq_ok hne).1 h).imp fun _ h => h.1) (fun _ => ⟨_, rfl, by simp⟩)
    valid_of_decode decode_laid

@[simp] theorem faithful_piece : piece.Faithful = Faithful := rfl

@[simp] theorem covers_piece : piece.Covers = Covers := rfl

theorem valid_empty : Valid {} ∧ Faithful {} :=
  valid_of_decode (r := []) trivial rfl

end JobStatus

/-! ## What was last applied -/

namespace ReconciliationStatus

theorem decode_eq_ok {v : Value} (hv : v ≠ .null) {s : ReconciliationStatus} :
    decode v = .ok s ↔ ∃ r, v = .map r ∧
      required r "reconciliationTimestamp" (.int 0) integer = .ok s.timestamp ∧
      optional r "lastReconciledSpec" text = .ok s.lastReconciledSpec ∧
      optional r "lastStableSpec" text = .ok s.lastStableSpec := by
  unfold decode
  split
  · contradiction
  · cases s
    simp [Outcome.bind_eq_ok, Outcome.map_eq_ok, entriesOf_eq_ok]

/-- What was last applied, as a status holds it. -/
def Valid (s : ReconciliationStatus) : Prop :=
  Piece.integer.Valid s.timestamp

/-- The specifications that are kept stay set. -/
def Covers (t s : ReconciliationStatus) : Prop :=
  StaysSet s.lastReconciledSpec t.lastReconciledSpec ∧ StaysSet s.lastStableSpec t.lastStableSpec

/-- The time does not merge. -/
def Replaces (t s : ReconciliationStatus) : Prop :=
  Piece.integer.Replaces t.timestamp s.timestamp

theorem decode_laid {a b : ReconciliationStatus} {older changes fields : Entries Value}
    (hv : a.Valid) (hch : a.encode = .map changes) (hb : decode (.map older) = .ok b)
    (hl : Laid older changes fields) (hr : a.Replaces b) :
    ReadsOver Covers Replaces (fun _ => True) (decode (.map fields)) a fun t => Covers t b := by
  obtain ⟨r, hmap, h₁, h₂, h₃⟩ := (decode_eq_ok Value.noConfusion).1 hb
  obtain rfl := Value.map.inj hmap
  obtain rfl := Value.map.inj hch
  have hw₁ := Piece.required_integer_laid hl h₁ (by simp) hv hr
  obtain ⟨w₂, hw₂, hc₂, he₂⟩ := Piece.optional_text_laid hl (a := a.lastReconciledSpec) h₂ (by simp)
  obtain ⟨w₃, hw₃, hc₃, he₃⟩ := Piece.optional_text_laid hl (a := a.lastStableSpec) h₃ (by simp)
  refine ⟨⟨a.timestamp, w₂, w₃⟩,
    (decode_eq_ok Value.noConfusion).2 ⟨_, rfl, hw₁, hw₂, hw₃⟩, fun t => ?_, ?_,
    Value.patch_self hv.1⟩
  · simp only [Covers, hc₂, hc₃]
    exact and_and_and_comm
  · cases a
    simp [he₂, he₃, Covers]

theorem valid_of_decode {r : Entries Value} (hs : (Value.map r).Sound)
    {s : ReconciliationStatus} (h : decode (.map r) = .ok s) : s.Valid ∧ True := by
  obtain ⟨_, ⟨⟩, h₁, -⟩ := (decode_eq_ok Value.noConfusion).1 h
  exact Piece.integer.valid_of_required hs (Piece.valid_int 0) h₁

theorem covers_empty (t : ReconciliationStatus) : t.Covers {} :=
  ⟨fun h => (nomatch h), fun h => (nomatch h)⟩

theorem replaces_empty (t : ReconciliationStatus) : t.Replaces {} :=
  Piece.replaces_int _ 0

/-- What was last applied as a piece of a status. -/
def piece : Piece ReconciliationStatus :=
  .ofRecord decode encode Valid (fun _ => True) Covers Replaces {} rfl covers_empty replaces_empty
    (fun hne h => ((decode_eq_ok hne).1 h).imp fun _ h => h.1) (fun _ => ⟨_, rfl, by simp⟩)
    valid_of_decode decode_laid

@[simp] theorem faithful_piece (s : ReconciliationStatus) : piece.Faithful s ↔ True := .rfl

@[simp] theorem covers_piece : piece.Covers = Covers := rfl

theorem valid_empty : Valid {} ∧ True :=
  valid_of_decode (r := []) trivial rfl

end ReconciliationStatus

/-! ## Clusters -/

namespace DeploymentStatus

theorem decode_eq_ok {v : Value} (hv : v ≠ .null) {s : DeploymentStatus} :
    decode v = .ok s ↔ ∃ r, v = .map r ∧
      required r "jobManagerDeploymentStatus" .missing Enumeration.parse = .ok s.manager ∧
      required r "jobStatus" {} JobStatus.decode = .ok s.job ∧
      required r "reconciliationStatus" {} ReconciliationStatus.decode = .ok s.reconciliation ∧
      optional r "error" text = .ok s.error := by
  unfold decode
  split
  · contradiction
  · cases s
    simp [Outcome.bind_eq_ok, Outcome.map_eq_ok, entriesOf_eq_ok]

/-- What the status of a cluster holds. -/
structure Valid (s : DeploymentStatus) : Prop where
  job : s.job.Valid
  reconciliation : s.reconciliation.Valid

/-- What was reported of the job is text. -/
def Faithful (s : DeploymentStatus) : Prop :=
  s.job.Faithful

/-- Everything that may be unset stays set. -/
def Covers (t s : DeploymentStatus) : Prop :=
  t.job.Covers s.job ∧ t.reconciliation.Covers s.reconciliation ∧ StaysSet s.error t.error

/-- No time merges. -/
structure Replaces (t s : DeploymentStatus) : Prop where
  job : t.job.Replaces s.job
  reconciliation : t.reconciliation.Replaces s.reconciliation

theorem Valid.replaces_self {s : DeploymentStatus} (h : s.Valid) : s.Replaces s :=
  ⟨h.job.savepoints.replaces_self, Value.patch_self h.reconciliation.1⟩

theorem decode_laid {a b : DeploymentStatus} {older changes fields : Entries Value} (hv : a.Valid)
    (hch : a.encode = .map changes) (hb : decode (.map older) = .ok b)
    (hl : Laid older changes fields) (hr : a.Replaces b) :
    ReadsOver Covers Replaces Faithful (decode (.map fields)) a fun t => Covers t b := by
  obtain ⟨r, hmap, h₁, h₂, h₃, h₄⟩ := (decode_eq_ok Value.noConfusion).1 hb
  obtain rfl := Value.map.inj hmap
  obtain rfl := Value.map.inj hch
  have hw₁ := Piece.required_member_laid hl (a := a.manager) h₁ (by simp)
  obtain ⟨w₂, hw₂, hc₂, he₂, hr₂⟩ := JobStatus.piece.required_laid hl JobStatus.covers_empty h₂
    (by simp; rfl) hv.job hr.job
  obtain ⟨w₃, hw₃, hc₃, he₃, hr₃⟩ := ReconciliationStatus.piece.required_laid hl
    ReconciliationStatus.covers_empty h₃ (by simp; rfl) hv.reconciliation hr.reconciliation
  obtain ⟨w₄, hw₄, hc₄, he₄⟩ := Piece.optional_text_laid hl (a := a.error) h₄ (by simp)
  refine ⟨⟨a.manager, w₂, w₃, w₄⟩,
    (decode_eq_ok Value.noConfusion).2 ⟨_, rfl, hw₁, hw₂, hw₃, hw₄⟩, fun t => ?_, ?_, ⟨hr₂, hr₃⟩⟩
  · simp only [Covers, ← JobStatus.covers_piece, ← ReconciliationStatus.covers_piece, hc₂, hc₃, hc₄]
    constructor
    · rintro ⟨⟨a₂, b₂⟩, ⟨a₃, b₃⟩, a₄, b₄⟩
      exact ⟨⟨a₂, a₃, a₄⟩, b₂, b₃, b₄⟩
    · rintro ⟨⟨a₂, a₃, a₄⟩, b₂, b₃, b₄⟩
      exact ⟨⟨a₂, b₂⟩, ⟨a₃, b₃⟩, a₄, b₄⟩
  · cases a
    simp only [mk.injEq, he₂, he₃, he₄, Faithful, Covers, JobStatus.faithful_piece,
      JobStatus.covers_piece, ReconciliationStatus.faithful_piece,
      ReconciliationStatus.covers_piece, true_and]
    exact and_assoc

theorem valid_of_decode {r : Entries Value} (hs : (Value.map r).Sound) {s : DeploymentStatus}
    (h : decode (.map r) = .ok s) : s.Valid ∧ s.Faithful := by
  obtain ⟨_, ⟨⟩, -, h₂, h₃, -⟩ := (decode_eq_ok Value.noConfusion).1 h
  have v₂ := JobStatus.piece.valid_of_required hs JobStatus.valid_empty h₂
  have v₃ := ReconciliationStatus.piece.valid_of_required hs ReconciliationStatus.valid_empty h₃
  exact ⟨⟨v₂.1, v₃.1⟩, v₂.2⟩

theorem covers_empty (t : DeploymentStatus) : t.Covers {} :=
  ⟨JobStatus.covers_empty _, ReconciliationStatus.covers_empty _, fun h => (nomatch h)⟩

/-- The status of a cluster. -/
def piece : Piece DeploymentStatus :=
  .ofRecord decode encode Valid Faithful Covers Replaces {} rfl
    covers_empty (fun _ => ⟨JobStatus.replaces_empty _, ReconciliationStatus.replaces_empty _⟩)
    (fun hne h => ((decode_eq_ok hne).1 h).imp fun _ h => h.1) (fun _ => ⟨_, rfl, by simp⟩)
    valid_of_decode decode_laid

theorem valid_empty : Valid {} ∧ Faithful {} :=
  valid_of_decode (r := []) trivial rfl

end DeploymentStatus

/-! ## Jobs on session clusters -/

namespace SessionJobStatus

theorem decode_eq_ok {v : Value} (hv : v ≠ .null) {s : SessionJobStatus} :
    decode v = .ok s ↔ ∃ r, v = .map r ∧
      required r "jobStatus" {} JobStatus.decode = .ok s.job ∧
      required r "reconciliationStatus" {} ReconciliationStatus.decode = .ok s.reconciliation ∧
      optional r "error" text = .ok s.error := by
  unfold decode
  split
  · contradiction
  · cases s
    simp [Outcome.bind_eq_ok, Outcome.map_eq_ok, entriesOf_eq_ok]

/-- What the status of a job on a session cluster holds. -/
structure Valid (s : SessionJobStatus) : Prop where
  job : s.job.Valid
  reconciliation : s.reconciliation.Valid

/-- What was reported of the job is text. -/
def Faithful (s : SessionJobStatus) : Prop :=
  s.job.Faithful

/-- Everything that may be unset stays set. -/
def Covers (t s : SessionJobStatus) : Prop :=
  t.job.Covers s.job ∧ t.reconciliation.Covers s.reconciliation ∧ StaysSet s.error t.error

/-- No time merges. -/
structure Replaces (t s : SessionJobStatus) : Prop where
  job : t.job.Replaces s.job
  reconciliation : t.reconciliation.Replaces s.reconciliation

theorem Valid.replaces_self {s : SessionJobStatus} (h : s.Valid) : s.Replaces s :=
  ⟨h.job.savepoints.replaces_self, Value.patch_self h.reconciliation.1⟩

theorem decode_laid {a b : SessionJobStatus} {older changes fields : Entries Value} (hv : a.Valid)
    (hch : a.encode = .map changes) (hb : decode (.map older) = .ok b)
    (hl : Laid older changes fields) (hr : a.Replaces b) :
    ReadsOver Covers Replaces Faithful (decode (.map fields)) a fun t => Covers t b := by
  obtain ⟨r, hmap, h₂, h₃, h₄⟩ := (decode_eq_ok Value.noConfusion).1 hb
  obtain rfl := Value.map.inj hmap
  obtain rfl := Value.map.inj hch
  obtain ⟨w₂, hw₂, hc₂, he₂, hr₂⟩ := JobStatus.piece.required_laid hl JobStatus.covers_empty h₂
    (by simp; rfl) hv.job hr.job
  obtain ⟨w₃, hw₃, hc₃, he₃, hr₃⟩ := ReconciliationStatus.piece.required_laid hl
    ReconciliationStatus.covers_empty h₃ (by simp; rfl) hv.reconciliation hr.reconciliation
  obtain ⟨w₄, hw₄, hc₄, he₄⟩ := Piece.optional_text_laid hl (a := a.error) h₄ (by simp)
  refine ⟨⟨w₂, w₃, w₄⟩,
    (decode_eq_ok Value.noConfusion).2 ⟨_, rfl, hw₂, hw₃, hw₄⟩, fun t => ?_, ?_, ⟨hr₂, hr₃⟩⟩
  · simp only [Covers, ← JobStatus.covers_piece, ← ReconciliationStatus.covers_piece, hc₂, hc₃, hc₄]
    constructor
    · rintro ⟨⟨a₂, b₂⟩, ⟨a₃, b₃⟩, a₄, b₄⟩
      exact ⟨⟨a₂, a₃, a₄⟩, b₂, b₃, b₄⟩
    · rintro ⟨⟨a₂, a₃, a₄⟩, b₂, b₃, b₄⟩
      exact ⟨⟨a₂, b₂⟩, ⟨a₃, b₃⟩, a₄, b₄⟩
  · cases a
    simp only [mk.injEq, he₂, he₃, he₄, Faithful, Covers, JobStatus.faithful_piece,
      JobStatus.covers_piece, ReconciliationStatus.faithful_piece,
      ReconciliationStatus.covers_piece, true_and]
    exact and_assoc

theorem valid_of_decode {r : Entries Value} (hs : (Value.map r).Sound) {s : SessionJobStatus}
    (h : decode (.map r) = .ok s) : s.Valid ∧ s.Faithful := by
  obtain ⟨_, ⟨⟩, h₂, h₃, -⟩ := (decode_eq_ok Value.noConfusion).1 h
  have v₂ := JobStatus.piece.valid_of_required hs JobStatus.valid_empty h₂
  have v₃ := ReconciliationStatus.piece.valid_of_required hs ReconciliationStatus.valid_empty h₃
  exact ⟨⟨v₂.1, v₃.1⟩, v₂.2⟩

theorem covers_empty (t : SessionJobStatus) : t.Covers {} :=
  ⟨JobStatus.covers_empty _, ReconciliationStatus.covers_empty _, fun h => (nomatch h)⟩

/-- The status of a job on a session cluster. -/
def piece : Piece SessionJobStatus :=
  .ofRecord decode encode Valid Faithful Covers Replaces {} rfl
    covers_empty (fun _ => ⟨JobStatus.replaces_empty _, ReconciliationStatus.replaces_empty _⟩)
    (fun hne h => ((decode_eq_ok hne).1 h).imp fun _ h => h.1) (fun _ => ⟨_, rfl, by simp⟩)
    valid_of_decode decode_laid

theorem valid_empty : Valid {} ∧ Faithful {} :=
  valid_of_decode (r := []) trivial rfl

end SessionJobStatus

end FlinkSteward
