import FlinkSteward.Proofs.Resource.Content
import FlinkSteward.Resource.Spec

/-!
# Specifications read back

Each record of a specification is a content: what reading a manifest gives is written as a manifest
that reads as the same record. A record that went through a JSON text has its maps in the order of
their keys, and is the same otherwise.

## Key results

- `decode_eq_ok` of each record: what reading says of its fields
- `DeploymentSpec.content`, `SessionJobSpec.content`, `Metadata.content`: the records as contents
-/

namespace FlinkSteward

open Record

/-! ## Steps that succeed -/

theorem Outcome.bind_eq_ok {α β : Type} {x : Outcome α} {f : α → Outcome β} {b : β} :
    (x >>= f) = .ok b ↔ ∃ a, x = .ok a ∧ f a = .ok b := by
  rcases x with e | a <;> simp [bind, Except.bind]

theorem Outcome.map_eq_ok {α β : Type} {x : Outcome α} {f : α → β} {b : β} :
    f <$> x = .ok b ↔ ∃ a, x = .ok a ∧ f a = b := by
  rcases x with e | a <;> simp [Functor.map, Except.map]

theorem Record.entriesOf_eq_ok {v : Value} {r : Entries Value} :
    entriesOf v = .ok r ↔ v = .map r := by
  cases v <;> simp [entriesOf]

/-! ## Metadata -/

namespace Metadata

theorem decode_eq_ok {v : Value} (hv : v ≠ .null) {m : Metadata} :
    decode v = .ok m ↔ ∃ r, v = .map r ∧
      optional r "name" text = .ok m.name ∧
      optional r "namespace" text = .ok m.namespaceName ∧
      optional r "uid" text = .ok m.uid ∧
      optional r "generation" integer = .ok m.generation ∧
      optional r "labels" texts = .ok m.labels := by
  unfold decode
  split
  · contradiction
  · cases m
    simp [Outcome.bind_eq_ok, Outcome.map_eq_ok, entriesOf_eq_ok]

/-- Metadata, in a layout. -/
def arrange (l : Layout) (m : Metadata) : Metadata :=
  { m with generation := m.generation.map l.value, labels := m.labels.map l.entries }

/-- What reading gives. -/
structure Valid (m : Metadata) : Prop where
  generation : ∀ v ∈ m.generation, Content.integer.Valid v
  labels : ∀ t ∈ m.labels, Content.texts.Valid t

@[simp] theorem arrange_kept : arrange .kept = id := by
  funext m
  cases m
  simp [arrange]

/-- Metadata, as it is read from manifests. -/
def content : Content Metadata where
  read := decode
  write := encode
  arrange := arrange
  Valid := Valid
  valid_of_read {v m} hs hne h := by
    obtain ⟨r, rfl, -, -, -, h₄, h₅⟩ := (decode_eq_ok hne).1 h
    exact ⟨Content.integer.valid_of_optional hs h₄, Content.texts.valid_of_optional hs h₅⟩
  write_ne_null _ := Value.noConfusion
  sound_write {m} h := by
    have h₁ := Content.integer.sound_optional h.generation
    have h₂ := Content.texts.sound_optional h.labels
    simpa [encode, build] using And.intro h₁ h₂
  read_value {m} l h := by
    rw [encode, build, l.value_map]
    refine (decode_eq_ok Value.noConfusion).2 ⟨_, rfl, ?_, ?_, ?_, ?_, ?_⟩
    · exact optional_text l (by simp [arrange])
    · exact optional_text l (by simp [arrange])
    · exact optional_text l (by simp [arrange])
    · exact Content.integer.optional_fields l h.generation (by simp)
    · exact Content.texts.optional_fields l h.labels (by simp)
  kept_of_read _ := congrFun arrange_kept _

@[simp] theorem write_content : content.write = encode := rfl

end Metadata

/-! ## What a process gets -/

namespace ResourceSpec

theorem decode_eq_ok {v : Value} (hv : v ≠ .null) {s : ResourceSpec} :
    decode v = .ok s ↔ ∃ r, v = .map r ∧
      optional r "cpu" any = .ok s.cpu ∧
      optional r "memory" text = .ok s.memory := by
  unfold decode
  split
  · contradiction
  · cases s
    simp [Outcome.bind_eq_ok, Outcome.map_eq_ok, entriesOf_eq_ok]

/-- What a process gets, in a layout. -/
def arrange (l : Layout) (s : ResourceSpec) : ResourceSpec :=
  { s with cpu := s.cpu.map l.value }

/-- What reading gives. -/
structure Valid (s : ResourceSpec) : Prop where
  cpu : ∀ v ∈ s.cpu, Content.any.Valid v

@[simp] theorem arrange_kept : arrange .kept = id := by
  funext s
  cases s
  simp [arrange]

@[simp] theorem arrange_sorted_sorted (s : ResourceSpec) :
    (s.arrange .sorted).arrange .sorted = s.arrange .sorted := by
  simp [arrange, Function.comp_def]

theorem default_valid : Valid {} := ⟨by simp⟩

/-- What a process gets, as it is read from manifests. -/
def content : Content ResourceSpec where
  read := decode
  write := encode
  arrange := arrange
  Valid := Valid
  valid_of_read {v s} hs hne h := by
    obtain ⟨r, rfl, h₁, -⟩ := (decode_eq_ok hne).1 h
    exact ⟨Content.any.valid_of_optional hs h₁⟩
  write_ne_null _ := Value.noConfusion
  sound_write {s} h := by
    have h₁ := Content.any.sound_optional h.cpu
    simpa [encode, build] using h₁
  read_value {s} l h := by
    rw [encode, build, l.value_map]
    refine (decode_eq_ok Value.noConfusion).2 ⟨_, rfl, ?_, ?_⟩
    · exact Content.any.optional_fields l h.cpu (by simp)
    · exact optional_text l (by simp [arrange])
  kept_of_read _ := congrFun arrange_kept _

@[simp] theorem write_content : content.write = encode := rfl

end ResourceSpec

/-! ## JobManagers -/

namespace JobManagerSpec

theorem decode_eq_ok {v : Value} (hv : v ≠ .null) {s : JobManagerSpec} :
    decode v = .ok s ↔ ∃ r, v = .map r ∧ ∃ resource,
      required r "resource" {} ResourceSpec.decode = .ok resource ∧
      required r "replicas" (.int 1) integer = .ok s.replicas ∧
      optional r "podTemplate" entries = .ok s.podTemplate ∧
      some resource = s.resource := by
  unfold decode
  split
  · contradiction
  · cases s
    simp [Outcome.bind_eq_ok, Outcome.map_eq_ok, entriesOf_eq_ok]

/-- How the JobManager runs, in a layout, with the default where nothing is said about its resource. -/
def arrange (l : Layout) (s : JobManagerSpec) : JobManagerSpec :=
  { resource := some (ResourceSpec.arrange l (s.resource.getD {})),
    replicas := l.value s.replicas,
    podTemplate := s.podTemplate.map l.fields }

/-- What reading gives. -/
structure Valid (s : JobManagerSpec) : Prop where
  resource : ∀ t ∈ s.resource, ResourceSpec.content.Valid t
  replicas : Content.integer.Valid s.replicas
  podTemplate : ∀ t ∈ s.podTemplate, Content.entries.Valid t

theorem arrange_kept {s : JobManagerSpec} {resource : ResourceSpec} (h : s.resource = some resource) :
    s.arrange .kept = s := by
  cases s
  subst h
  simp [arrange]

/-- `decode` gives a JobManager that stays as it is without a change of layout. -/
theorem kept_of_decode {v : Value} {s : JobManagerSpec} (h : decode v = .ok s) : s.arrange .kept = s := by
  by_cases hne : v = .null
  · rw [hne] at h
    obtain rfl := Except.ok.inj h
    exact arrange_kept rfl
  · obtain ⟨r, rfl, resource, -, -, -, hset⟩ := (decode_eq_ok hne).1 h
    exact arrange_kept hset.symm

@[simp] theorem arrange_sorted_sorted (s : JobManagerSpec) :
    (s.arrange .sorted).arrange .sorted = s.arrange .sorted := by
  simp [arrange, Function.comp_def]

/-- How the JobManager runs, as it is read from manifests. -/
def content : Content JobManagerSpec where
  read := decode
  write := encode
  arrange := arrange
  Valid := Valid
  valid_of_read {v s} hs hne h := by
    obtain ⟨r, rfl, resource, h₁, h₂, h₃, hset⟩ := (decode_eq_ok hne).1 h
    have hresource := ResourceSpec.content.valid_of_required hs ResourceSpec.default_valid h₁
    exact ⟨by rw [← hset]; rintro _ ⟨⟩; exact hresource,
      Content.integer.valid_of_required hs (Content.valid_int 1) h₂,
      Content.entries.valid_of_optional hs h₃⟩
  write_ne_null _ := Value.noConfusion
  sound_write {s} h := by
    have h₁ := ResourceSpec.content.sound_optional h.resource
    have h₂ := Content.integer.sound_write h.replicas
    have h₃ := Content.entries.sound_optional h.podTemplate
    simpa [encode, build] using And.intro h₁ (And.intro h₂ h₃)
  read_value {s} l h := by
    rw [encode, build, l.value_map]
    refine (decode_eq_ok Value.noConfusion).2 ⟨_, rfl, _, ?_, ?_, ?_, rfl⟩
    · exact ResourceSpec.content.required_optional l rfl h.resource (by simp)
    · exact Content.integer.required_fields l h.replicas (by simp)
    · exact Content.entries.optional_fields l h.podTemplate (by simp)
  kept_of_read := kept_of_decode

@[simp] theorem write_content : content.write = encode := rfl

end JobManagerSpec

/-! ## TaskManagers -/

namespace TaskManagerSpec

theorem decode_eq_ok {v : Value} (hv : v ≠ .null) {s : TaskManagerSpec} :
    decode v = .ok s ↔ ∃ r, v = .map r ∧ ∃ resource,
      required r "resource" {} ResourceSpec.decode = .ok resource ∧
      optional r "podTemplate" entries = .ok s.podTemplate ∧
      some resource = s.resource := by
  unfold decode
  split
  · contradiction
  · cases s
    simp [Outcome.bind_eq_ok, Outcome.map_eq_ok, entriesOf_eq_ok]

/-- How TaskManagers run, in a layout, with the default where nothing is said about their resource. -/
def arrange (l : Layout) (s : TaskManagerSpec) : TaskManagerSpec :=
  { resource := some (ResourceSpec.arrange l (s.resource.getD {})),
    podTemplate := s.podTemplate.map l.fields }

/-- What reading gives. -/
structure Valid (s : TaskManagerSpec) : Prop where
  resource : ∀ t ∈ s.resource, ResourceSpec.content.Valid t
  podTemplate : ∀ t ∈ s.podTemplate, Content.entries.Valid t

theorem arrange_kept {s : TaskManagerSpec} {resource : ResourceSpec} (h : s.resource = some resource) :
    s.arrange .kept = s := by
  cases s
  subst h
  simp [arrange]

/-- `decode` gives a TaskManager that stays as it is without a change of layout. -/
theorem kept_of_decode {v : Value} {s : TaskManagerSpec} (h : decode v = .ok s) : s.arrange .kept = s := by
  by_cases hne : v = .null
  · rw [hne] at h
    obtain rfl := Except.ok.inj h
    exact arrange_kept rfl
  · obtain ⟨r, rfl, resource, -, -, hset⟩ := (decode_eq_ok hne).1 h
    exact arrange_kept hset.symm

@[simp] theorem arrange_sorted_sorted (s : TaskManagerSpec) :
    (s.arrange .sorted).arrange .sorted = s.arrange .sorted := by
  simp [arrange, Function.comp_def]

/-- How TaskManagers run, as it is read from manifests. -/
def content : Content TaskManagerSpec where
  read := decode
  write := encode
  arrange := arrange
  Valid := Valid
  valid_of_read {v s} hs hne h := by
    obtain ⟨r, rfl, resource, h₁, h₂, hset⟩ := (decode_eq_ok hne).1 h
    have hresource := ResourceSpec.content.valid_of_required hs ResourceSpec.default_valid h₁
    exact ⟨by rw [← hset]; rintro _ ⟨⟩; exact hresource, Content.entries.valid_of_optional hs h₂⟩
  write_ne_null _ := Value.noConfusion
  sound_write {s} h := by
    have h₁ := ResourceSpec.content.sound_optional h.resource
    have h₂ := Content.entries.sound_optional h.podTemplate
    simpa [encode, build] using And.intro h₁ h₂
  read_value {s} l h := by
    rw [encode, build, l.value_map]
    refine (decode_eq_ok Value.noConfusion).2 ⟨_, rfl, _, ?_, ?_, rfl⟩
    · exact ResourceSpec.content.required_optional l rfl h.resource (by simp)
    · exact Content.entries.optional_fields l h.podTemplate (by simp)
  kept_of_read := kept_of_decode

@[simp] theorem write_content : content.write = encode := rfl

end TaskManagerSpec

/-! ## Ingresses -/

namespace IngressSpec

theorem decode_eq_ok {v : Value} (hv : v ≠ .null) {s : IngressSpec} :
    decode v = .ok s ↔ ∃ r, v = .map r ∧
      optional r "template" text = .ok s.template ∧
      optional r "className" text = .ok s.className ∧
      optional r "annotations" texts = .ok s.annotations := by
  unfold decode
  split
  · contradiction
  · cases s
    simp [Outcome.bind_eq_ok, Outcome.map_eq_ok, entriesOf_eq_ok]

/-- How a cluster is reached, in a layout. -/
def arrange (l : Layout) (s : IngressSpec) : IngressSpec :=
  { s with annotations := s.annotations.map l.entries }

/-- What reading gives. -/
structure Valid (s : IngressSpec) : Prop where
  annotations : ∀ t ∈ s.annotations, Content.texts.Valid t

@[simp] theorem arrange_kept : arrange .kept = id := by
  funext s
  cases s
  simp [arrange]

@[simp] theorem arrange_sorted_sorted (s : IngressSpec) :
    (s.arrange .sorted).arrange .sorted = s.arrange .sorted := by
  simp [arrange, Function.comp_def]

/-- How a cluster is reached, as it is read from manifests. -/
def content : Content IngressSpec where
  read := decode
  write := encode
  arrange := arrange
  Valid := Valid
  valid_of_read {v s} hs hne h := by
    obtain ⟨r, rfl, -, -, h₃⟩ := (decode_eq_ok hne).1 h
    exact ⟨Content.texts.valid_of_optional hs h₃⟩
  write_ne_null _ := Value.noConfusion
  sound_write {s} h := by
    have h₁ := Content.texts.sound_optional h.annotations
    simpa [encode, build] using h₁
  read_value {s} l h := by
    rw [encode, build, l.value_map]
    refine (decode_eq_ok Value.noConfusion).2 ⟨_, rfl, ?_, ?_, ?_⟩
    · exact optional_text l (by simp [arrange])
    · exact optional_text l (by simp [arrange])
    · exact Content.texts.optional_fields l h.annotations (by simp)
  kept_of_read _ := congrFun arrange_kept _

@[simp] theorem write_content : content.write = encode := rfl

end IngressSpec

/-! ## Jobs -/

namespace JobSpec

theorem decode_eq_ok {v : Value} (hv : v ≠ .null) {s : JobSpec} :
    decode v = .ok s ↔ ∃ r, v = .map r ∧ ∃ state,
      optional r "jarURI" text = .ok s.jarUri ∧
      optional r "parallelism" integer = .ok s.parallelism ∧
      optional r "entryClass" text = .ok s.entryClass ∧
      required r "args" [] textList = .ok s.args ∧
      required r "state" .running Enumeration.parse = .ok state ∧
      optional r "savepointTriggerNonce" integer = .ok s.savepointTriggerNonce ∧
      optional r "initialSavepointPath" text = .ok s.initialSavepointPath ∧
      required r "upgradeMode" .stateless Enumeration.parse = .ok s.upgradeMode ∧
      optional r "allowNonRestoredState" any = .ok s.allowNonRestoredState ∧
      some state = s.state := by
  unfold decode
  split
  · contradiction
  · cases s
    simp [Outcome.bind_eq_ok, Outcome.map_eq_ok, entriesOf_eq_ok]

/-- A job, in a layout, which should run where nothing is said about its state. -/
def arrange (l : Layout) (s : JobSpec) : JobSpec :=
  { s with
    state := some (s.state.getD .running),
    parallelism := s.parallelism.map l.value,
    savepointTriggerNonce := s.savepointTriggerNonce.map l.value,
    allowNonRestoredState := s.allowNonRestoredState.map l.value }

/-- What reading gives. -/
structure Valid (s : JobSpec) : Prop where
  parallelism : ∀ v ∈ s.parallelism, Content.integer.Valid v
  nonce : ∀ v ∈ s.savepointTriggerNonce, Content.integer.Valid v
  allowNonRestoredState : ∀ v ∈ s.allowNonRestoredState, Content.any.Valid v

theorem arrange_kept {s : JobSpec} {state : JobState} (h : s.state = some state) :
    s.arrange .kept = s := by
  cases s
  subst h
  simp [arrange]

/-- `decode` gives a job that stays as it is without a change of layout. -/
theorem kept_of_decode {v : Value} {s : JobSpec} (h : decode v = .ok s) : s.arrange .kept = s := by
  by_cases hne : v = .null
  · rw [hne] at h
    obtain rfl := Except.ok.inj h
    exact arrange_kept rfl
  · obtain ⟨r, rfl, state, -, -, -, -, -, -, -, -, -, hset⟩ := (decode_eq_ok hne).1 h
    exact arrange_kept hset.symm

@[simp] theorem arrange_sorted_sorted (s : JobSpec) :
    (s.arrange .sorted).arrange .sorted = s.arrange .sorted := by
  simp [arrange, Function.comp_def]

/-- A job, as it is read from manifests. -/
def content : Content JobSpec where
  read := decode
  write := encode
  arrange := arrange
  Valid := Valid
  valid_of_read {v s} hs hne h := by
    obtain ⟨r, rfl, -, -, h₂, -, -, -, h₆, -, -, h₉, -⟩ := (decode_eq_ok hne).1 h
    exact ⟨Content.integer.valid_of_optional hs h₂, Content.integer.valid_of_optional hs h₆,
      Content.any.valid_of_optional hs h₉⟩
  write_ne_null _ := Value.noConfusion
  sound_write {s} h := by
    have h₁ := Content.integer.sound_optional h.parallelism
    have h₂ := Content.integer.sound_optional h.nonce
    have h₃ := Content.any.sound_optional h.allowNonRestoredState
    simpa [encode, build] using And.intro h₁ (And.intro h₂ h₃)
  read_value {s} l h := by
    rw [encode, build, l.value_map]
    refine (decode_eq_ok Value.noConfusion).2 ⟨_, rfl, _, ?_, ?_, ?_, ?_, ?_, ?_, ?_, ?_, ?_, rfl⟩
    · exact optional_text l (by simp [arrange])
    · exact Content.integer.optional_fields l h.parallelism (by simp)
    · exact optional_text l (by simp [arrange])
    · exact required_textList l (by simp [arrange])
    · exact required_getD_member l (by simp)
    · exact Content.integer.optional_fields l h.nonce (by simp)
    · exact optional_text l (by simp [arrange])
    · exact required_member l (by simp [arrange])
    · exact Content.any.optional_fields l h.allowNonRestoredState (by simp)
  kept_of_read := kept_of_decode

@[simp] theorem write_content : content.write = encode := rfl

end JobSpec

/-! ## Clusters -/

namespace DeploymentSpec

theorem decode_eq_ok {v : Value} (hv : v ≠ .null) {s : DeploymentSpec} :
    decode v = .ok s ↔ ∃ r, v = .map r ∧
      optional r "image" text = .ok s.image ∧
      optional r "imagePullPolicy" text = .ok s.imagePullPolicy ∧
      optional r "serviceAccount" text = .ok s.serviceAccount ∧
      optional r "flinkVersion" Enumeration.parse = .ok s.flinkVersion ∧
      required r "flinkConfiguration" [] texts = .ok s.flinkConfiguration ∧
      optional r "logConfiguration" texts = .ok s.logConfiguration ∧
      optional r "podTemplate" entries = .ok s.podTemplate ∧
      optional r "ingress" IngressSpec.decode = .ok s.ingress ∧
      optional r "jobManager" JobManagerSpec.decode = .ok s.jobManager ∧
      optional r "taskManager" TaskManagerSpec.decode = .ok s.taskManager ∧
      optional r "job" JobSpec.decode = .ok s.job := by
  unfold decode
  split
  · contradiction
  · cases s
    simp [Outcome.bind_eq_ok, Outcome.map_eq_ok, entriesOf_eq_ok]

/-- A cluster, in a layout. -/
def arrange (l : Layout) (s : DeploymentSpec) : DeploymentSpec :=
  { s with
    flinkConfiguration := l.entries s.flinkConfiguration,
    logConfiguration := s.logConfiguration.map l.entries,
    podTemplate := s.podTemplate.map l.fields,
    ingress := s.ingress.map (IngressSpec.arrange l),
    jobManager := s.jobManager.map (JobManagerSpec.arrange l),
    taskManager := s.taskManager.map (TaskManagerSpec.arrange l),
    job := s.job.map (JobSpec.arrange l) }

/-- What reading gives. -/
structure Valid (s : DeploymentSpec) : Prop where
  flinkConfiguration : Content.texts.Valid s.flinkConfiguration
  logConfiguration : ∀ t ∈ s.logConfiguration, Content.texts.Valid t
  podTemplate : ∀ t ∈ s.podTemplate, Content.entries.Valid t
  ingress : ∀ t ∈ s.ingress, IngressSpec.content.Valid t
  jobManager : ∀ t ∈ s.jobManager, JobManagerSpec.content.Valid t
  taskManager : ∀ t ∈ s.taskManager, TaskManagerSpec.content.Valid t
  job : ∀ t ∈ s.job, JobSpec.content.Valid t

/-- `decode` gives a specification that stays as it is without a change of layout. -/
theorem kept_of_decode {v : Value} {s : DeploymentSpec} (h : decode v = .ok s) :
    s.arrange .kept = s := by
  by_cases hne : v = .null
  · rw [hne] at h
    obtain rfl := Except.ok.inj h
    rfl
  · obtain ⟨r, rfl, -, -, -, -, -, -, -, -, hmanager, hworkers, hjob⟩ := (decode_eq_ok hne).1 h
    -- the layout is that of all parts, and the three that have a default of their own were read
    have hmanager : s.jobManager.map (JobManagerSpec.arrange .kept) = s.jobManager :=
      JobManagerSpec.content.kept_of_optional hmanager
    have hworkers : s.taskManager.map (TaskManagerSpec.arrange .kept) = s.taskManager :=
      TaskManagerSpec.content.kept_of_optional hworkers
    have hjob : s.job.map (JobSpec.arrange .kept) = s.job := JobSpec.content.kept_of_optional hjob
    simp [arrange, hmanager, hworkers, hjob]

@[simp] theorem arrange_sorted_sorted (s : DeploymentSpec) :
    (s.arrange .sorted).arrange .sorted = s.arrange .sorted := by
  simp [arrange, Function.comp_def]

/-- A cluster, as it is read from manifests. -/
def content : Content DeploymentSpec where
  read := decode
  write := encode
  arrange := arrange
  Valid := Valid
  valid_of_read {v s} hs hne h := by
    obtain ⟨r, rfl, -, -, -, -, h₅, h₆, h₇, h₈, h₉, h₁₀, h₁₁⟩ := (decode_eq_ok hne).1 h
    exact ⟨Content.texts.valid_of_required hs Content.valid_texts_nil h₅,
      Content.texts.valid_of_optional hs h₆, Content.entries.valid_of_optional hs h₇,
      IngressSpec.content.valid_of_optional hs h₈, JobManagerSpec.content.valid_of_optional hs h₉,
      TaskManagerSpec.content.valid_of_optional hs h₁₀, JobSpec.content.valid_of_optional hs h₁₁⟩
  write_ne_null _ := Value.noConfusion
  sound_write {s} h := by
    have h₁ := Content.texts.sound_write h.flinkConfiguration
    have h₂ := Content.texts.sound_optional h.logConfiguration
    have h₃ := Content.entries.sound_optional h.podTemplate
    have h₄ := IngressSpec.content.sound_optional h.ingress
    have h₅ := JobManagerSpec.content.sound_optional h.jobManager
    have h₆ := TaskManagerSpec.content.sound_optional h.taskManager
    have h₇ := JobSpec.content.sound_optional h.job
    simpa [encode, build] using And.intro h₁ ⟨h₂, h₃, h₄, h₅, h₆, h₇⟩
  read_value {s} l h := by
    rw [encode, build, l.value_map]
    refine (decode_eq_ok Value.noConfusion).2 ⟨_, rfl, ?_, ?_, ?_, ?_, ?_, ?_, ?_, ?_, ?_, ?_, ?_⟩
    · exact optional_text l (by simp [arrange])
    · exact optional_text l (by simp [arrange])
    · exact optional_text l (by simp [arrange])
    · exact optional_member l (by simp [arrange])
    · exact Content.texts.required_fields l h.flinkConfiguration (by simp)
    · exact Content.texts.optional_fields l h.logConfiguration (by simp)
    · exact Content.entries.optional_fields l h.podTemplate (by simp)
    · exact IngressSpec.content.optional_fields l h.ingress (by simp)
    · exact JobManagerSpec.content.optional_fields l h.jobManager (by simp)
    · exact TaskManagerSpec.content.optional_fields l h.taskManager (by simp)
    · exact JobSpec.content.optional_fields l h.job (by simp)
  kept_of_read := kept_of_decode

@[simp] theorem write_content : content.write = encode := rfl

end DeploymentSpec

/-! ## Jobs on session clusters -/

namespace SessionJobSpec

theorem decode_eq_ok {v : Value} (hv : v ≠ .null) {s : SessionJobSpec} :
    decode v = .ok s ↔ ∃ r, v = .map r ∧
      optional r "clusterId" text = .ok s.clusterId ∧
      optional r "job" JobSpec.decode = .ok s.job ∧
      required r "flinkConfiguration" [] texts = .ok s.flinkConfiguration := by
  unfold decode
  split
  · contradiction
  · cases s
    simp [Outcome.bind_eq_ok, Outcome.map_eq_ok, entriesOf_eq_ok]

/-- A job on a session cluster, in a layout. -/
def arrange (l : Layout) (s : SessionJobSpec) : SessionJobSpec :=
  { s with
    job := s.job.map (JobSpec.arrange l),
    flinkConfiguration := l.entries s.flinkConfiguration }

/-- What reading gives. -/
structure Valid (s : SessionJobSpec) : Prop where
  job : ∀ t ∈ s.job, JobSpec.content.Valid t
  flinkConfiguration : Content.texts.Valid s.flinkConfiguration

/-- `decode` gives a specification that stays as it is without a change of layout. -/
theorem kept_of_decode {v : Value} {s : SessionJobSpec} (h : decode v = .ok s) :
    s.arrange .kept = s := by
  by_cases hne : v = .null
  · rw [hne] at h
    obtain rfl := Except.ok.inj h
    rfl
  · obtain ⟨r, rfl, -, hjob, -⟩ := (decode_eq_ok hne).1 h
    have hjob : s.job.map (JobSpec.arrange .kept) = s.job := JobSpec.content.kept_of_optional hjob
    simp [arrange, hjob]

@[simp] theorem arrange_sorted_sorted (s : SessionJobSpec) :
    (s.arrange .sorted).arrange .sorted = s.arrange .sorted := by
  simp [arrange, Function.comp_def]

/-- A job on a session cluster, as it is read from manifests. -/
def content : Content SessionJobSpec where
  read := decode
  write := encode
  arrange := arrange
  Valid := Valid
  valid_of_read {v s} hs hne h := by
    obtain ⟨r, rfl, -, h₂, h₃⟩ := (decode_eq_ok hne).1 h
    exact ⟨JobSpec.content.valid_of_optional hs h₂,
      Content.texts.valid_of_required hs Content.valid_texts_nil h₃⟩
  write_ne_null _ := Value.noConfusion
  sound_write {s} h := by
    have h₁ := JobSpec.content.sound_optional h.job
    have h₂ := Content.texts.sound_write h.flinkConfiguration
    simpa [encode, build] using And.intro h₁ h₂
  read_value {s} l h := by
    rw [encode, build, l.value_map]
    refine (decode_eq_ok Value.noConfusion).2 ⟨_, rfl, ?_, ?_, ?_⟩
    · exact optional_text l (by simp [arrange])
    · exact JobSpec.content.optional_fields l h.job (by simp)
    · exact Content.texts.required_fields l h.flinkConfiguration (by simp)
  kept_of_read := kept_of_decode

@[simp] theorem write_content : content.write = encode := rfl

end SessionJobSpec

end FlinkSteward
