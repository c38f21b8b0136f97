import FlinkSteward.Control.Jobs
import FlinkSteward.Proofs.Config.Accepted
import FlinkSteward.Proofs.Validation.Availability

/-!
# What is validated is what runs

The rules look at the defaults with the user's entries on top. The configuration that a cluster runs
with is made of more: fields of the specification set options of their own, one step after another.
Every step leaves most options alone, and the ones that the rules ask about are among them. What the
rules say about them so holds of the configuration that runs.

## Key results

- `Action.Gives`: what an action gives if it succeeds, with rules for `pure` and `bind`
- `Config.Sets`: a configuration made from another one by setting certain options only
- `Config.effective_gives`: which options the specification sets, and to what
- `accepted_is_honoured`: what an accepted cluster runs with
-/

namespace FlinkSteward

open FlinkSteward.Text

/-! ## Results of actions -/

/-- Every result of an action has a property. -/
def Action.Gives {σ α : Type} (a : Action σ α) (P : α → Prop) : Prop :=
  ∀ s x t, a.runOn s = (.ok x, t) → P x

namespace Action.Gives

variable {σ α β : Type} {P : α → Prop} {Q : β → Prop}

theorem pure {x : α} (h : P x) : (Pure.pure x : Action σ α).Gives P := by
  intro s y t hrun
  obtain ⟨rfl, -⟩ := runOn_pure_eq_ok.1 hrun
  exact h

theorem ofOutcome {r : Outcome α} (h : ∀ x, r = .ok x → P x) :
    (Action.ofOutcome r : Action σ α).Gives P := by
  intro s x t hrun
  exact h x (runOn_ofOutcome_eq_ok.1 hrun).1

theorem bind {a : Action σ α} {f : α → Action σ β} (ha : a.Gives P)
    (hf : ∀ x, P x → (f x).Gives Q) : (a >>= f).Gives Q := by
  intro s y u hrun
  obtain ⟨x, t, hfirst, hrest⟩ := runOn_bind_eq_ok.1 hrun
  exact hf x (ha s x t hfirst) t y u hrest

/-- `a >>= f` gives what `f` does, when that does not depend on `a`. -/
theorem bind_any {a : Action σ α} {f : α → Action σ β} (hf : ∀ x, (f x).Gives Q) :
    (a >>= f).Gives Q :=
  bind (P := fun _ => True) (fun _ _ _ _ => trivial) fun x _ => hf x

end Action.Gives

/-! ## Options that a step leaves alone -/

namespace Config

/-- A configuration comes from another one by setting options among `keys`. -/
def Sets (keys : List String) (c d : Config) : Prop :=
  ∀ key ∉ keys, d.get? key = c.get? key

namespace Sets

variable {keys others : List String} {c d e : Config}

theorem refl (keys : List String) (c : Config) : Sets keys c c :=
  fun _ _ => rfl

theorem trans (h : Sets keys c d) (h' : Sets others d e) : Sets (keys ++ others) c e := by
  intro key hkey
  rw [List.mem_append, not_or] at hkey
  rw [h' key hkey.2, h key hkey.1]

theorem mono (h : Sets keys c d) (hsub : keys ⊆ others) : Sets others c d :=
  fun key hkey => h key fun hmem => hkey (hsub hmem)

/-- Steps that set options of one list (`Sets`) compose. -/
theorem trans_self (h : Sets keys c d) (h' : Sets keys d e) : Sets keys c e :=
  (h.trans h').mono (by simp)

theorem put {key : String} (value : Value) (hkey : key ∈ keys) : Sets keys c (c.put key value) :=
  fun _ hother => Entries.get?_put_of_ne c value fun heq => hother (heq ▸ hkey)

theorem setNew {key : String} (text : String) (hkey : key ∈ keys) :
    Sets keys c (c.setNew key text) := by
  rw [Config.setNew, Entries.putNew]
  split
  · exact refl keys c
  · exact put _ hkey

theorem setIf {key : String} (text : Option String) (hkey : key ∈ keys) :
    Sets keys c (c.setIf key text) := by
  cases text with
  | none => exact refl keys c
  | some s => exact put _ hkey

end Sets

/-! ## Steps -/

variable (c : Config)

@[simp] theorem get?_set_self (key text : String) :
    (c.set key text).get? key = some (.text text) :=
  Entries.get?_put_self c key _

/-- The options that are set only where they are missing. -/
def fallbackKeys : List String :=
  [restServiceTypeKey, cancelEnabledKey, checkpointingIntervalKey]

theorem withUserEntries_sets (spec : DeploymentSpec) :
    Sets fallbackKeys (c.overlay spec.flinkConfiguration) (c.withUserEntries spec) := by
  have hservice : Sets fallbackKeys (c.overlay spec.flinkConfiguration)
      ((c.overlay spec.flinkConfiguration).setNew restServiceTypeKey "ClusterIP") :=
    .setNew _ (by decide)
  unfold withUserEntries
  cases spec.job with
  | none => exact hservice
  | some job =>
    have hcancel : Sets fallbackKeys (c.overlay spec.flinkConfiguration)
        (((c.overlay spec.flinkConfiguration).setNew restServiceTypeKey "ClusterIP").setNew
          cancelEnabledKey "false") :=
      hservice.trans_self (.setNew _ (by decide))
    dsimp only
    split
    · exact hcancel.trans_self (.setNew "5 min" (by decide))
    · exact hcancel

theorem withLogging_gives (spec : DeploymentSpec) :
    (c.withLogging spec).Gives (Sets [directoryKey] c) := by
  unfold withLogging
  cases spec.logConfiguration with
  | none => exact .pure (.refl _ c)
  | some entries => exact .bind_any fun _ => .pure (.put _ (by simp))

/-- The options of the image and of the pods' account. -/
def imageKeys : List String :=
  [imageKey, imagePullPolicyKey, serviceAccountKey]

theorem withImage_sets (spec : DeploymentSpec) : Sets imageKeys c (c.withImage spec) := by
  unfold withImage
  have himage : Sets imageKeys c (c.setIf imageKey (unlessBlank spec.image)) :=
    .setIf _ (by decide)
  exact (himage.trans_self (.setIf _ (by decide))).trans_self (.setIf _ (by decide))

theorem withPodTemplate_gives (key : String) (template : Option Object) :
    (c.withPodTemplate key template).Gives (Sets [key] c) := by
  cases template with
  | none => exact .pure (.refl _ c)
  | some t => exact .bind_any fun _ => .pure (.put _ (by simp))

theorem withIngress_sets (spec : DeploymentSpec) :
    Sets [restServiceTypeKey] c (c.withIngress spec) := by
  unfold withIngress
  split
  · exact .put _ (by simp)
  · exact .refl _ c

/-- `withResource` sets the memory of a process that the specification has, if it has one. -/
theorem withResource_gives {c d : Config} {resource : Option ResourceSpec} {memoryKey cpuKey : String}
    (hne : cpuKey ≠ memoryKey) (h : c.withResource resource memoryKey cpuKey = .ok d) :
    Sets [memoryKey, cpuKey] c d ∧
      ∀ size ∈ resource.bind (·.memory), d.get? memoryKey = some (.text size) := by
  unfold withResource at h
  obtain _ | resource := resource
  · obtain rfl := Except.ok.inj h
    exact ⟨.refl _ c, by simp⟩
  rw [Option.bind_some]
  dsimp only at h
  have hsets : Sets [memoryKey, cpuKey] c (c.setIf memoryKey resource.memory) :=
    .setIf _ (by simp)
  have hmemory : ∀ size ∈ resource.memory,
      (c.setIf memoryKey resource.memory).get? memoryKey = some (.text size) := by
    intro size hsize
    rw [Option.mem_def.1 hsize]
    exact c.get?_set_self memoryKey size
  cases hcpu : resource.cpu with
  | none =>
    rw [hcpu] at h
    obtain rfl := Except.ok.inj h
    exact ⟨hsets, hmemory⟩
  | some cpu =>
    rw [hcpu] at h
    obtain ⟨x, -, hx⟩ := Outcome.bind_eq_ok.1 h
    obtain rfl := Except.ok.inj hx
    -- the processors come later, under another name
    refine ⟨hsets.trans_self (.put _ (by simp)), fun size hsize => ?_⟩
    rw [set, Entries.get?_put_of_ne _ _ hne]
    exact hmemory size hsize

/-- The options of the JobManager. -/
def jobManagerKeys : List String :=
  [jobManagerMemoryKey, jobManagerCpuKey, jobManagerPodTemplateKey, jobManagerReplicasKey]

theorem withJobManager_gives (marks : TemplateMarks) (spec : DeploymentSpec) :
    (c.withJobManager marks spec).Gives fun d => Sets jobManagerKeys c d ∧
      ∀ manager ∈ spec.jobManager, ∀ size ∈ manager.resource.bind (·.memory),
        d.get? jobManagerMemoryKey = some (.text size) := by
  unfold withJobManager
  cases spec.jobManager with
  | none => exact .pure ⟨.refl _ c, by simp⟩
  | some manager =>
    refine .bind (.ofOutcome fun d hd => withResource_gives (by decide) hd) fun d hd => ?_
    refine .bind (d.withPodTemplate_gives _ _) fun e he => .bind_any fun above => ?_
    -- neither the template nor the replicas are the memory
    have hsets : Sets jobManagerKeys c e := (hd.1.trans he).mono (by decide)
    have hmemory : ∀ size ∈ manager.resource.bind (·.memory),
        e.get? jobManagerMemoryKey = some (.text size) := by
      intro size hsize
      rw [he _ (by decide)]
      exact hd.2 size hsize
    cases above with
    | false => exact .pure ⟨hsets, by simpa using hmemory⟩
    | true =>
      refine .pure ⟨hsets.trans_self (.put _ (by decide)), ?_⟩
      rintro _ ⟨⟩ size hsize
      rw [set, Entries.get?_put_of_ne _ _ (by decide)]
      exact hmemory size hsize

/-- The options of TaskManagers. -/
def taskManagerKeys : List String :=
  [taskManagerMemoryKey, taskManagerCpuKey, taskManagerPodTemplateKey]

theorem withTaskManager_gives (marks : TemplateMarks) (spec : DeploymentSpec) :
    (c.withTaskManager marks spec).Gives fun d => Sets taskManagerKeys c d ∧
      ∀ manager ∈ spec.taskManager, ∀ size ∈ manager.resource.bind (·.memory),
        d.get? taskManagerMemoryKey = some (.text size) := by
  unfold withTaskManager
  cases spec.taskManager with
  | none => exact .pure ⟨.refl _ c, by simp⟩
  | some manager =>
    refine .bind (.ofOutcome fun d hd => withResource_gives (by decide) hd) fun d hd => ?_
    intro s e t hrun
    have he := d.withPodTemplate_gives _ _ s e t hrun
    refine ⟨(hd.1.trans he).mono (by decide), ?_⟩
    rintro _ ⟨⟩ size hsize
    rw [he _ (by decide)]
    exact hd.2 size hsize

/-- The options of the job. -/
def jobKeys : List String :=
  [deploymentTargetKey, jarsKey, parallelismKey]

theorem withJob_sets {c d : Config} {spec : DeploymentSpec} (h : c.withJob spec = .ok d) :
    Sets jobKeys c d := by
  unfold withJob at h
  cases hjob : spec.job with
  | none =>
    rw [hjob] at h
    obtain rfl := Except.ok.inj h
    exact .put _ (by decide)
  | some job =>
    rw [hjob] at h
    have htarget : Sets jobKeys c (c.set deploymentTargetKey "kubernetes-application") :=
      .put _ (by decide)
    have hjars : Sets jobKeys c ((c.set deploymentTargetKey "kubernetes-application").setIf jarsKey
        (job.jarUri.filter (· ≠ ""))) :=
      htarget.trans_self (.setIf _ (by decide))
    dsimp only at h
    unfold withParallelism at h
    -- the parallelism is set last, and only if it is positive
    cases hp : job.parallelism with
    | none =>
      rw [hp] at h
      obtain rfl := Except.ok.inj h
      exact hjars
    | some p =>
      rw [hp] at h
      obtain ⟨above, -, hlast⟩ := Outcome.bind_eq_ok.1 h
      cases above with
      | false => obtain rfl := Except.ok.inj hlast; exact hjars
      | true => obtain rfl := Except.ok.inj hlast; exact hjars.trans_self (.put _ (by decide))

/-- `withIdentity` sets the options that users may not set. -/
theorem withIdentity_sets (metadata : Metadata) :
    Sets forbiddenKeys c (c.withIdentity metadata) := by
  unfold withIdentity
  have hspace (space : String) : Sets forbiddenKeys c (c.set namespaceKey space) :=
    .put _ (by decide)
  exact (hspace _).trans_self (.put _ (by decide))

/-! ## The whole configuration -/

/-- Every option that a specification sets beside the entries of its user. -/
def managedKeys : List String :=
  fallbackKeys ++ [directoryKey] ++ imageKeys ++ [podTemplateKey] ++ [restServiceTypeKey] ++
    jobManagerKeys ++ taskManagerKeys ++ jobKeys ++ forbiddenKeys

/-- A configuration follows a specification: it has what the specification says where it says
something, and else the user's entries over the defaults. -/
structure Follows (defaults : Config) (metadata : Metadata) (spec : DeploymentSpec) (conf : Config) :
    Prop where
  user : Sets managedKeys (defaults.overlay spec.flinkConfiguration) conf
  jobManagerMemory : ∀ manager ∈ spec.jobManager, ∀ size ∈ manager.resource.bind (·.memory),
    conf.get? jobManagerMemoryKey = some (.text size)
  taskManagerMemory : ∀ manager ∈ spec.taskManager, ∀ size ∈ manager.resource.bind (·.memory),
    conf.get? taskManagerMemoryKey = some (.text size)
  space : conf.get? namespaceKey =
    some (.text ((metadata.namespaceName.filter (· ≠ "")).getD "default"))
  clusterId : conf.get? clusterIdKey = some (Value.ofText? metadata.name)

theorem effective_gives (marks : TemplateMarks) (defaults : Config) (metadata : Metadata)
    (spec : DeploymentSpec) :
    (effective marks defaults metadata spec).Gives (Follows defaults metadata spec) := by
  unfold effective
  refine .bind (withLogging_gives _ spec) fun c₁ h₁ => ?_
  refine .bind (withPodTemplate_gives _ _ _) fun c₂ h₂ => ?_
  refine .bind (withJobManager_gives _ marks spec) fun c₃ h₃ => ?_
  refine .bind (withTaskManager_gives _ marks spec) fun c₄ h₄ => ?_
  refine .bind (.ofOutcome fun c₅ h₅ => withJob_sets h₅) fun c₅ h₅ => .pure ?_
  have hlast := c₅.withIdentity_sets metadata
  have hbefore := (defaults.withUserEntries_sets spec).trans h₁ |>.trans (c₁.withImage_sets spec)
    |>.trans h₂ |>.trans (c₂.withIngress_sets spec)
  constructor
  -- each step sets keys of its own, and what it spares is as before
  case user => exact hbefore.trans h₃.1 |>.trans h₄.1 |>.trans h₅ |>.trans hlast
  case jobManagerMemory =>
    intro manager hmanager size hsize
    rw [hlast _ (by decide), h₅ _ (by decide), h₄.1 _ (by decide)]
    exact h₃.2 manager hmanager size hsize
  case taskManagerMemory =>
    intro manager hmanager size hsize
    rw [hlast _ (by decide), h₅ _ (by decide)]
    exact h₄.2 manager hmanager size hsize
  case space =>
    rw [withIdentity, Entries.get?_put_of_ne _ _ (by decide)]
    exact c₅.get?_set_self _ _
  case clusterId => exact Entries.get?_put_self _ _ _

theorem isHighlyAvailable_of_follows {defaults : Config} {metadata : Metadata}
    {spec : DeploymentSpec} {conf : Config} (h : Follows defaults metadata spec conf) :
    conf.isHighlyAvailable = (defaults.overlay spec.flinkConfiguration).isHighlyAvailable :=
  isHighlyAvailable_congr (h.user _ (by decide))

theorem savepointDirectory_of_follows {defaults : Config} {metadata : Metadata}
    {spec : DeploymentSpec} {conf : Config} (h : Follows defaults metadata spec conf) :
    conf.savepointDirectory = (defaults.overlay spec.flinkConfiguration).savepointDirectory := by
  rw [savepointDirectory, savepointDirectory, value_congr (h.user savepointDirectoryKey (by decide))]

end Config

/-! ## What acceptance says -/

/-- What `strip` leaves of a text is not blank, if anything is left. -/
theorem Text.isBlankText_strip {s : String} (h : strip s ≠ "") : isBlankText (strip s) = false := by
  rw [isBlankText, toList_strip, stripChars, stripEnd, List.all_reverse]
  have hne : (stripStart s.toList).reverse.dropWhile isBlank ≠ [] := by
    intro hnil
    exact h (by rw [strip, stripChars, stripEnd, hnil]; rfl)
  -- what is left ends in a character that is no blank
  rw [List.all_eq_false]
  exact ⟨_, List.head_mem hne, by simp [List.head_dropWhile_not isBlank hne]⟩

/-- A `savepointDirectory` has a name. -/
theorem Config.isBlankText_of_savepointDirectory {c : Config} {directory : String}
    (h : c.savepointDirectory = .ok (some directory)) : isBlankText directory = false := by
  unfold savepointDirectory at h
  cases hv : c.value savepointDirectoryKey with
  | text s =>
    simp only [hv, stripped, Except.map, Except.ok.injEq] at h
    split at h
    · cases h
    · rename_i hne
      obtain rfl := Option.some.inj h
      exact isBlankText_strip hne
  | _ => simp [hv, stripped, Except.map] at h

namespace Validation

variable {defaults : Config} {d : Deployment}

/-- Savepoints of a job that `validateDeployment` accepts have a `savepointDirectory` if the job is
upgraded from them. -/
theorem savepointDirectory_of_accepted (h : validateDeployment defaults d = .ok none) :
    ∀ job ∈ d.spec.job, job.upgradeMode = .savepoint → ∃ directory,
      (defaults.overlay d.spec.flinkConfiguration).savepointDirectory = .ok (some directory) := by
  intro job hjob hmode
  have hsavepoints : checkSavepoints job (defaults.overlay d.spec.flinkConfiguration) = .ok none :=
    (firstViolation_eq_accept_iff _).1 (checkJob_of_accepted h job hjob) _ (by simp)
  obtain ⟨directory, hdirectory, hrest⟩ := Outcome.bind_eq_ok.1 hsavepoints
  cases directory with
  | none =>
    rw [if_pos ⟨hmode, rfl⟩] at hrest
    exact nomatch hrest
  | some directory => exact ⟨directory, hdirectory⟩

/-- `validateDeployment` accepts more than one JobManager only where `isHighlyAvailable` holds. -/
theorem standby_of_accepted (h : validateDeployment defaults d = .ok none) :
    ∀ manager ∈ d.spec.jobManager, isAbove manager.replicas 1 = .ok true →
      (defaults.overlay d.spec.flinkConfiguration).isHighlyAvailable = .ok true := by
  intro manager hmanager habove
  have hreplicas : checkReplicas manager (defaults.overlay d.spec.flinkConfiguration) = .ok none :=
    (firstViolation_eq_accept_iff _).1 (checkJobManager_of_accepted h manager hmanager) _ (by simp)
  obtain ⟨below, -, hrest⟩ := Outcome.bind_eq_ok.1 hreplicas
  cases below with
  | true => exact nomatch hrest
  | false =>
    obtain ⟨above, habove', hrest⟩ := Outcome.bind_eq_ok.1 hrest
    obtain rfl := Except.ok.inj (habove.symm.trans habove')
    exact available_of_accepted hrest

/-- `checkResource` accepts what is said about a process only if it has a memory that `Memory.read`
reads. -/
theorem memory_of_checkResource {component : String} {resource : ResourceSpec}
    (h : checkResource component (some resource) = .ok none) :
    ∃ size ∈ resource.memory, ∃ bytes, Memory.read size = .ok bytes := by
  unfold checkResource at h
  dsimp only at h
  cases hmemory : resource.memory with
  | none => rw [hmemory] at h; exact nomatch h
  | some size =>
    refine ⟨size, rfl, ?_⟩
    rw [hmemory] at h
    cases hread : Memory.read size with
    | error fault => simp [hread] at h
    | ok bytes => exact ⟨bytes, rfl⟩

theorem jobManagerMemory_of_accepted (h : validateDeployment defaults d = .ok none) :
    ∀ manager ∈ d.spec.jobManager, ∀ resource ∈ manager.resource,
      ∃ size ∈ resource.memory, ∃ bytes, Memory.read size = .ok bytes := by
  intro manager hmanager resource hresource
  have hcheck : checkResource "JobManager" manager.resource = .ok none :=
    (firstViolation_eq_accept_iff _).1 (checkJobManager_of_accepted h manager hmanager) _ (by simp)
  rw [hresource] at hcheck
  exact memory_of_checkResource hcheck

theorem taskManagerMemory_of_accepted (h : validateDeployment defaults d = .ok none) :
    ∀ manager ∈ d.spec.taskManager, ∀ resource ∈ manager.resource,
      ∃ size ∈ resource.memory, ∃ bytes, Memory.read size = .ok bytes := by
  intro manager hmanager resource hresource
  have hcheck : checkIfSet d.spec.taskManager checkTaskManager = .ok none :=
    (firstViolation_eq_accept_iff _).1 h _ (by simp)
  rw [hmanager] at hcheck
  change checkResource "TaskManager" manager.resource = .ok none at hcheck
  rw [hresource] at hcheck
  exact memory_of_checkResource hcheck

end Validation

/-! ## What an accepted cluster runs with -/

/-- A configuration has what the rules of `validateDeployment` ask of a cluster. -/
structure Config.Honours (conf defaults : Config) (d : Deployment) : Prop where
  /-- Availability is that of the user's entries over the defaults. -/
  availability :
    conf.isHighlyAvailable = (defaults.overlay d.spec.flinkConfiguration).isHighlyAvailable
  /-- So is the place of savepoints. -/
  directory :
    conf.savepointDirectory = (defaults.overlay d.spec.flinkConfiguration).savepointDirectory
  /-- Kubernetes keeps what an upgrade from the last state and a standby JobManager rely on. -/
  available : (∃ job ∈ d.spec.job, job.upgradeMode = .lastState) ∨
    (∃ manager ∈ d.spec.jobManager, isAbove manager.replicas 1 = .ok true) →
      conf.isHighlyAvailable = .ok true
  /-- A job that is upgraded from savepoints is stopped with one, at a place that has a name. -/
  savepoint : ∀ job ∈ d.spec.job, job.upgradeMode = .savepoint →
    ∃ directory, isBlankText directory = false ∧
      ∀ {σ : Type} (o : Operator σ) (id : Value), o.stopJob id job.upgradeMode conf =
        Client.use (o.connect conf) fun c => c.stopWithSavepoint id false (some directory)
  /-- The memory of the JobManager can be read, if anything is said about its resource. -/
  jobManagerMemory : ∀ manager ∈ d.spec.jobManager, manager.resource.isSome → ∃ size bytes,
    conf.get? jobManagerMemoryKey = some (.text size) ∧ Memory.read size = .ok bytes
  /-- So can that of TaskManagers. -/
  taskManagerMemory : ∀ manager ∈ d.spec.taskManager, manager.resource.isSome → ∃ size bytes,
    conf.get? taskManagerMemoryKey = some (.text size) ∧ Memory.read size = .ok bytes
  /-- The namespace is that of the metadata, or `"default"` where they have none. -/
  space : conf.get? namespaceKey =
    some (.text ((d.metadata.namespaceName.filter (· ≠ "")).getD "default"))
  /-- So is the id of the cluster. -/
  clusterId : conf.get? clusterIdKey = some (Value.ofText? d.metadata.name)

open Validation in
/-- If `validateDeployment` accepts a cluster and it has a configuration at all
(`Config.effective_ends`), then the configuration `Honours` the rules that the cluster was accepted
by. -/
theorem accepted_is_honoured {marks : Config.TemplateMarks} {defaults conf : Config} {d : Deployment}
    {files after : Files} (haccept : validateDeployment defaults d = .ok none)
    (hconf : (Config.effective marks defaults d.metadata d.spec).runOn files = (.ok conf, after)) :
    conf.Honours defaults d := by
  have hfollows := Config.effective_gives marks defaults d.metadata d.spec files conf after hconf
  have havailability := Config.isHighlyAvailable_of_follows hfollows
  have hdirectory := Config.savepointDirectory_of_follows hfollows
  constructor
  case availability => exact havailability
  case directory => exact hdirectory
  case available =>
    -- the rules read the defaults and the options of the user, as the two facts above do
    rw [havailability]
    rintro (⟨job, hjob, hmode⟩ | ⟨manager, hmanager, habove⟩)
    · exact recoverable_of_accepted haccept job hjob hmode
    · exact standby_of_accepted haccept manager hmanager habove
  case savepoint =>
    intro job hjob hmode
    obtain ⟨directory, hsome⟩ := savepointDirectory_of_accepted haccept job hjob hmode
    refine ⟨directory, Config.isBlankText_of_savepointDirectory hsome, fun o id => ?_⟩
    -- a stop reads the directory once more, from the configuration that runs
    rw [← hdirectory] at hsome
    rw [hmode, Operator.stopJob, hsome]
    rfl
  case jobManagerMemory =>
    intro manager hmanager hset
    obtain ⟨resource, hresource⟩ := Option.isSome_iff_exists.1 hset
    obtain ⟨size, hsize, bytes, hread⟩ :=
      jobManagerMemory_of_accepted haccept manager hmanager resource hresource
    have hsays : size ∈ manager.resource.bind (·.memory) := Option.mem_bind_iff.2 ⟨_, hresource, hsize⟩
    exact ⟨size, bytes, hfollows.jobManagerMemory manager hmanager size hsays, hread⟩
  case taskManagerMemory =>
    intro manager hmanager hset
    obtain ⟨resource, hresource⟩ := Option.isSome_iff_exists.1 hset
    obtain ⟨size, hsize, bytes, hread⟩ :=
      taskManagerMemory_of_accepted haccept manager hmanager resource hresource
    have hsays : size ∈ manager.resource.bind (·.memory) := Option.mem_bind_iff.2 ⟨_, hresource, hsize⟩
    exact ⟨size, bytes, hfollows.taskManagerMemory manager hmanager size hsays, hread⟩
  case space => exact hfollows.space
  case clusterId => exact hfollows.clusterId

/-- Defaults that give the JobManager a memory which nobody can read. -/
def unreadableDefaults : Config :=
  [("jobmanager.memory.process.size", .text "much")]

/-- A cluster with a standby JobManager, whose job is upgraded from savepoints. -/
def standbyDeployment : Deployment where
  metadata := { name := some "basic", namespaceName := some "" }
  spec := {
    flinkVersion := some .v1_15
    flinkConfiguration := [
      ("high-availability", some " KUBERNETES"), ("state.savepoints.dir", some " s3://savepoints ")]
    jobManager := some { resource := some { memory := some "1 GB" }, replicas := .int 2 }
    taskManager := some { resource := some { memory := some "2048m" } }
    job := some { jarUri := some "local:///job.jar", upgradeMode := .savepoint } }

open Validation in
theorem standbyDeployment_is_honoured :
    validateDeployment unreadableDefaults standbyDeployment = .ok none ∧
      ∃ conf : Config, (Config.effective {} unreadableDefaults standbyDeployment.metadata
          standbyDeployment.spec).runOn { root := "/tmp" } = (.ok conf, { root := "/tmp" }) ∧
        conf.Honours unreadableDefaults standbyDeployment := by
  have haccept : validateDeployment unreadableDefaults standbyDeployment = .ok none := by
    decide +kernel
  obtain ⟨conf, hconf⟩ : ∃ conf : Config,
      (Config.effective {} unreadableDefaults standbyDeployment.metadata
        standbyDeployment.spec).runOn { root := "/tmp" } = (.ok conf, { root := "/tmp" }) :=
    ⟨_, rfl⟩
  exact ⟨haccept, conf, hconf, accepted_is_honoured haccept hconf⟩

/-- A cluster whose specification has a JobManager, of whose resource it says nothing. -/
def unspokenDeployment : Deployment where
  metadata.name := some "basic"
  spec := { flinkVersion := some .v1_15, jobManager := some { resource := none } }

open Validation in
/-- `validateDeployment` accepts it, and it runs without a memory for its JobManager, in a namespace
that is not of its metadata. -/
theorem unspokenDeployment_has_no_memory :
    validateDeployment [] unspokenDeployment = .ok none ∧
      unspokenDeployment.spec.jobManager.isSome ∧
      unspokenDeployment.metadata.namespaceName = none ∧
      ∃ conf : Config, (Config.effective {} [] unspokenDeployment.metadata
          unspokenDeployment.spec).runOn { root := "/tmp" } = (.ok conf, { root := "/tmp" }) ∧
        conf.get? Config.jobManagerMemoryKey = none ∧
        conf.get? Config.namespaceKey = some (.text "default") :=
  ⟨by decide +kernel, rfl, rfl, _, rfl, rfl, rfl⟩

end FlinkSteward
