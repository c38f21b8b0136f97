import FlinkSteward.Config.Effective
import FlinkSteward.Proofs.Action
import FlinkSteward.Proofs.Validation.Availability
import FlinkSteward.Proofs.Value.Object
import FlinkSteward.Proofs.Value.Overlay

/-!
# Configurations do not depend on order

A specification that went through its text has its maps in the order of their keys. The configuration that
comes of it is the same map, with the same generated files: templates and logging configurations are
sorted before they are written and named, and options are looked up by their names.

## Key results

- `Outcome.Agree`, `Action.Agrees`: outcomes and actions that differ in their results at most
- `Config.SameOptions`: configurations that are the same map
- `Config.complete`: what follows the user's entries, with `complete_agrees` and `complete_sorted`
- `Config.effective_sorted_agrees`: the configuration of a specification that was sorted
-/

namespace FlinkSteward

open Json

/-! ## Actions that agree -/

/-- Two outcomes that fail alike, or succeed with results that stand in `E`. -/
inductive Outcome.Agree {α β : Type} (E : α → β → Prop) : Outcome α → Outcome β → Prop where
  | ok {x : α} {y : β} (h : E x y) : Agree E (.ok x) (.ok y)
  | error (f : Failure) : Agree E (.error f) (.error f)

/-- Two actions that leave the same behind, and whose outcomes `Agree`. -/
def Action.Agrees {σ α β : Type} (E : α → β → Prop) (a : Action σ α) (b : Action σ β) : Prop :=
  ∀ s, Outcome.Agree E (a.runOn s).1 (b.runOn s).1 ∧ (a.runOn s).2 = (b.runOn s).2

namespace Action.Agrees

variable {σ α β γ δ : Type} {E : α → β → Prop} {F : γ → δ → Prop}

theorem pure {x : α} {y : β} (h : E x y) : Agrees (σ := σ) E (Pure.pure x) (Pure.pure y) :=
  fun _ => ⟨.ok h, rfl⟩

theorem ofOutcome {r : Outcome α} {s : Outcome β} (h : Outcome.Agree E r s) :
    Agrees (σ := σ) E (.ofOutcome r) (.ofOutcome s) :=
  fun _ => ⟨h, rfl⟩

theorem bind {a : Action σ α} {b : Action σ β} {f : α → Action σ γ} {g : β → Action σ δ}
    (h : a.Agrees E b) (hrest : ∀ {x y}, E x y → (f x).Agrees F (g y)) :
    (a >>= f).Agrees F (b >>= g) := by
  intro s
  obtain ⟨hout, hleft⟩ := h s
  rw [runOn_bind, runOn_bind]
  rcases ha : a.runOn s with ⟨_ | x, t⟩ <;> rcases hb : b.runOn s with ⟨_ | y, u⟩ <;>
    rw [ha, hb] at hout hleft <;> cases hout <;> obtain rfl : t = u := hleft
  · exact ⟨.error _, rfl⟩
  · exact hrest ‹_› t

/-- `a >>= f` and `a >>= g` agree when `f` and `g` do for every result of `a`. -/
theorem bind_same {a : Action σ α} {f : α → Action σ γ} {g : α → Action σ δ}
    (hrest : ∀ x, (f x).Agrees F (g x)) : (a >>= f).Agrees F (a >>= g) := by
  refine bind (E := Eq) (fun s => ⟨?_, rfl⟩) fun h => h ▸ hrest _
  rcases (a.runOn s).1 with f | x
  · exact .error f
  · exact .ok rfl

/-- A function of the result of one of two actions that agree. -/
theorem map_left {a : Action σ α} {b : Action σ β} {F : γ → β → Prop} {f : α → γ} (h : a.Agrees E b)
    (hf : ∀ {x y}, E x y → F (f x) y) : (do return f (← a) : Action σ γ).Agrees F b := by
  intro s
  obtain ⟨hout, hleft⟩ := h s
  rw [runOn_bind]
  rcases ha : a.runOn s with ⟨_ | x, t⟩ <;> rcases hb : b.runOn s with ⟨_ | y, u⟩ <;>
    rw [ha, hb] at hout hleft <;> cases hout <;> obtain rfl : t = u := hleft
  · exact ⟨.error _, rfl⟩
  · exact ⟨.ok (hf ‹_›), rfl⟩

/-- Two actions that agree with a third one agree. -/
theorem of_common {F : α → γ → Prop} {G : β → γ → Prop} {a : Action σ α} {b : Action σ β}
    {c : Action σ γ} (hb : a.Agrees E b) (hc : a.Agrees F c)
    (h : ∀ {x y z}, E x y → F x z → G y z) : b.Agrees G c := by
  intro s
  obtain ⟨houtb, hleftb⟩ := hb s
  obtain ⟨houtc, hleftc⟩ := hc s
  refine ⟨?_, hleftb.symm.trans hleftc⟩
  revert houtb houtc
  generalize (a.runOn s).1 = r, (b.runOn s).1 = t, (c.runOn s).1 = u
  intro houtb houtc
  cases houtb with
  | ok hE =>
    cases houtc with
    | ok hF => exact .ok (h hE hF)
  | error f =>
    cases houtc
    exact .error f

end Action.Agrees

/-! ## Configurations that are the same map -/

namespace Config

/-- Two configurations that agree under `get?`. -/
def SameOptions (c d : Config) : Prop :=
  ∀ key, c.get? key = d.get? key

namespace SameOptions

variable {c d : Config} (h : SameOptions c d)

include h

theorem put (key : String) (value : Value) : SameOptions (c.put key value) (d.put key value) := by
  intro other
  rw [Entries.get?_put, Entries.get?_put, h other]

theorem set (key text : String) : SameOptions (c.set key text) (d.set key text) :=
  h.put key _

theorem setIf (key : String) (text : Option String) :
    SameOptions (c.setIf key text) (d.setIf key text) := by
  cases text with
  | none => exact h
  | some s => exact h.set key s

theorem setNew (key text : String) : SameOptions (c.setNew key text) (d.setNew key text) := by
  rw [Config.setNew, Config.setNew, Entries.putNew, Entries.putNew, Entries.has, Entries.has, h key]
  split
  · exact h
  · exact h.put key _

theorem withImage (spec : DeploymentSpec) : SameOptions (c.withImage spec) (d.withImage spec) :=
  ((h.setIf imageKey _).setIf imagePullPolicyKey _).setIf serviceAccountKey _

theorem withIngress (spec : DeploymentSpec) :
    SameOptions (c.withIngress spec) (d.withIngress spec) := by
  unfold Config.withIngress
  split
  · exact h.set _ _
  · exact h

theorem withIdentity (metadata : Metadata) :
    SameOptions (c.withIdentity metadata) (d.withIdentity metadata) :=
  (h.set namespaceKey _).put clusterIdKey _

theorem withResource (resource : Option ResourceSpec) (memoryKey cpuKey : String) :
    Outcome.Agree SameOptions (c.withResource resource memoryKey cpuKey)
      (d.withResource resource memoryKey cpuKey) := by
  unfold Config.withResource
  cases resource with
  | none => exact .ok h
  | some resource =>
    dsimp only
    cases resource.cpu with
    | none => exact .ok (h.setIf _ _)
    | some cpu =>
      dsimp only
      rcases cpu.toDouble with f | x
      · exact .error f
      · exact .ok ((h.setIf _ _).set _ _)

theorem withParallelism (job : JobSpec) :
    Outcome.Agree SameOptions (c.withParallelism job) (d.withParallelism job) := by
  unfold Config.withParallelism
  cases job.parallelism with
  | none => exact .ok h
  | some p =>
    dsimp only
    rcases isAbove p 0 with f | _ | _
    · exact .error f
    · exact .ok h
    · exact .ok (h.set _ _)

theorem withJob (spec : DeploymentSpec) :
    Outcome.Agree SameOptions (c.withJob spec) (d.withJob spec) := by
  unfold Config.withJob
  cases spec.job with
  | none => exact .ok (h.set _ _)
  | some job => exact ((h.set _ _).setIf _ _).withParallelism job

theorem withLogging (spec : DeploymentSpec) :
    (c.withLogging spec).Agrees SameOptions (d.withLogging spec) := by
  unfold Config.withLogging
  cases spec.logConfiguration with
  | none => exact .pure h
  | some entries => exact .bind_same fun _ => .pure (h.set _ _)

theorem withPodTemplate (key : String) (template : Option Object) :
    (c.withPodTemplate key template).Agrees SameOptions (d.withPodTemplate key template) := by
  cases template with
  | none => exact .pure h
  | some t => exact .bind_same fun _ => .pure (h.set _ _)

theorem withJobManager (marks : TemplateMarks) (spec : DeploymentSpec) :
    (c.withJobManager marks spec).Agrees SameOptions (d.withJobManager marks spec) := by
  unfold Config.withJobManager
  cases spec.jobManager with
  | none => exact .pure h
  | some manager =>
    refine .bind (.ofOutcome (h.withResource _ _ _)) fun h => .bind (h.withPodTemplate _ _) fun h =>
      .bind_same fun above => ?_
    cases above with
    | false => exact .pure h
    | true => exact .pure (h.set _ _)

theorem withTaskManager (marks : TemplateMarks) (spec : DeploymentSpec) :
    (c.withTaskManager marks spec).Agrees SameOptions (d.withTaskManager marks spec) := by
  unfold Config.withTaskManager
  cases spec.taskManager with
  | none => exact .pure h
  | some manager =>
    exact .bind (.ofOutcome (h.withResource _ _ _)) fun h => h.withPodTemplate _ _

end SameOptions

/-- All that follows the user's entries. -/
def complete (c : Config) (marks : TemplateMarks) (metadata : Metadata) (spec : DeploymentSpec) :
    Action Files Config := do
  let c ← c.withLogging spec
  let c := c.withImage spec
  let c ← c.withPodTemplate podTemplateKey (templateObject marks.common spec.podTemplate)
  let c := c.withIngress spec
  let c ← c.withJobManager marks spec
  let c ← c.withTaskManager marks spec
  let c ← .ofOutcome (c.withJob spec)
  return c.withIdentity metadata

theorem effective_eq_complete (marks : TemplateMarks) (defaults : Config) (metadata : Metadata)
    (spec : DeploymentSpec) : effective marks defaults metadata spec =
      (withUserEntries defaults spec).complete marks metadata spec :=
  rfl

/-- `Config.complete` agrees on `SameOptions`. -/
theorem complete_agrees {c d : Config} (h : SameOptions c d) (marks : TemplateMarks)
    (metadata : Metadata) (spec : DeploymentSpec) :
    (c.complete marks metadata spec).Agrees SameOptions (d.complete marks metadata spec) :=
  .bind (h.withLogging spec) fun h => .bind ((h.withImage spec).withPodTemplate _ _) fun h =>
    .bind ((h.withIngress spec).withJobManager marks spec) fun h =>
      .bind (h.withTaskManager marks spec) fun h =>
        .bind (.ofOutcome (h.withJob spec)) fun h => .pure (h.withIdentity metadata)

end Config

/-! ## Values that were sorted -/

namespace Value

theorem number?_sorted (v : Value) : (sorted v).number? = v.number? := by
  cases v <;> simp [sorted, number?]

theorem kind_sorted (v : Value) : (sorted v).kind = v.kind := by
  cases v <;> simp [sorted, kind]

theorem sorted_of_number? {v : Value} {n : Number} (h : v.number? = some n) : sorted v = v := by
  cases v <;> simp_all [sorted, number?]

/-- A `sorted` value `isTruthy` when it was so before. -/
theorem isTruthy_sorted (v : Value) : (sorted v).isTruthy = v.isTruthy := by
  cases v with
  | list items => simp [sorted_list, isTruthy]
  | map fields =>
    have hempty : (Entries.sorted (Entries.mapValues sorted fields)).isEmpty = fields.isEmpty := by
      rw [(Entries.sorted_perm _).isEmpty_eq, Entries.mapValues, List.isEmpty_map]
    simp only [sorted_map, isTruthy, hempty]
  | _ => simp only [sorted]

theorem toDouble_sorted (v : Value) : (sorted v).toDouble = v.toDouble := by
  cases v with
  | list items => simp only [sorted, toDouble, number?, kind]
  | map fields => simp only [sorted, toDouble, number?, kind]
  | _ => simp only [sorted]

end Value

theorem isAbove_sorted (v : Value) (n : Int) : isAbove (sorted v) n = isAbove v n := by
  simp only [isAbove, orderedBy, v.number?_sorted, v.kind_sorted]

theorem isAtMost_sorted (v : Value) (n : Int) : isAtMost (sorted v) n = isAtMost v n := by
  simp only [isAtMost, orderedBy, v.number?_sorted, v.kind_sorted]

theorem isBelow_sorted (v : Value) (n : Int) : isBelow (sorted v) n = isBelow v n := by
  simp only [isBelow, orderedBy, v.number?_sorted, v.kind_sorted]

/-- `isAbove` compares only numbers, and they have no order of entries. -/
theorem sorted_of_isAbove {v : Value} {n : Int} {above : Bool} (h : isAbove v n = .ok above) :
    sorted v = v := by
  rw [isAbove, orderedBy] at h
  split at h
  · exact Value.sorted_of_number? ‹_›
  · exact nomatch h

/-- `Yaml.write` depends on the value of an object, but for the order of entries, and on which places
of it hold one object (`isOne`). -/
theorem Yaml.write_eq {o p : Object} (h : sorted o.value = sorted p.value) (hone : o.isOne = p.isOne) :
    write o = write p := by
  rw [write, write, h, hone]

theorem Yaml.write_sorted (o : Object) : write o.sorted = write o :=
  write_eq (sorted_sorted o.value) o.isOne_sorted

namespace Files

/-- `writePodTemplate` depends on the document of a template only, which names it. -/
theorem writePodTemplate_congr {o p : Object} (h : Yaml.write o = Yaml.write p) :
    writePodTemplate o = writePodTemplate p := by
  rw [writePodTemplate, writePodTemplate, podTemplateName, podTemplateName, h]

theorem loggingName_sorted (entries : Entries Value) :
    loggingName entries.sorted = loggingName entries := by
  rw [loggingName, loggingName, Entries.sorted_sorted]

theorem writeLogging_sorted (entries : Entries Value) :
    writeLogging entries.sorted = writeLogging entries := by
  have hfile : writeLogFile entries.sorted = writeLogFile entries := by
    funext file
    simp only [writeLogFile, Entries.get?_sorted, loggingName_sorted]
  rw [writeLogging, writeLogging, hfile, loggingName_sorted]

end Files

/-! ## Specifications that were sorted -/

namespace Config

variable (c : Config) {s : DeploymentSpec}

theorem withPodTemplate_congr (key : String) {t u : Option Object}
    (h : t.map Yaml.write = u.map Yaml.write) : c.withPodTemplate key t = c.withPodTemplate key u := by
  cases t with
  | none =>
    obtain rfl : u = none := Option.map_eq_none_iff.1 h.symm
    rfl
  | some v =>
    obtain ⟨w, rfl, hsame⟩ := Option.map_eq_some_iff.1 h.symm
    rw [withPodTemplate, withPodTemplate, Files.writePodTemplate_congr hsame.symm]

theorem withPodTemplate_eq_of_sorted_eq (key : String) {t u : Option Object}
    (h : t.map Object.sorted = u.map Object.sorted) :
    c.withPodTemplate key t = c.withPodTemplate key u := by
  refine c.withPodTemplate_congr key ?_
  have hwrite := congrArg (Option.map Yaml.write) h
  rwa [Option.map_map, Option.map_map,
    show Yaml.write ∘ Object.sorted = Yaml.write from funext Yaml.write_sorted] at hwrite

/-- The `templateObject` of a field of a specification that was sorted. -/
private theorem templateObject_fields (marks : Marks) (t : Option (Entries Value)) :
    templateObject marks (t.map Layout.sorted.fields) = (templateObject marks t).map Object.sorted := by
  cases t with
  | none => rfl
  | some fields => exact congrArg (fun v => some (Object.mk v marks)) (Layout.value_map .sorted fields).symm

theorem withLogging_sorted (s : DeploymentSpec) : c.withLogging s.sorted = c.withLogging s := by
  rcases hlog : s.logConfiguration with _ | entries
  · simp [withLogging, DeploymentSpec.sorted, DeploymentSpec.arrange, hlog]
  · have htexts : ofTexts entries.sorted = (ofTexts entries).sorted :=
      Entries.mapValues_sorted _ entries
    simp [withLogging, DeploymentSpec.sorted, DeploymentSpec.arrange, hlog, Layout.entries, htexts,
      Files.writeLogging_sorted]

/-- `withResource` does the same with a resource of which nothing is said and with the default one. -/
theorem withResource_getD (resource : Option ResourceSpec) (memoryKey cpuKey : String) :
    c.withResource (some (resource.getD {})) memoryKey cpuKey =
      c.withResource resource memoryKey cpuKey := by
  cases resource <;> rfl

theorem withResource_sorted (resource : Option ResourceSpec) (memoryKey cpuKey : String) :
    c.withResource (some ((resource.getD {}).arrange .sorted)) memoryKey cpuKey =
      c.withResource resource memoryKey cpuKey := by
  rw [← c.withResource_getD resource]
  generalize resource.getD {} = resource
  rcases hcpu : resource.cpu with _ | cpu <;>
    simp [withResource, ResourceSpec.arrange, hcpu, Layout.value, Value.toDouble_sorted]

theorem withProcessTemplate_sorted (hs : s.Valid) (key : String) (marks : TemplateMarks)
    (ownMarks : Marks) {own : Option (Entries Value)} (hown : ∀ t ∈ own, Content.entries.Valid t) :
    c.withPodTemplate key (processTemplate marks s.sorted ownMarks (own.map Layout.sorted.fields)) =
      c.withPodTemplate key (processTemplate marks s ownMarks own) := by
  have hsound : ∀ {marks : Marks} {t : Option (Entries Value)}, (∀ m ∈ t, Content.entries.Valid m) →
      ∀ o ∈ templateObject marks t, o.value.Sound := by
    rintro marks t ht _ hv
    obtain ⟨m, hm, rfl⟩ := Option.map_eq_some_iff.1 hv
    exact ht m hm
  refine c.withPodTemplate_eq_of_sorted_eq key ?_
  rw [processTemplate, processTemplate,
    show s.sorted.podTemplate = s.podTemplate.map Layout.sorted.fields from rfl, templateObject_fields,
    templateObject_fields]
  exact Object.overlay?_sorted (hsound hs.podTemplate) (hsound hown)

theorem withJobManager_sorted (hs : s.Valid) (marks : TemplateMarks) :
    c.withJobManager marks s.sorted = c.withJobManager marks s := by
  unfold withJobManager
  rw [show s.sorted.jobManager = s.jobManager.map (JobManagerSpec.arrange .sorted) from rfl]
  cases hmanager : s.jobManager with
  | none => rfl
  | some manager =>
    have hvalid := hs.jobManager manager hmanager
    simp only [Option.map_some, JobManagerSpec.arrange, withResource_sorted, Layout.value,
      withProcessTemplate_sorted _ hs _ _ _ hvalid.podTemplate, isAbove_sorted]
    -- replicas are written only if they are numbers, which are the same when they are sorted
    cases habove : isAbove manager.replicas 0 with
    | error f => rfl
    | ok above => rw [sorted_of_isAbove habove]

theorem withTaskManager_sorted (hs : s.Valid) (marks : TemplateMarks) :
    c.withTaskManager marks s.sorted = c.withTaskManager marks s := by
  unfold withTaskManager
  rw [show s.sorted.taskManager = s.taskManager.map (TaskManagerSpec.arrange .sorted) from rfl]
  cases hmanager : s.taskManager with
  | none => rfl
  | some manager =>
    simp only [Option.map_some, TaskManagerSpec.arrange, withResource_sorted,
      withProcessTemplate_sorted _ hs _ _ _ (hs.taskManager manager hmanager).podTemplate]

theorem withJob_sorted (s : DeploymentSpec) : c.withJob s.sorted = c.withJob s := by
  unfold withJob
  rw [show s.sorted.job = s.job.map (JobSpec.arrange .sorted) from rfl]
  cases s.job with
  | none => rfl
  | some job =>
    simp only [Option.map_some, JobSpec.arrange, withParallelism]
    cases job.parallelism with
    | none => rfl
    | some p =>
      simp only [Option.map_some, Layout.value, isAbove_sorted]
      cases habove : isAbove p 0 with
      | error f => rfl
      | ok above => rw [sorted_of_isAbove habove]

theorem complete_sorted (hs : s.Valid) (marks : TemplateMarks) (metadata : Metadata) :
    c.complete marks metadata s.sorted = c.complete marks metadata s := by
  have htemplate : ∀ c : Config,
      c.withPodTemplate podTemplateKey (templateObject marks.common s.sorted.podTemplate) =
        c.withPodTemplate podTemplateKey (templateObject marks.common s.podTemplate) := fun c =>
    c.withPodTemplate_eq_of_sorted_eq _ (by
      rw [show s.sorted.podTemplate = s.podTemplate.map Layout.sorted.fields from rfl,
        templateObject_fields, Option.map_map,
        show Object.sorted ∘ Object.sorted = Object.sorted from funext Object.sorted_sorted])
  have hingress : ∀ c : Config, c.withIngress s.sorted = c.withIngress s := fun c => by
    rw [withIngress, withIngress,
      show s.sorted.ingress = s.ingress.map (IngressSpec.arrange .sorted) from rfl,
      Option.isSome_map]
  have himage : ∀ c : Config, c.withImage s.sorted = c.withImage s := fun _ => rfl
  simp only [complete, withLogging_sorted, himage, htemplate, hingress, withJobManager_sorted _ hs marks,
    withTaskManager_sorted _ hs marks, withJob_sorted]

/-- `withUserEntries` puts the user's entries in another order. -/
theorem withUserEntries_sorted (hs : s.Valid) :
    SameOptions (c.withUserEntries s.sorted) (c.withUserEntries s) := by
  have hentries : SameOptions (c.overlay s.sorted.flinkConfiguration)
      (c.overlay s.flinkConfiguration) := c.get?_overlay_sorted hs.flinkConfiguration
  unfold withUserEntries
  rw [show s.sorted.job = s.job.map (JobSpec.arrange .sorted) from rfl]
  cases s.job with
  | none => exact hentries.setNew _ _
  | some job =>
    simp only [Option.map_some, JobSpec.arrange]
    split
    · exact ((hentries.setNew _ _).setNew _ _).setNew _ _
    · exact (hentries.setNew _ _).setNew _ _

/-- `Config.effective` makes the same configuration and the same files of a specification that was
sorted, or fails alike. -/
theorem effective_sorted_agrees (marks : TemplateMarks) (defaults : Config) (metadata : Metadata)
    (hs : s.Valid) : (effective marks defaults metadata s.sorted).Agrees SameOptions
      (effective marks defaults metadata s) := by
  rw [effective_eq_complete, effective_eq_complete, complete_sorted _ hs]
  exact complete_agrees (withUserEntries_sorted defaults hs) marks metadata s

end Config

end FlinkSteward
