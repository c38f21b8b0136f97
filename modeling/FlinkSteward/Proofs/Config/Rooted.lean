import FlinkSteward.Proofs.Action
import FlinkSteward.Config.Effective

/-!
# Configurations name files that may not be there yet

A configuration holds the paths of the files that it needs, and making it writes them. What is in the
directory of generated files beforehand does not matter: the files are named for their contents.

## Key results

- `Files.Rooted`: an action that depends on the path of the directory only
- `Config.deployed_rooted`: the configuration that was last deployed is such an action's result
-/

namespace FlinkSteward

namespace Files

variable {α β : Type}

/-- What an action gives depends on the directory of generated files by its `root` only, which the
action leaves. -/
def Rooted (a : Action Files α) : Prop :=
  ∀ files other : Files, files.root = other.root →
    (a.runOn files).1 = (a.runOn other).1 ∧ (a.runOn files).2.root = files.root

namespace Rooted

theorem pure (x : α) : Rooted (Pure.pure x) :=
  fun _ _ _ => ⟨rfl, rfl⟩

theorem ofOutcome (r : Outcome α) : Rooted (.ofOutcome r) :=
  fun _ _ _ => ⟨rfl, rfl⟩

theorem bind {a : Action Files α} {f : α → Action Files β} (ha : Rooted a) (hf : ∀ x, Rooted (f x)) :
    Rooted (a >>= f) := by
  intro files other hroot
  obtain ⟨hsame, hleft⟩ := ha files other hroot
  have hright := (ha other files hroot.symm).2
  rw [Action.runOn_bind, Action.runOn_bind]
  rcases hrun : a.runOn files with ⟨_ | x, t⟩ <;> rcases hrun' : a.runOn other with ⟨_ | y, u⟩ <;>
    rw [hrun, hrun'] at hsame <;> cases hsame <;> rw [hrun] at hleft <;> rw [hrun'] at hright
  · exact ⟨rfl, hleft⟩
  · -- the rest starts from directories of one path again
    have hrest : t.root = u.root := hleft.trans (hroot.trans hright.symm)
    exact ⟨(hf x t u hrest).1, (hf x t u hrest).2.trans hleft⟩

end Rooted

theorem writePodTemplate_rooted (template : Object) : Rooted (writePodTemplate template) := by
  intro files other hroot
  simp only [writePodTemplate, Action.runOn_ofRun, pathOf, hroot, and_self]

theorem writeLogFile_rooted (entries : Entries Value) (file : String) :
    Rooted (writeLogFile entries file) := by
  unfold writeLogFile
  split
  · exact .pure ()
  · exact fun _ _ _ => ⟨rfl, rfl⟩
  · exact .ofOutcome _

theorem writeLogging_rooted (entries : Entries Value) : Rooted (writeLogging entries) := by
  unfold writeLogging
  refine .bind ?_ fun _ files other hroot => ?_
  · -- file after file
    induction Config.logFiles with
    | nil => exact .pure ()
    | cons file rest ih => exact .bind (writeLogFile_rooted entries file) fun _ => ih
  · simp only [Action.runOn_read, pathOf, hroot, and_self]

end Files

namespace Config

open Files

variable (c : Config)

theorem withPodTemplate_rooted (key : String) (template : Option Object) :
    Rooted (c.withPodTemplate key template) := by
  cases template with
  | none => exact .pure c
  | some t => exact .bind (writePodTemplate_rooted t) fun _ => .pure _

theorem withLogging_rooted (spec : DeploymentSpec) : Rooted (c.withLogging spec) := by
  unfold withLogging
  cases spec.logConfiguration with
  | none => exact .pure c
  | some entries => exact .bind (writeLogging_rooted _) fun _ => .pure _

theorem withJobManager_rooted (marks : TemplateMarks) (spec : DeploymentSpec) :
    Rooted (c.withJobManager marks spec) := by
  unfold withJobManager
  cases spec.jobManager with
  | none => exact .pure c
  | some manager =>
    refine .bind (.ofOutcome _) fun c => .bind (c.withPodTemplate_rooted _ _) fun c =>
      .bind (.ofOutcome _) fun above => ?_
    cases above <;> exact .pure _

theorem withTaskManager_rooted (marks : TemplateMarks) (spec : DeploymentSpec) :
    Rooted (c.withTaskManager marks spec) := by
  unfold withTaskManager
  cases spec.taskManager with
  | none => exact .pure c
  | some manager => exact .bind (.ofOutcome _) fun c => c.withPodTemplate_rooted _ _

theorem effective_rooted (marks : TemplateMarks) (defaults : Config) (metadata : Metadata)
    (spec : DeploymentSpec) : Rooted (effective marks defaults metadata spec) :=
  .bind (withLogging_rooted _ spec) fun _ => .bind (withPodTemplate_rooted _ _ _) fun _ =>
    .bind (withJobManager_rooted _ marks spec) fun _ =>
      .bind (withTaskManager_rooted _ marks spec) fun _ =>
      .bind (.ofOutcome _) fun _ => .pure _

/-- `Config.deployed` is `Rooted`: it depends on the files that there are by the path of their
directory only. -/
theorem deployed_rooted (defaults : Config) (d : Deployment) : Rooted (deployed defaults d) := by
  refine .bind (.ofOutcome _) fun spec => ?_
  cases spec with
  | none => exact .pure none
  | some spec => exact .bind (effective_rooted {} defaults d.metadata spec) fun _ => .pure _

end Config

end FlinkSteward
