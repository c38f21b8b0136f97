import FlinkSteward.Proofs.Config.Accepted
import FlinkSteward.Validation.Registry

/-!
# Jobs put together from accepted ones

The rules for a cluster look at the state, at the upgrade mode and at the nonce of its job. All but
two of them look at one of the three only, so that they accept a job that has its state from one
accepted job and its upgrade mode from another. The two that are left look at the state together with
the nonce, and together with the upgrade mode.

## Key results

- `Deployment.LacksDirectory`, `Deployment.LacksRestorePoint`: what the two rules are about
- `Validation.accepted_withJob_iff`: when a job put together from accepted ones is accepted
- `Registry.validateDeployment_create_eq_accept_iff`: the built-in rules beside extra validators
-/

namespace FlinkSteward

namespace Deployment

/-- A cluster with another job. -/
def withJob (d : Deployment) (job : JobSpec) : Deployment :=
  { d with spec := { d.spec with job := some job } }

/-- Savepoints have no place to go. -/
def LacksDirectory (d : Deployment) (defaults : Config) : Prop :=
  (Config.overlay defaults d.spec.flinkConfiguration).savepointDirectory = .ok none

/-- The job that was last applied is suspended, and there is no savepoint that another could resume
from. -/
def LacksRestorePoint (d : Deployment) : Prop :=
  ∃ applied old, d.status.reconciliation.lastReconciled = .ok (some (applied : DeploymentSpec)) ∧
    applied.job = some old ∧ old.state = some .suspended ∧
      ∀ savepoint, d.status.job.savepoints.lastSavepoint = some savepoint →
        Validation.isLocated savepoint.location ≠ .ok true

end Deployment

namespace Validation

variable {defaults conf : Config} {d : Deployment} {job job' old : JobSpec}

/-! ## The rules for savepoints -/

theorem rejectIf_eq_accept_iff {bad : Bool} {v : Violation} :
    rejectIf bad v = .ok none ↔ bad = false := by
  cases bad <;> simp [rejectIf]

/-- `checkSavepoints` accepts a job when savepoints for upgrades and those that users ask for have a
place to go. -/
theorem checkSavepoints_eq_accept_iff :
    checkSavepoints job conf = .ok none ↔ ∃ directory, conf.savepointDirectory = .ok directory ∧
      ¬(job.upgradeMode = .savepoint ∧ directory = none) ∧
      ¬(job.nonce.isTruthy ∧ job.state = some .running ∧ directory = none) := by
  rw [checkSavepoints, Outcome.bind_eq_ok]
  refine exists_congr fun directory => and_congr_right fun _ => ?_
  split
  · rename_i hmode
    exact iff_of_false nofun fun h => h.1 hmode
  · split
    · rename_i hnonce
      exact iff_of_false nofun fun h => h.2 hnonce
    · exact iff_of_true rfl ⟨‹_›, ‹_›⟩

/-- `checkRestore` accepts a job that resumes by its upgrade mode when it has a savepoint to resume
from. -/
theorem checkRestore_eq_accept_iff :
    checkRestore d old job = .ok none ↔
      ¬((old.state = some .suspended ∧ job.state = some .running ∧ job.upgradeMode = .savepoint) ∧
        ∀ savepoint, d.status.job.savepoints.lastSavepoint = some savepoint →
          isLocated savepoint.location ≠ .ok true) := by
  rw [checkRestore]
  split
  · rename_i hresumes
    rw [and_iff_right hresumes]
    cases d.status.job.savepoints.lastSavepoint with
    | none => exact iff_of_false nofun fun h => h nofun
    | some savepoint =>
      have hlocated : (isLocated savepoint.location >>= fun located =>
          rejectIf (!located) .noSavepointToRestore) = .ok none ↔
          isLocated savepoint.location = .ok true := by
        rw [Outcome.bind_eq_ok]
        simp [rejectIf_eq_accept_iff]
      refine hlocated.trans ⟨fun h hnone => hnone savepoint rfl h, fun h => ?_⟩
      by_contra hother
      exact h fun _ hsome => Option.some.inj hsome ▸ hother
  · rename_i hother
    exact iff_of_true rfl fun h => hother h.1

/-! ## A job in its cluster -/

/-- `checkJob` has the rules that look at a job in its own right. -/
theorem checkJob_eq_accept_iff :
    checkJob job conf = .ok none ↔ checkJar job = .ok none ∧ checkParallelism job = .ok none ∧
      checkLastState job conf = .ok none ∧ checkSavepoints job conf = .ok none := by
  simp [checkJob, firstViolation_eq_accept_iff]

/-- `checkChange` has the rules for a change of the job that was last applied, if there was one. -/
theorem checkChange_withJob_eq_accept_iff :
    checkChange defaults (d.withJob job) = .ok none ↔
      ∃ last, d.status.reconciliation.lastReconciled = .ok last ∧
        ∀ applied, last = some (applied : DeploymentSpec) → ∃ old, applied.job = some old ∧
          checkLastStateKept d (Config.overlay defaults applied.flinkConfiguration) old job =
            .ok none ∧ checkRestore d old job = .ok none := by
  rw [checkChange, Outcome.bind_eq_ok]
  refine exists_congr fun last => and_congr_right fun _ => ?_
  cases last with
  | none => exact iff_of_true rfl fun _ h => nomatch h
  | some applied =>
    simp only [Option.some.injEq, forall_eq']
    rw [checkChangeFrom]
    cases applied.job with
    | none => exact iff_of_false nofun fun ⟨_, h, _⟩ => nomatch h
    | some old =>
      simp only [Deployment.withJob, Option.some.injEq, exists_eq_left']
      rw [firstViolation_eq_accept_iff]
      simp only [List.forall_mem_cons, List.not_mem_nil, false_imp_iff, implies_true, and_true]
      rfl

/-- `validateDeployment` has rules for a cluster that do not look at its job, and the others. -/
theorem validateDeployment_withJob_eq_accept_iff :
    validateDeployment defaults (d.withJob job) = .ok none ↔
      ((checkVersion d.spec = .ok none ∧ checkConfiguration d.spec.flinkConfiguration = .ok none ∧
        checkLogging d.spec.logConfiguration = .ok none ∧
        (checkIfSet d.spec.jobManager fun spec => checkJobManager spec
          (Config.overlay defaults d.spec.flinkConfiguration)) = .ok none ∧
        checkIfSet d.spec.taskManager checkTaskManager = .ok none ∧
        (checkIfSet d.spec.ingress fun spec => checkIngress spec d.metadata) = .ok none) ∧
      checkJob job (Config.overlay defaults d.spec.flinkConfiguration) = .ok none ∧
      checkInitialState (d.withJob job) = .ok none ∧
      checkChange defaults (d.withJob job) = .ok none) := by
  rw [validateDeployment, firstViolation_eq_accept_iff]
  simp only [List.forall_mem_cons, List.not_mem_nil, false_imp_iff, implies_true, and_true]
  constructor
  · rintro ⟨h₁, h₂, h₃, h₄, h₅, h₆, h₇, h₈, h₉⟩
    exact ⟨⟨h₁, h₂, h₃, h₅, h₆, h₇⟩, h₄, h₈, h₉⟩
  · rintro ⟨⟨h₁, h₂, h₃, h₅, h₆, h₇⟩, h₄, h₈, h₉⟩
    exact ⟨h₁, h₂, h₃, h₄, h₅, h₆, h₇, h₈, h₉⟩

/-- `checkJob` accepts a job with the program and the upgrade mode of an accepted one unless its nonce
asks for a savepoint that has no place to go. -/
private theorem checkJob_iff_of_mode (h : checkJob job' conf = .ok none)
    (hmode : job.upgradeMode = job'.upgradeMode) (hjar : job.jarUri = job'.jarUri)
    (hparallelism : job.parallelism = job'.parallelism) :
    checkJob job conf = .ok none ↔
      ¬(job.nonce.isTruthy ∧ job.state = some .running ∧ conf.savepointDirectory = .ok none) := by
  obtain ⟨hprogram, hparallel, hlastState, hsavepoints⟩ := checkJob_eq_accept_iff.1 h
  obtain ⟨directory, hdirectory, hplace, -⟩ := checkSavepoints_eq_accept_iff.1 hsavepoints
  rw [checkJob_eq_accept_iff, checkJar, hjar, checkParallelism, hparallelism, checkLastState, hmode,
    checkSavepoints_eq_accept_iff, hmode, hdirectory]
  constructor
  · rintro ⟨-, -, -, _, ⟨⟩, -, hnonce⟩ ⟨htruthy, hrunning, hnone⟩
    exact hnonce ⟨htruthy, hrunning, Except.ok.inj hnone⟩
  · refine fun hnonce => ⟨hprogram, hparallel, hlastState, directory, rfl, hplace, ?_⟩
    rintro ⟨htruthy, hrunning, rfl⟩
    exact hnonce ⟨htruthy, hrunning, rfl⟩

/-- `checkChange` accepts a job with the upgrade mode of an accepted one unless it resumes from a
savepoint that is not there. -/
private theorem checkChange_iff_of_mode
    (h : checkChange defaults (d.withJob job') = .ok none)
    (hmode : job.upgradeMode = job'.upgradeMode) :
    checkChange defaults (d.withJob job) = .ok none ↔
      ¬(job.state = some .running ∧ job.upgradeMode = .savepoint ∧ d.LacksRestorePoint) := by
  obtain ⟨last, hlast, happlied⟩ := checkChange_withJob_eq_accept_iff.1 h
  rw [checkChange_withJob_eq_accept_iff, hlast]
  constructor
  · rintro ⟨_, ⟨⟩, hnew⟩ ⟨hrunning, hsavepoint, applied, old, hrecorded, hold, hsuspended, hnone⟩
    obtain rfl := Except.ok.inj (hlast.symm.trans hrecorded)
    obtain ⟨_, hold', -, hrestore⟩ := hnew applied rfl
    obtain rfl := Option.some.inj (hold.symm.trans hold')
    exact checkRestore_eq_accept_iff.1 hrestore ⟨⟨hsuspended, hrunning, hsavepoint⟩, hnone⟩
  · refine fun hresumes => ⟨last, rfl, fun applied hsome => ?_⟩
    obtain ⟨old, hold, hkept, -⟩ := happlied applied hsome
    refine ⟨old, hold, ?_, checkRestore_eq_accept_iff.2 ?_⟩
    · rwa [checkLastStateKept, hmode]
    · rintro ⟨⟨hsuspended, hrunning, hsavepoint⟩, hnone⟩
      rw [hsome] at hlast
      exact hresumes ⟨hrunning, hsavepoint, applied, old, hlast, hold, hsuspended, hnone⟩

/-- `validateDeployment` accepts a job with its state from an accepted job, and with its upgrade mode
and its program from another, unless its nonce asks for a savepoint that has no place to go, or it
resumes from a savepoint that is not there. -/
theorem accepted_withJob_iff {ofState ofMode : JobSpec}
    (hofState : validateDeployment defaults (d.withJob ofState) = .ok none)
    (hofMode : validateDeployment defaults (d.withJob ofMode) = .ok none)
    (hstate : job.state = ofState.state) (hmode : job.upgradeMode = ofMode.upgradeMode)
    (hjar : job.jarUri = ofMode.jarUri) (hparallelism : job.parallelism = ofMode.parallelism) :
    validateDeployment defaults (d.withJob job) = .ok none ↔
      ¬(job.nonce.isTruthy ∧ job.state = some .running ∧ d.LacksDirectory defaults) ∧
      ¬(job.state = some .running ∧ job.upgradeMode = .savepoint ∧ d.LacksRestorePoint) := by
  rw [validateDeployment_withJob_eq_accept_iff] at hofState hofMode ⊢
  obtain ⟨-, -, hinitial, -⟩ := hofState
  obtain ⟨hrest, hjob, -, hchange⟩ := hofMode
  have hinitial' : checkInitialState (d.withJob job) = .ok none := by
    simp only [checkInitialState, Deployment.withJob, hstate] at hinitial ⊢
    exact hinitial
  rw [checkJob_iff_of_mode hjob hmode hjar hparallelism, checkChange_iff_of_mode hchange hmode]
  exact ⟨fun h => ⟨h.2.1, h.2.2.2⟩, fun h => ⟨hrest, h.1, hinitial', h.2⟩⟩

end Validation

/-! ## Registries -/

/-- `Validator.builtIn` accepts what `validateDeployment` accepts. -/
theorem Validator.judgeDeployment_builtIn_eq_accept_iff {defaults : Config} {d : Deployment} :
    (builtIn defaults).judgeDeployment d = .ok none ↔
      Validation.validateDeployment defaults d = .ok none := by
  change (Validation.validateDeployment defaults d).map _ = _ ↔ _
  rcases Validation.validateDeployment defaults d with f | _ | violation
  · exact ⟨nofun, nofun⟩
  · exact ⟨fun _ => rfl, fun _ => rfl⟩
  · exact ⟨nofun, nofun⟩

/-- A registry that `create` has made accepts what the built-in rules and the extra validators
accept. -/
theorem Registry.validateDeployment_create_eq_accept_iff {defaults : Config} {extra : List Validator}
    {d : Deployment} :
    (create defaults extra).validateDeployment d = .ok none ↔
      Validation.validateDeployment defaults d = .ok none ∧
        ∀ v ∈ extra, (v.configure defaults).judgeDeployment d = .ok none := by
  rw [validateDeployment, validators_create, judgeInTurn_eq_accept_iff, List.forall_mem_cons,
    List.forall_mem_map, Validator.judgeDeployment_builtIn_eq_accept_iff]

end FlinkSteward
