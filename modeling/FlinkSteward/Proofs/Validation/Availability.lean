import FlinkSteward.Proofs.Resource.RoundTrip
import FlinkSteward.Proofs.Subject
import FlinkSteward.Validation.Rules
import Mathlib.Logic.Relation

/-!
# Upgrades from the last state

An upgrade from the last state deletes the JobManager and relies on what Kubernetes keeps of it, which
it does only for highly available clusters. The rules look at the specification that is to come and,
unless its mode was the same before, at the one that was last applied. The latter is left out because
what was applied was checked then: that it was is an invariant of all runs.

## Key results

- `Config.isHighlyAvailable_congr`: availability depends on the values of options only
- `Recoverable`: a specification whose own upgrade from the last state would lose nothing
- `Deployment.Step`: edits, observations, savepoints, and applications of what was accepted
- `Deployment.Step.secure`: the invariant
- `lastState_upgrade_is_available`: what runs guarantee
-/

namespace FlinkSteward

/-! ## Configurations -/

namespace Config

theorem value_congr {c d : Config} {key : String} (h : c.get? key = d.get? key) :
    c.value key = d.value key := by
  rw [value, value, h]

theorem isHighlyAvailable_congr {c d : Config}
    (h : c.get? highAvailabilityKey = d.get? highAvailabilityKey) :
    c.isHighlyAvailable = d.isHighlyAvailable := by
  rw [isHighlyAvailable, isHighlyAvailable, value_congr h]

/-- `Config.overlay` gives an option the user's value, or else the default. -/
theorem get?_overlay (defaults : Config) {entries : Entries (Option String)}
    (h : entries.Distinct) (key : String) :
    (overlay defaults entries).get? key =
      ((entries.get? key).map Value.ofText?).or (defaults.get? key) := by
  rw [overlay, ofTexts, Entries.get?_update_of_distinct defaults (h.mapValues _),
    Entries.get?_mapValues]

theorem get?_overlay_sorted (defaults : Config) {entries : Entries (Option String)}
    (h : entries.Distinct) (key : String) :
    (overlay defaults entries.sorted).get? key = (overlay defaults entries).get? key := by
  rw [get?_overlay defaults h.sorted, get?_overlay defaults h, Entries.get?_sorted]

end Config

/-! ## Specifications that can be upgraded from their last state -/

namespace DeploymentSpec

/-- A job of the specification that is upgraded from its last state comes with `isHighlyAvailable`
options. -/
def Recoverable (defaults : Config) (s : DeploymentSpec) : Prop :=
  ∀ job ∈ s.job, job.upgradeMode = .lastState →
    (Config.overlay defaults s.flinkConfiguration).isHighlyAvailable = .ok true

/-- A `sorted` specification is `Valid` again. -/
theorem Valid.sorted {s : DeploymentSpec} (h : s.Valid) : s.sorted.Valid :=
  valid_of_decode (Layout.sorted.sound_value (content.sound_write h)) (content.read_value .sorted h)

theorem Recoverable.sorted {defaults : Config} {s : DeploymentSpec} (hv : s.Valid)
    (h : s.Recoverable defaults) : s.sorted.Recoverable defaults := by
  intro job hjob hmode
  obtain ⟨old, hold, rfl⟩ := Option.mem_map.1 hjob
  -- sorted options have the same values
  rw [← h old hold hmode]
  exact Config.isHighlyAvailable_congr
    (Config.get?_overlay_sorted defaults hv.flinkConfiguration _)

variable {s : DeploymentSpec} {old job : JobSpec}

theorem Valid.withNonce (h : s.Valid) (hold : s.job = some old) (hjob : job.Valid) :
    (Operator.withNonce (ρ := Deployment) s old job : DeploymentSpec).Valid := by
  have hv := h.job old hold
  refine ⟨h.flinkConfiguration, h.logConfiguration, h.podTemplate, h.ingress, h.jobManager,
    h.taskManager, ?_⟩
  rintro _ ⟨⟩
  exact ⟨hv.parallelism, hjob.nonce, hv.allowNonRestoredState⟩

theorem Recoverable.withNonce {defaults : Config} (h : s.Recoverable defaults)
    (hold : s.job = some old) :
    Recoverable defaults (Operator.withNonce (ρ := Deployment) s old job) := by
  rintro _ ⟨⟩ hmode
  exact h old hold hmode

end DeploymentSpec

/-! ## What acceptance says -/

namespace Validation

variable {defaults : Config} {d : Deployment}

/-- A rule that asks for `isHighlyAvailable`. -/
theorem available_of_accepted {conf : Config} {v : Violation}
    (h : (do rejectIf (!(← conf.isHighlyAvailable)) v : Verdict) = .ok none) :
    conf.isHighlyAvailable = .ok true := by
  obtain ⟨available, havailable, hreject⟩ := Outcome.bind_eq_ok.1 h
  cases available with
  | true => exact havailable
  | false => simp [rejectIf] at hreject

/-- A specification that `validateDeployment` accepts is `Recoverable`. -/
theorem recoverable_of_accepted (h : validateDeployment defaults d = .ok none) :
    d.spec.Recoverable defaults := by
  intro job hjob hmode
  have hcheck : checkIfSet d.spec.job (fun job =>
      checkJob job (Config.overlay defaults d.spec.flinkConfiguration)) = .ok none :=
    (firstViolation_eq_accept_iff _).1 h _ (by simp)
  rw [hjob] at hcheck
  have hlast : checkLastState job (Config.overlay defaults d.spec.flinkConfiguration) = .ok none :=
    (firstViolation_eq_accept_iff _).1 hcheck _ (by simp)
  rw [checkLastState, if_pos hmode] at hlast
  exact available_of_accepted hlast

/-- What was applied last ran in the mode of the last state too, or is highly available, when
`validateDeployment` accepts a job in that mode for a cluster whose JobManager is `ready`. -/
theorem applied_of_accepted (h : validateDeployment defaults d = .ok none)
    (hrecorded : d.status.reconciliation.isFirst = false) {job : JobSpec}
    (hjob : d.spec.job = some job) (hmode : job.upgradeMode = .lastState)
    (hready : d.status.manager = .ready) :
    ∃ applied : DeploymentSpec, d.status.reconciliation.lastReconciled = .ok (some applied) ∧
      ∃ old, applied.job = some old ∧ (old.upgradeMode = .lastState ∨
        (Config.overlay defaults applied.flinkConfiguration).isHighlyAvailable = .ok true) := by
  have hchange : checkChange defaults d = .ok none :=
    (firstViolation_eq_accept_iff _).1 h _ (by simp)
  obtain ⟨applied, happlied, hchange⟩ := Outcome.bind_eq_ok.1 hchange
  cases applied with
  | none => rw [ReconciliationStatus.isFirst_of_lastReconciled happlied] at hrecorded; contradiction
  | some applied =>
    refine ⟨applied, happlied, ?_⟩
    cases hold : applied.job with
    | none => simp [checkChangeFrom, hjob, hold] at hchange
    | some old =>
      simp only [checkChangeFrom, hjob, hold] at hchange
      refine ⟨old, rfl, or_iff_not_imp_left.2 fun hother => ?_⟩
      -- the first of the rules on changes asks for availability when the mode was another one
      have hkept := (firstViolation_eq_accept_iff _).1 hchange _ List.mem_cons_self
      rw [checkLastStateKept, if_pos ⟨hother, hmode, hready⟩] at hkept
      exact available_of_accepted hkept

end Validation

/-! ## Runs -/

/-- What may happen to a cluster, under the defaults of its operator. -/
inductive Deployment.Step (defaults : Config) : Deployment → Deployment → Prop where
  /-- The user asks for something else. -/
  | edited {d : Deployment} {v : Value} {s : DeploymentSpec} (hv : v.Sound)
    (h : DeploymentSpec.decode v = .ok s) : Step defaults d { d with spec := s }
  /-- The JobManager and the job are seen in any state. -/
  | observed {d : Deployment} (manager : ManagerStatus) (job : JobStatus) :
    Step defaults d { d with status := { d.status with manager := manager, job := job } }
  /-- A savepoint is asked for if one is due, with any outcome. -/
  | triggered {d : Deployment} {σ : Type} (o : Operator σ) (conf : Config) (w : σ) :
    Step defaults d ((o.triggerIfDue conf).runOn (d, w)).2.1
  /-- A specification that is accepted is applied. -/
  | applied {d : Deployment} {σ : Type} (o : Operator σ) (w : σ)
    (h : Validation.validateDeployment defaults d = .ok none) :
    Step defaults d (o.recordApplied.runOn (d, w)).2.1

/-- Every specification that was applied is `Recoverable`. -/
structure Deployment.Secure (defaults : Config) (d : Deployment) : Prop where
  spec : d.spec.Valid
  applied : ∀ s : DeploymentSpec, d.status.reconciliation.lastReconciled = .ok (some s) →
    s.Valid ∧ s.Recoverable defaults

namespace Deployment

variable {defaults : Config} {d e : Deployment}

/-- A specification that is `Recoverable` is still so when it was recorded. -/
theorem recoverable_record {s : DeploymentSpec} (hv : s.Valid) (h : s.Recoverable defaults)
    (r : ReconciliationStatus) : ∀ t : DeploymentSpec,
      (r.record s).lastReconciled = .ok (some t) → t.Valid ∧ t.Recoverable defaults := by
  intro t ht
  rw [r.lastReconciled_record (DeploymentSpec.deserialize_serialize hv)] at ht
  obtain rfl := Option.some.inj (Except.ok.inj ht)
  exact ⟨hv.sorted, h.sorted hv⟩

/-- `Secure` is `Lasting`: the invariant does not depend on what is observed. -/
theorem Secure.lasting : Lasting (Secure defaults) where
  job _ _ h _ := ⟨h.spec, h.applied⟩
  stable _ h := ⟨h.spec, h.applied⟩
  error _ _ h := ⟨h.spec, h.applied⟩

theorem Step.secure (h : Step defaults d e) (hd : d.Secure defaults) : e.Secure defaults := by
  cases h with
  | edited hv hs => exact ⟨DeploymentSpec.valid_of_decode hv hs, hd.applied⟩
  | observed manager job => exact ⟨hd.spec, hd.applied⟩
  | triggered o conf w =>
    refine (o.keeps_triggerIfDue Secure.lasting ?_ d w hd).1
    -- only the nonce of what was applied changes
    intro r applied old job hr hjob happlied hold t ht
    obtain ⟨hv, hrec⟩ := hr.applied applied happlied
    exact ⟨ht.spec, recoverable_record (hv.withNonce hold (hr.spec.job job hjob)) (hrec.withNonce hold) _⟩
  | applied o w haccept =>
    -- what is recorded is the specification that was accepted
    have hkeeps : Subject.Keeps (fun e : Deployment => e.Secure defaults ∧
        e.spec.Recoverable defaults) (o.recordApplied : Action (Deployment × _) Unit) fun _ => True :=
      Operator.keeps_recordApplied fun r time hr =>
        ⟨⟨hr.1.spec, recoverable_record hr.1.spec hr.2
          { r.status.reconciliation with timestamp := .int time }⟩, hr.2⟩
    exact (hkeeps d w ⟨hd, Validation.recoverable_of_accepted haccept⟩).1.1

theorem Step.run_secure (h : Relation.ReflTransGen (Step defaults) d e) (hd : d.Secure defaults) :
    e.Secure defaults := by
  induction h with
  | refl => exact hd
  | tail _ hstep ih => exact hstep.secure ih

/-- A cluster to which nothing was applied yet is `Secure`. -/
theorem secure_of_isFirst (hv : d.spec.Valid) (h : d.status.reconciliation.isFirst = true) :
    d.Secure defaults := by
  refine ⟨hv, fun s hs => ?_⟩
  rw [ReconciliationStatus.isFirst, Option.isNone_iff_eq_none] at h
  rw [ReconciliationStatus.lastReconciled, h] at hs
  cases hs

end Deployment

open Validation in
/-- From a cluster that was read from a manifest (`Deployment.valid_spec`) and to which nothing was
applied yet, through any `Deployment.Step`s: when `validateDeployment` accepts a job that is upgraded
from its last state while the JobManager is `ready`, then `isHighlyAvailable` holds of the options
that are asked for and of those that were last applied, over the defaults. -/
theorem lastState_upgrade_is_available {defaults : Config} {start d : Deployment}
    (hvalid : start.spec.Valid) (hfirst : start.status.reconciliation.isFirst = true)
    (hrun : Relation.ReflTransGen (Deployment.Step defaults) start d)
    (haccept : validateDeployment defaults d = .ok none) {job : JobSpec}
    (hjob : d.spec.job = some job) (hmode : job.upgradeMode = .lastState)
    (hrecorded : d.status.reconciliation.isFirst = false) (hready : d.status.manager = .ready) :
    (Config.overlay defaults d.spec.flinkConfiguration).isHighlyAvailable = .ok true ∧
    ∃ applied : DeploymentSpec, d.status.reconciliation.lastReconciled = .ok (some applied) ∧
      (Config.overlay defaults applied.flinkConfiguration).isHighlyAvailable = .ok true := by
  have hsecure := Deployment.Step.run_secure hrun (Deployment.secure_of_isFirst hvalid hfirst)
  obtain ⟨applied, happlied, old, hold, hcase⟩ :=
    applied_of_accepted haccept hrecorded hjob hmode hready
  refine ⟨recoverable_of_accepted haccept job hjob hmode, applied, happlied, ?_⟩
  -- the rules leave the applied specification alone if its mode was the same: then it was checked
  rcases hcase with hlast | havailable
  · exact (hsecure.applied applied happlied).2 old hold hlast
  · exact havailable

/-- An operator without a network, on a clock that stands still. -/
def idleOperator : Operator Unit where
  settings := {}
  defaults := []
  kubernetes := .offline .null
  connect _ := .fail (.api 503)
  now := pure 0
  uptime := pure (.zero false)
  files := ⟨fun _ => { root := "" }, fun _ w => w⟩

/-- A highly available cluster whose job is cancelled before upgrades. -/
def cancelledDeployment : Deployment where
  metadata := { name := some "basic" }
  spec := {
    flinkVersion := some .v1_14
    flinkConfiguration := [("high-availability", some "Kubernetes"), ("a", none)]
    job := some { jarUri := some "local:///job.jar" } }

/-- What its user asks for later: upgrades from the last state. -/
def lastStateSpec : DeploymentSpec :=
  { cancelledDeployment.spec with
    job := some { jarUri := some "local:///job.jar", upgradeMode := .lastState } }

/-- The cluster when that is asked for, while it runs. -/
def lastStateDeployment : Deployment :=
  { cancelledDeployment with
    spec := lastStateSpec
    status := {
      manager := .ready
      reconciliation := {
        lastReconciledSpec := some (Spec.serialize cancelledDeployment.spec) } } }

theorem cancelledDeployment_valid : cancelledDeployment.spec.Valid :=
  { DeploymentSpec.valid_empty with
    flinkConfiguration := by
      simp [cancelledDeployment, Content.texts, Entries.Distinct, Entries.get?]
    job := by rintro _ ⟨⟩; exact { JobSpec.valid_empty with } }

theorem lastStateSpec_valid : lastStateSpec.Valid :=
  { cancelledDeployment_valid with job := by rintro _ ⟨⟩; exact { JobSpec.valid_empty with } }

open Validation in
theorem lastStateDeployment_is_available :
    validateDeployment [] lastStateDeployment = .ok none ∧
      lastStateDeployment.status.reconciliation.isFirst = false ∧
      (Config.overlay [] lastStateDeployment.spec.flinkConfiguration).isHighlyAvailable = .ok true ∧
      ∃ applied : DeploymentSpec,
        lastStateDeployment.status.reconciliation.lastReconciled = .ok (some applied) ∧
          (Config.overlay [] applied.flinkConfiguration).isHighlyAvailable = .ok true := by
  have happlied : Deployment.Step [] cancelledDeployment
      ((idleOperator.recordApplied.runOn (cancelledDeployment, ())).2.1) :=
    .applied idleOperator () (by decide +kernel)
  have hrun : Relation.ReflTransGen (Deployment.Step []) cancelledDeployment lastStateDeployment :=
    ((Relation.ReflTransGen.single happlied).tail (.observed .ready {})).tail
      (.edited (DeploymentSpec.content.sound_write lastStateSpec_valid) (by decide +kernel))
  have haccept : validateDeployment [] lastStateDeployment = .ok none := by decide +kernel
  exact ⟨haccept, rfl, lastState_upgrade_is_available cancelledDeployment_valid rfl hrun haccept rfl
    rfl rfl rfl⟩

end FlinkSteward
