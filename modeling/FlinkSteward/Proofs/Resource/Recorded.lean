import FlinkSteward.Proofs.Action
import FlinkSteward.Proofs.Json.Sound
import FlinkSteward.Proofs.Resource.RoundTrip
import FlinkSteward.Proofs.Subject

/-!
# Records of what was last applied

Both kinds of resources keep the specification that was last applied as a text. What was recorded is
read back but for the order of the entries of its maps, and whatever can be read from a text can be
recorded again.

## Key results

- `RecordedResource`: what the two kinds of resources and their specifications have in common
- `RecordedResource.lastReconciled_record`: what was recorded is read back
- `SameRecord`: resources that differ in what was observed alone, with `SameRecord.lasting`
-/

namespace FlinkSteward

/-! ## Specifications that can be recorded -/

/-- What `Spec.deserialize` reads from a text is decoded from a `Sound` value. -/
private theorem valid_of_deserialize {σ : Type} [Spec σ] {Valid : σ → Prop}
    (hdecode : ∀ v : Value, v.Sound → ∀ s, Spec.decode v = .ok s → Valid s) {text : String}
    {s : σ} (h : Spec.deserialize text = .ok s) : Valid s := by
  obtain ⟨v, hread, hs⟩ := Outcome.bind_eq_ok.1 h
  cases hv : Json.read text with
  | error e => rw [hv] at hread; exact nomatch hread
  | ok u =>
    rw [hv] at hread
    obtain rfl : u = v := Except.ok.inj hread
    exact hdecode u (Json.sound_of_read hv) s hs

/-- A resource whose parts do not depend on each other, and whose specifications are read back from
their texts. -/
class RecordedResource (ρ : Type) [Resource ρ] extends LawfulResource ρ where
  /-- What reading a specification gives. -/
  Valid : Resource.Spec ρ → Prop
  /-- A specification with its maps in the order of their keys. -/
  sorted : Resource.Spec ρ → Resource.Spec ρ
  /-- The last error. -/
  error : ρ → Option String
  spec_withJob : ∀ (r : ρ) s, Resource.spec (Resource.withJob r s) = Resource.spec r
  spec_withReconciliation : ∀ (r : ρ) s,
    Resource.spec (Resource.withReconciliation r s) = Resource.spec r
  spec_withError : ∀ (r : ρ) e, Resource.spec (Resource.withError r e) = Resource.spec r
  reconciliation_withJob : ∀ (r : ρ) s,
    Resource.reconciliation (Resource.withJob r s) = Resource.reconciliation r
  reconciliation_withReconciliation : ∀ (r : ρ) s,
    Resource.reconciliation (Resource.withReconciliation r s) = s
  reconciliation_withError : ∀ (r : ρ) e,
    Resource.reconciliation (Resource.withError r e) = Resource.reconciliation r
  error_withJob : ∀ (r : ρ) s, error (Resource.withJob r s) = error r
  error_withReconciliation : ∀ (r : ρ) s, error (Resource.withReconciliation r s) = error r
  error_withError : ∀ (r : ρ) e, error (Resource.withError r e) = e
  jobSpec_withJobSpec : ∀ (s : Resource.Spec ρ) job,
    Resource.jobSpec (Resource.withJobSpec (ρ := ρ) s job) = some job
  sorted_sorted : ∀ s, sorted (sorted s) = sorted s
  jobSpec_sorted : ∀ s : Resource.Spec ρ,
    Resource.jobSpec (sorted s) = (Resource.jobSpec s).map (JobSpec.arrange .sorted)
  valid_job : ∀ {s : Resource.Spec ρ} {job}, Valid s → Resource.jobSpec s = some job → job.Valid
  valid_withJobSpec : ∀ {s : Resource.Spec ρ} {job}, Valid s → job.Valid →
    Valid (Resource.withJobSpec (ρ := ρ) s job)
  valid_of_deserialize : ∀ {text} {s : Resource.Spec ρ}, Spec.deserialize text = .ok s → Valid s
  deserialize_serialize : ∀ {s : Resource.Spec ρ}, Valid s →
    Spec.deserialize (Spec.serialize s) = .ok (sorted s)

attribute [simp] RecordedResource.spec_withJob RecordedResource.spec_withReconciliation
  RecordedResource.spec_withError RecordedResource.reconciliation_withJob
  RecordedResource.reconciliation_withReconciliation RecordedResource.reconciliation_withError
  RecordedResource.error_withJob RecordedResource.error_withReconciliation
  RecordedResource.error_withError RecordedResource.jobSpec_withJobSpec
  RecordedResource.jobSpec_sorted

instance : RecordedResource Deployment where
  Valid := DeploymentSpec.Valid
  sorted := DeploymentSpec.sorted
  error d := d.status.error
  spec_withJob _ _ := rfl
  spec_withReconciliation _ _ := rfl
  spec_withError _ _ := rfl
  reconciliation_withJob _ _ := rfl
  reconciliation_withReconciliation _ _ := rfl
  reconciliation_withError _ _ := rfl
  error_withJob _ _ := rfl
  error_withReconciliation _ _ := rfl
  error_withError _ _ := rfl
  jobSpec_withJobSpec _ _ := rfl
  sorted_sorted := DeploymentSpec.alike_sorted
  jobSpec_sorted _ := rfl
  valid_job h hjob := h.job _ hjob
  valid_withJobSpec h hjob := { h with job := by rintro _ ⟨⟩; exact hjob }
  valid_of_deserialize := valid_of_deserialize fun _ hv _ => DeploymentSpec.valid_of_decode hv
  deserialize_serialize := DeploymentSpec.deserialize_serialize

instance : RecordedResource SessionJob where
  Valid := SessionJobSpec.Valid
  sorted := SessionJobSpec.sorted
  error j := j.status.error
  spec_withJob _ _ := rfl
  spec_withReconciliation _ _ := rfl
  spec_withError _ _ := rfl
  reconciliation_withJob _ _ := rfl
  reconciliation_withReconciliation _ _ := rfl
  reconciliation_withError _ _ := rfl
  error_withJob _ _ := rfl
  error_withReconciliation _ _ := rfl
  error_withError _ _ := rfl
  jobSpec_withJobSpec _ _ := rfl
  sorted_sorted := SessionJobSpec.alike_sorted
  jobSpec_sorted _ := rfl
  valid_job h hjob := h.job _ hjob
  valid_withJobSpec h hjob := { h with job := by rintro _ ⟨⟩; exact hjob }
  valid_of_deserialize := valid_of_deserialize fun _ hv _ => SessionJobSpec.valid_of_decode hv
  deserialize_serialize := SessionJobSpec.deserialize_serialize

namespace RecordedResource

variable {ρ : Type} [Resource ρ] [RecordedResource ρ] {s applied : Resource.Spec ρ}
  {r : ReconciliationStatus}

/-- `lastReconciled` reads back what was recorded, in the order of its keys. -/
theorem lastReconciled_record (h : Valid (ρ := ρ) s) :
    (r.record s).lastReconciled = .ok (some (sorted (ρ := ρ) s)) :=
  r.lastReconciled_record (deserialize_serialize h)

/-- Specifications that differ at most in the order of the entries of their maps. -/
def Alike (s t : Resource.Spec ρ) : Prop :=
  sorted (ρ := ρ) s = sorted (ρ := ρ) t

theorem alike_sorted (s : Resource.Spec ρ) : Alike (ρ := ρ) (sorted (ρ := ρ) s) s :=
  sorted_sorted s

/-- What `lastReconciled` reads is `Valid`, so that it can be recorded again. -/
theorem valid_of_lastReconciled (h : r.lastReconciled = .ok (some s)) : Valid (ρ := ρ) s := by
  rw [ReconciliationStatus.lastReconciled] at h
  cases ht : r.lastReconciledSpec with
  | none => simp [ht, Spec.deserialize?] at h
  | some text =>
    rw [ht] at h
    obtain ⟨t, ht, hts⟩ := Outcome.map_eq_ok.1 h
    exact Option.some.inj hts ▸ valid_of_deserialize ht

/-- What `lastReconciled` reads is `Valid` with the nonce of another job, too. -/
theorem valid_withNonce {old job : JobSpec} (h : Valid (ρ := ρ) applied)
    (hold : Resource.jobSpec applied = some old) (hjob : job.Valid) :
    Valid (ρ := ρ) (Operator.withNonce (ρ := ρ) applied old job) := by
  have hv := valid_job h hold
  exact valid_withJobSpec h ⟨hv.parallelism, hjob.nonce, hv.allowNonRestoredState⟩

end RecordedResource

/-- `Operator.recordApplied` fails without a change, or makes the specification the one that was last
applied. -/
theorem Operator.recordApplied_eq_or {ρ σ : Type} [Resource ρ] (o : Operator σ) (r : ρ) (w : σ) :
    (o.recordApplied.runOn (r, w)).2.1 = r ∨ ∃ time, (o.recordApplied.runOn (r, w)).2.1 =
      Resource.withError (Resource.withReconciliation r
        { (Resource.reconciliation r).record (Resource.spec r) with timestamp := .int time })
        none := by
  simp only [recordApplied, Action.runOn_bind, Subject.runOn_outside]
  rcases o.now.runOn w with ⟨_ | time, v⟩
  · exact .inl rfl
  · exact .inr ⟨time, rfl⟩

/-! ## What observations leave -/

/-- `lastReconciled` depends on its text alone. -/
theorem ReconciliationStatus.lastReconciled_congr {σ : Type} [Spec σ] {r s : ReconciliationStatus}
    (h : s.lastReconciledSpec = r.lastReconciledSpec) :
    s.lastReconciled (σ := σ) = r.lastReconciled :=
  congrArg Spec.deserialize? h

/-- Resources that ask for the same and have the same record of what was last applied. -/
structure SameRecord {ρ : Type} [Resource ρ] (r s : ρ) : Prop where
  spec : Resource.spec s = Resource.spec r
  recorded : (Resource.reconciliation s).lastReconciledSpec =
    (Resource.reconciliation r).lastReconciledSpec

namespace SameRecord

variable {ρ : Type} [Resource ρ] {r s : ρ}

theorem refl (r : ρ) : SameRecord r r :=
  ⟨rfl, rfl⟩

theorem lastReconciled {σ : Type} [Spec σ] (h : SameRecord r s) :
    (Resource.reconciliation s).lastReconciled (σ := σ) =
      (Resource.reconciliation r).lastReconciled :=
  ReconciliationStatus.lastReconciled_congr h.recorded

/-- `SameRecord` is `Lasting`: nothing that is observed changes it. -/
theorem lasting [RecordedResource ρ] (r : ρ) : Lasting fun s : ρ => SameRecord r s where
  job s _ hs _ := ⟨by simp [hs.spec], by simp [hs.recorded]⟩
  stable s hs := ⟨by simp [hs.spec], by simp [ReconciliationStatus.markStable, hs.recorded]⟩
  error s _ hs := ⟨by simp [hs.spec], by simp [hs.recorded]⟩

end SameRecord

end FlinkSteward
