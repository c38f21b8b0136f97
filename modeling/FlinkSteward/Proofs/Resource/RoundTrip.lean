import FlinkSteward.Proofs.Json.RoundTrip
import FlinkSteward.Proofs.Resource.Status

/-!
# Resources read back

A resource that was read from a manifest is written as a manifest of the same resource, and its
specification goes through the JSON text in which it is kept: what comes back differs at most in the
order of the entries of its maps.

## Key results

- `Deployment.decode_eq_ok`, `SessionJob.decode_eq_ok`: what reading a manifest says of its parts
- `DeploymentSpec.deserialize_serialize`, `SessionJobSpec.deserialize_serialize`: what is read from
  the text of a specification
- `manifest_reads_back`: both kinds of resources, with all their parts
-/

namespace FlinkSteward

open Record

/-! ## Specifications as texts -/

/-- `Spec.deserialize` reads from the text of a specification that specification in the order of its
keys. -/
private theorem deserialize_of_content {σ : Type} [Spec σ] {c : Content σ}
    (hr : c.read = Spec.decode) (hw : c.write = Spec.encode) {s : σ} (h : c.Valid s) :
    Spec.deserialize (Spec.serialize s) = .ok (c.arrange .sorted s) := by
  -- the text is read as the value with its maps sorted, and that as the content in that layout
  have hsound : (Spec.encode s).Sound := hw ▸ c.sound_write h
  have hread := c.read_value .sorted h
  rw [hr, hw] at hread
  rw [Spec.deserialize, Spec.serialize, Json.read_write hsound]
  exact hread

namespace DeploymentSpec

/-- A specification as it comes back from its text: with its maps in the order of their keys. -/
def sorted (s : DeploymentSpec) : DeploymentSpec :=
  s.arrange .sorted

/-- Specifications that differ at most in the order of the entries of their maps. -/
def Alike (a b : DeploymentSpec) : Prop :=
  a.sorted = b.sorted

theorem alike_sorted (s : DeploymentSpec) : s.sorted.Alike s :=
  arrange_sorted_sorted s

theorem deserialize_serialize {s : DeploymentSpec} (h : s.Valid) :
    Spec.deserialize (Spec.serialize s) = .ok s.sorted :=
  deserialize_of_content (c := content) rfl rfl h

end DeploymentSpec

namespace SessionJobSpec

/-- A specification as it comes back from its text: with its maps in the order of their keys. -/
def sorted (s : SessionJobSpec) : SessionJobSpec :=
  s.arrange .sorted

/-- Specifications that differ at most in the order of the entries of their maps. -/
def Alike (a b : SessionJobSpec) : Prop :=
  a.sorted = b.sorted

theorem alike_sorted (s : SessionJobSpec) : s.sorted.Alike s :=
  arrange_sorted_sorted s

theorem deserialize_serialize {s : SessionJobSpec} (h : s.Valid) :
    Spec.deserialize (Spec.serialize s) = .ok s.sorted :=
  deserialize_of_content (c := content) rfl rfl h

end SessionJobSpec

/-- `lastReconciled` reads what was recorded from its text. -/
theorem ReconciliationStatus.lastReconciled_record {σ : Type} [Spec σ] (r : ReconciliationStatus)
    {s t : σ} (h : Spec.deserialize (Spec.serialize s) = .ok t) :
    (r.record s).lastReconciled = .ok (some t) := by
  rw [lastReconciled, record, Spec.deserialize?, h]
  rfl

theorem ReconciliationStatus.isFirst_of_lastReconciled {σ : Type} [Spec σ]
    {r : ReconciliationStatus} (h : r.lastReconciled = .ok (none : Option σ)) : r.isFirst = true := by
  rw [lastReconciled] at h
  cases ht : r.lastReconciledSpec with
  | none => rw [isFirst, ht]; rfl
  | some text =>
    -- a text that is there is read as a specification, if it can be read
    rw [ht, Spec.deserialize?] at h
    obtain ⟨s, -, hs⟩ := Outcome.map_eq_ok.1 h
    exact nomatch hs

/-! ## Parts of manifests -/

theorem sound_manifestPart {r : Entries Value} (h : (Value.map r).Sound) (key : String) :
    (manifestPart r key).Sound := by
  rw [manifestPart]
  cases hv : r.get? key with
  | none => trivial
  | some v => exact Value.sound_of_get? h hv

/-- `Value.patchFields` of one part of a manifest leaves the others. -/
theorem manifestPart_patched (fields : Entries Value) {key other : String} (h : key ≠ other)
    (v : Value) :
    manifestPart (Value.patchFields fields [(key, v)]) other = manifestPart fields other := by
  have hd : Entries.Distinct [(key, v)] := distinct_field key (some v)
  rw [manifestPart, manifestPart, Value.get?_patchFields fields hd]
  simp [Entries.get?, h]

theorem manifestPart_patched_self (fields : Entries Value) (key : String) (v : Value) :
    manifestPart (Value.patchFields fields [(key, v)]) key =
      Value.patchOver (fields.get? key) v := by
  have hd : Entries.Distinct [(key, v)] := distinct_field key (some v)
  rw [manifestPart, Value.get?_patchFields fields hd]
  simp [Entries.get?]

/-- A `manifestPart` that is missing reads as the default, and every other one as what is valid. -/
private theorem valid_of_part {α : Type} (c : Content α) {default : α} (hd : c.Valid default)
    (hnull : c.read .null = .ok default) {v : Value} (hv : v.Sound) {a : α}
    (h : c.read v = .ok a) : c.Valid a := by
  by_cases hne : v = .null
  · rw [hne, hnull] at h
    exact Except.ok.inj h ▸ hd
  · exact c.valid_of_read hv hne h

theorem Metadata.valid_of_decode {v : Value} (hv : v.Sound) {m : Metadata}
    (h : decode v = .ok m) : m.Valid :=
  valid_of_part content ⟨by simp, by simp⟩ rfl hv h

theorem JobSpec.valid_empty : ({} : JobSpec).Valid := by
  constructor <;> simp

theorem DeploymentSpec.valid_empty : ({} : DeploymentSpec).Valid := by
  constructor <;> first | exact Content.valid_texts_nil | simp

theorem SessionJobSpec.valid_empty : ({} : SessionJobSpec).Valid := by
  constructor <;> first | exact Content.valid_texts_nil | simp

theorem DeploymentSpec.valid_of_decode {v : Value} (hv : v.Sound) {s : DeploymentSpec}
    (h : decode v = .ok s) : s.Valid :=
  valid_of_part content valid_empty rfl hv h

theorem SessionJobSpec.valid_of_decode {v : Value} (hv : v.Sound) {s : SessionJobSpec}
    (h : decode v = .ok s) : s.Valid :=
  valid_of_part content valid_empty rfl hv h

/-- A `Piece` that was read from a `manifestPart` is `Valid` and `Faithful`, also where there was
none. -/
theorem Piece.valid_of_part {α : Type} (p : Piece α) {default : α}
    (hd : p.Valid default ∧ p.Faithful default) (hnull : p.read .null = .ok default) {v : Value}
    (hv : v.Sound) {a : α} (h : p.read v = .ok a) : p.Valid a ∧ p.Faithful a := by
  by_cases hne : v = .null
  · rw [hne, hnull] at h
    exact Except.ok.inj h ▸ hd
  · exact p.valid_of_read hv hne h

theorem DeploymentStatus.valid_of_read {v : Value} (hv : v.Sound) {s : DeploymentStatus}
    (h : decode v = .ok s) : s.Valid ∧ s.Faithful :=
  piece.valid_of_part valid_empty rfl hv h

theorem SessionJobStatus.valid_of_read {v : Value} (hv : v.Sound) {s : SessionJobStatus}
    (h : decode v = .ok s) : s.Valid ∧ s.Faithful :=
  piece.valid_of_part valid_empty rfl hv h

/-! ## Resources -/

theorem Deployment.decode_eq_ok {v : Value} {d : Deployment} :
    decode v = .ok d ↔ ∃ r, v = .map r ∧
      Metadata.decode (manifestPart r "metadata") = .ok d.metadata ∧
      DeploymentSpec.decode (manifestPart r "spec") = .ok d.spec ∧
      DeploymentStatus.decode (manifestPart r "status") = .ok d.status := by
  cases d
  simp [decode, Outcome.bind_eq_ok, Outcome.map_eq_ok, entriesOf_eq_ok]

theorem SessionJob.decode_eq_ok {v : Value} {j : SessionJob} :
    decode v = .ok j ↔ ∃ r, v = .map r ∧
      Metadata.decode (manifestPart r "metadata") = .ok j.metadata ∧
      SessionJobSpec.decode (manifestPart r "spec") = .ok j.spec ∧
      SessionJobStatus.decode (manifestPart r "status") = .ok j.status := by
  cases j
  simp [decode, Outcome.bind_eq_ok, Outcome.map_eq_ok, entriesOf_eq_ok]

theorem Deployment.decode_encode {m : Value} (hm : m.Sound) {d : Deployment}
    (h : decode m = .ok d) : decode d.encode = .ok d := by
  obtain ⟨r, rfl, h₁, h₂, h₃⟩ := decode_eq_ok.1 h
  -- what was read of each part is settled, and a status that was read is faithful too
  have hs := DeploymentStatus.valid_of_read (sound_manifestPart hm _) h₃
  refine decode_eq_ok.2 ⟨_, rfl, ?_, ?_, ?_⟩
  · exact Metadata.content.read_write (Metadata.valid_of_decode (sound_manifestPart hm _) h₁) h₁
  · exact DeploymentSpec.content.read_write
      (DeploymentSpec.valid_of_decode (sound_manifestPart hm _) h₂) h₂
  · exact DeploymentStatus.piece.read_write hs.1 hs.2

theorem SessionJob.decode_encode {m : Value} (hm : m.Sound) {j : SessionJob}
    (h : decode m = .ok j) : decode j.encode = .ok j := by
  obtain ⟨r, rfl, h₁, h₂, h₃⟩ := decode_eq_ok.1 h
  have hs := SessionJobStatus.valid_of_read (sound_manifestPart hm _) h₃
  refine decode_eq_ok.2 ⟨_, rfl, ?_, ?_, ?_⟩
  · exact Metadata.content.read_write (Metadata.valid_of_decode (sound_manifestPart hm _) h₁) h₁
  · exact SessionJobSpec.content.read_write
      (SessionJobSpec.valid_of_decode (sound_manifestPart hm _) h₂) h₂
  · exact SessionJobStatus.piece.read_write hs.1 hs.2

/-- The specification that `Deployment.decode` reads is `Valid`. -/
theorem Deployment.valid_spec {m : Value} (hm : m.Sound) {d : Deployment} (h : decode m = .ok d) :
    d.spec.Valid := by
  obtain ⟨r, rfl, -, h₂, -⟩ := decode_eq_ok.1 h
  exact DeploymentSpec.valid_of_decode (sound_manifestPart hm _) h₂

theorem SessionJob.valid_spec {m : Value} (hm : m.Sound) {j : SessionJob} (h : decode m = .ok j) :
    j.spec.Valid := by
  obtain ⟨r, rfl, -, h₂, -⟩ := decode_eq_ok.1 h
  exact SessionJobSpec.valid_of_decode (sound_manifestPart hm _) h₂

/-- A resource that `decode` reads from a manifest is read again from what `encode` writes of it, and
its specification, but for the order of entries (`Alike`), from its text by `Spec.deserialize` and
from the record of what was last applied by `lastReconciled`. -/
theorem manifest_reads_back {m : Value} (hm : m.Sound) :
    (∀ d, Deployment.decode m = .ok d →
      Deployment.decode d.encode = .ok d ∧
      (∃ s : DeploymentSpec, Spec.deserialize (Spec.serialize d.spec) = .ok s ∧ s.Alike d.spec) ∧
      ∀ r : ReconciliationStatus, ∃ s : DeploymentSpec,
        (r.record d.spec).lastReconciled = .ok (some s) ∧ s.Alike d.spec) ∧
    (∀ j, SessionJob.decode m = .ok j →
      SessionJob.decode j.encode = .ok j ∧
      (∃ s : SessionJobSpec, Spec.deserialize (Spec.serialize j.spec) = .ok s ∧ s.Alike j.spec) ∧
      ∀ r : ReconciliationStatus, ∃ s : SessionJobSpec,
        (r.record j.spec).lastReconciled = .ok (some s) ∧ s.Alike j.spec) := by
  refine ⟨fun d hd => ?_, fun j hj => ?_⟩
  · have hs := DeploymentSpec.deserialize_serialize (Deployment.valid_spec hm hd)
    exact ⟨Deployment.decode_encode hm hd, ⟨_, hs, d.spec.alike_sorted⟩,
      fun r => ⟨_, r.lastReconciled_record hs, d.spec.alike_sorted⟩⟩
  · have hs := SessionJobSpec.deserialize_serialize (SessionJob.valid_spec hm hj)
    exact ⟨SessionJob.decode_encode hm hj, ⟨_, hs, j.spec.alike_sorted⟩,
      fun r => ⟨_, r.lastReconciled_record hs, j.spec.alike_sorted⟩⟩

/-- A manifest with a nonce as text, a mode by its constant name, and maps out of order. -/
def unsettledManifest : Value :=
  .map [("kind", .text "FlinkDeployment"), ("metadata", .map [("name", .text "basic")]),
    ("spec", .map [
      ("flinkConfiguration", .map [("b", .int 2), ("a", .bool true)]),
      ("podTemplate", .map [("spec", .map [("y", .null), ("x", .real (.zero true))])]),
      ("job", .map [("savepointTriggerNonce", .text " 3 "), ("upgradeMode", .text "LAST_STATE"),
        ("parallelism", .map [("q", .int 1), ("p", .int 0)])])])]

/-- The cluster of the manifest. -/
def settledDeployment : Deployment where
  metadata := { name := some "basic" }
  spec := {
    flinkConfiguration := [("b", some "2"), ("a", some "true")]
    podTemplate := some [("spec", .map [("y", .null), ("x", .real (.zero true))])]
    job := some {
      savepointTriggerNonce := some (.int 3)
      upgradeMode := .lastState
      parallelism := some (.map [("q", .int 1), ("p", .int 0)]) } }

theorem unsettledManifest_reads_back :
    unsettledManifest.Sound ∧ Deployment.decode unsettledManifest = .ok settledDeployment ∧
      Deployment.decode settledDeployment.encode = .ok settledDeployment ∧
      (∃ s : DeploymentSpec, Spec.deserialize (Spec.serialize settledDeployment.spec) = .ok s ∧
        s.Alike settledDeployment.spec) ∧
      ∀ r : ReconciliationStatus, ∃ s : DeploymentSpec,
        (r.record settledDeployment.spec).lastReconciled = .ok (some s) ∧
          s.Alike settledDeployment.spec := by
  have hm : unsettledManifest.Sound := by
    simp [unsettledManifest, Value.Sound, Value.SoundFields, Entries.get?]
  have hd : Deployment.decode unsettledManifest = .ok settledDeployment := by decide +kernel
  exact ⟨hm, hd, (manifest_reads_back hm).1 _ hd⟩

end FlinkSteward
