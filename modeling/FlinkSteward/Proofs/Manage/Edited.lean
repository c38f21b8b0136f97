import FlinkSteward.Proofs.Manage.Session
import FlinkSteward.Proofs.Resource.RoundTrip

/-!
# Clusters with a changed job

What a manifest is read as after an order has set its entry of the job: the same cluster, with the
one field of the job set.

## Key results

- `Deployment.edited`: a cluster whose job an order has changed
- `JobOrder.decode_made`: what is read from a manifest that an order has changed
-/

namespace FlinkSteward

open Record

/-! ## Records with one more entry -/

section Laid

variable {α : Type} {older fields changes : Entries Value} {key other : String} {v : Value}

/-- An entry that is `Laid` leaves the other fields of a record. -/
private theorem lookup_laid_of_ne (h : Laid older [(key, v)] fields) (hne : key ≠ other) :
    lookup fields other = lookup older other := by
  rw [lookup, lookup, h other]
  simp [Entries.get?, hne]

private theorem optional_laid_of_ne (h : Laid older [(key, v)] fields) (hne : key ≠ other)
    (read : Value → Outcome α) : optional fields other read = optional older other read := by
  rw [Record.optional.eq_def, Record.optional.eq_def, lookup_laid_of_ne h hne]

private theorem required_laid_of_ne (h : Laid older [(key, v)] fields) (hne : key ≠ other)
    (default : α) (read : Value → Outcome α) :
    required fields other default read = required older other default read := by
  rw [required, required, lookup_laid_of_ne h hne]

/-- An entry that is `Laid` and no map stands as it is. -/
private theorem lookup_laid_self (h : Laid older [(key, v)] fields) (hmap : ∀ r, v ≠ .map r)
    (hnull : v ≠ .null) : lookup fields key = some v := by
  refine lookup_eq_some_iff.2 ⟨?_, hnull⟩
  rw [h key]
  simp [Entries.get?, Value.patchOver_of_not_map _ hmap]

private theorem required_eq_read (default : α) (read : Value → Outcome α)
    (h : lookup fields key = some v) : required fields key default read = read v := by
  rw [required, h]

/-- `readIfSet` reads a record as the default where it is missing. -/
private theorem readIfSet_of_getD {read : Value → Outcome α} {default a : α} {old : Option Value}
    (hnull : read .null = .ok default) (h : read (old.getD .null) = .ok a) :
    ∃ o, readIfSet read old = .ok o ∧ o.getD default = a := by
  cases old with
  | none =>
    obtain rfl := Except.ok.inj (hnull.symm.trans h)
    exact ⟨none, rfl, rfl⟩
  | some u =>
    by_cases hu : u = .null
    · subst hu
      obtain rfl := Except.ok.inj (hnull.symm.trans h)
      exact ⟨none, rfl, rfl⟩
    · refine ⟨some a, ?_, rfl⟩
      rw [readIfSet, Option.bind_some, Value.nonNull?_of_ne hu]
      exact Outcome.map_eq_ok.2 ⟨a, h, rfl⟩

/-- `Value.patchOver` a record that may have been missing is a change of one that is there
(`Laid`). -/
private theorem patchOver_record {read : Value → Outcome α} {default : α} {old : Option Value}
    {o : Option α} (hold : readIfSet read old = .ok o) (hempty : read (.map []) = .ok default)
    (hmap : ∀ {v a}, v ≠ .null → read v = .ok a → ∃ r, v = .map r) (hd : changes.Distinct) :
    ∃ older fields : Entries Value, Value.patchOver old (.map changes) = .map fields ∧
      Laid older changes fields ∧ read (.map older) = .ok (o.getD default) := by
  obtain ⟨older, fields, hover, hlaid, ⟨rfl, rfl⟩ | ⟨a, rfl, ha⟩⟩ :=
    Piece.readIfSet_eq_ok hold hmap hd
  · exact ⟨[], fields, hover, hlaid, hempty⟩
  · exact ⟨older, fields, hover, hlaid, ha⟩

end Laid

/-! ## Orders -/

namespace JobOrder

variable {order : JobOrder} {manifest x : Value}

/-- A job after an order has set its entry to `x`. -/
def edit (x : Value) (job : JobSpec) : JobOrder → JobSpec
  | suspend => { job with state := some .suspended }
  | resume => { job with state := some .running }
  | savepoint => { job with savepointTriggerNonce := some x }
  | upgradeMode mode => { job with upgradeMode := mode }

/-- What an order can set its entry to. -/
def Fits (x : Value) : JobOrder → Prop
  | suspend => x = .text (Enumeration.written JobState.suspended)
  | resume => x = .text (Enumeration.written JobState.running)
  | savepoint => ∃ n, x = .ofNumber n
  | upgradeMode mode => x = .text (Enumeration.written mode)

/-- What `Fits` an order is a text or a number. -/
private theorem Fits.is_leaf (h : order.Fits x) : (∀ r, x ≠ .map r) ∧ x ≠ .null := by
  cases order with
  | savepoint =>
    obtain ⟨n, rfl⟩ := h
    cases n <;> simp [Value.ofNumber]
  | suspend | resume | upgradeMode =>
    rw [show x = _ from h]
    exact ⟨fun _ => Value.noConfusion, Value.noConfusion⟩

/-- `JobSpec.decode` reads the edited job from a record with the entry of an order. -/
private theorem decode_job {older fields : Entries Value} {job : JobSpec}
    (hfits : order.Fits x) (hold : JobSpec.decode (.map older) = .ok job)
    (h : Laid older [(order.key, x)] fields) :
    JobSpec.decode (.map fields) = .ok (order.edit x job) := by
  obtain ⟨hmap, hnull⟩ := hfits.is_leaf
  have hself := lookup_laid_self h hmap hnull
  obtain ⟨_, ⟨⟩, asked, h₁, h₂, h₃, h₄, h₅, h₆, h₇, h₈, h₉, hasked⟩ :=
    (JobSpec.decode_eq_ok Value.noConfusion).1 hold
  refine (JobSpec.decode_eq_ok Value.noConfusion).2 ⟨fields, rfl, ?_⟩
  -- eight fields are as before, and the ninth is what the order says
  cases order with
  | suspend | resume =>
    obtain rfl := hfits
    simp only [key] at h hself
    have hstate := (required_eq_read JobState.running Enumeration.parse hself).trans
      (Enumeration.parse_encode _)
    simp only [edit, optional_laid_of_ne h, required_laid_of_ne h, hstate, h₁, h₂, h₃, h₄, h₆, h₇, h₈,
      h₉, ne_eq, String.reduceEq, not_false_eq_true, Except.ok.injEq, true_and, exists_eq_left']
  | upgradeMode mode =>
    obtain rfl := hfits
    simp only [key] at h hself
    have hmode := (required_eq_read UpgradeMode.stateless Enumeration.parse hself).trans
      (Enumeration.parse_encode mode)
    simp only [edit, optional_laid_of_ne h, required_laid_of_ne h, hmode, h₁, h₂, h₃, h₄, h₅, h₆, h₇,
      h₉, hasked, ne_eq, String.reduceEq, not_false_eq_true, Except.ok.injEq, true_and, exists_eq_left']
  | savepoint =>
    obtain ⟨n, rfl⟩ := hfits
    simp only [key] at h hself
    have hnonce : Record.optional fields "savepointTriggerNonce" integer =
        .ok (some (Value.ofNumber n)) := by
      rw [Record.optional.eq_def, hself]
      cases n <;> rfl
    simp only [edit, optional_laid_of_ne h, required_laid_of_ne h, hnonce, h₁, h₂, h₃, h₄, h₅, h₇, h₈,
      h₉, hasked, ne_eq, String.reduceEq, not_false_eq_true, Except.ok.injEq, true_and, exists_eq_left']

end JobOrder

/-- A cluster whose job an order has changed; one that had no job has it then. -/
def Deployment.edited (d : Deployment) (order : JobOrder) (x : Value) : Deployment :=
  { d with spec := { d.spec with job := some (order.edit x (d.spec.job.getD {})) } }

/-- `Deployment.decode` reads the `edited` cluster from a manifest after an order has set its entry
(`JobOrder.made`). -/
theorem JobOrder.decode_made {order : JobOrder} {manifest x : Value} {d : Deployment}
    (hd : Deployment.decode manifest = .ok d) (hfits : order.Fits x) :
    Deployment.decode (order.made x manifest) = .ok (d.edited order x) := by
  obtain ⟨r, rfl, hmetadata, hspec, hstatus⟩ := Deployment.decode_eq_ok.1 hd
  refine Deployment.decode_eq_ok.2 ⟨_, Value.patch_map r _, ?_, ?_, ?_⟩
  · rwa [manifestPart_patched r (by decide)]
  · rw [manifestPart_patched_self]
    have hdistinct (key : String) (v : Value) : Entries.Distinct [(key, v)] :=
      distinct_field key (some v)
    -- down to the job, a record that was missing is as an empty one
    have hnull : DeploymentSpec.decode .null = .ok {} := rfl
    obtain ⟨o, hread, ho⟩ := readIfSet_of_getD hnull hspec
    obtain ⟨older, fields, hover, hlaid, hold⟩ := patchOver_record hread rfl
      (fun hne h => ((DeploymentSpec.decode_eq_ok hne).1 h).imp fun _ h => h.1)
      (hdistinct "job" (.map [(order.key, x)]))
    rw [hover]
    rw [ho] at hold
    obtain ⟨_, ⟨⟩, h₁, h₂, h₃, h₄, h₅, h₆, h₇, h₈, h₉, h₁₀, hjob⟩ :=
      (DeploymentSpec.decode_eq_ok Value.noConfusion).1 hold
    rw [optional_eq_readIfSet] at hjob
    obtain ⟨older', fields', hover', hlaid', hold'⟩ := patchOver_record hjob rfl
      (fun hne h => ((JobSpec.decode_eq_ok hne).1 h).imp fun _ h => h.1) (hdistinct order.key x)
    have hget : fields.get? "job" = some (.map fields') := by
      rw [hlaid "job", ← hover']
      simp [Entries.get?]
    have hchanged : Record.optional fields "job" JobSpec.decode =
        .ok (some (order.edit x (d.spec.job.getD {}))) := by
      rw [Record.optional.eq_def, lookup_eq_some_iff.2 ⟨hget, Value.noConfusion⟩]
      exact Outcome.map_eq_ok.2 ⟨_, decode_job hfits hold' hlaid', rfl⟩
    refine (DeploymentSpec.decode_eq_ok Value.noConfusion).2 ⟨fields, rfl, ?_⟩
    simp only [Deployment.edited, optional_laid_of_ne hlaid, required_laid_of_ne hlaid, hchanged, h₁,
      h₂, h₃, h₄, h₅, h₆, h₇, h₈, h₉, h₁₀, ne_eq, String.reduceEq, not_false_eq_true, and_self]
  · rwa [manifestPart_patched r (by decide)]

end FlinkSteward
