import FlinkSteward.Control.Jobs

/-!
# Keeping book

What is recorded on a resource when it was applied to a cluster, when that failed, and when its job
was stopped; and how the record is written to Kubernetes.

- `Subject.recordApplied`, `Subject.recordError`: the outcome of an application
- `Operator.suspend`: stops the job of a resource
- `Operator.persist`: writes the whole status
-/

namespace FlinkSteward

variable {ρ σ : Type} [Resource ρ]

namespace Subject

/-- Records that the specification was applied at a time. -/
def recordApplied (time : Int) : Action (ρ × σ) Unit :=
  modify fun r =>
    let applied := (Resource.reconciliation r).record (Resource.spec r)
    Resource.withError (Resource.withReconciliation r { applied with timestamp := .int time }) none

/-- Records that something went wrong. -/
def recordError (message : String) : Action (ρ × σ) Unit :=
  setError (some message)

end Subject

namespace Operator

/-- Records that the specification was applied now. -/
def recordApplied (o : Operator σ) : Action (ρ × σ) Unit := do
  Subject.recordApplied (← Subject.outside o.now)

/-- Stops the job of a resource, and records that it is suspended and where its savepoint is. -/
def suspend (o : Operator σ) (mode : UpgradeMode) (conf : Config) : Action (ρ × σ) Value := do
  let job : JobStatus ← Subject.job
  let place ← Subject.outside (o.stopJob job.jobIdValue mode conf)
  let now ← Subject.outside o.now
  Subject.modifyJob fun s => { s with state := some (.text "SUSPENDED") }
  match place with
  | .null => pure ()
  | place =>
    Subject.modifySavepoints fun s =>
      s.complete { timeStamp := .int now, location := some place } none
  return place

/-- Writes the whole status of a resource, so that all changes of a pass get there together. -/
def persist (o : Operator σ) : Action (ρ × σ) Unit := do
  let r : ρ ← Subject.get
  let identity := Resource.metadata r
  let _ ← Subject.outside (o.kubernetes.writeStatus (Resource.plural ρ)
    (Value.ofText? identity.name) (Resource.encodeStatus r)
    (Value.ofText? identity.namespaceName))

end Operator

end FlinkSteward
