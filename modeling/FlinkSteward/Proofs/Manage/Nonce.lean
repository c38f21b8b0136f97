import FlinkSteward.Control.Due
import FlinkSteward.Proofs.Manage.Edited
import FlinkSteward.Proofs.Number.Sum

/-!
# Asking for savepoints by a nonce

A manager asks for a savepoint with the nonce after the one that the specification has. What was last
applied has a nonce too, and a nonce of zero asks for nothing: the manager looks at neither.

## Key results

- `Manager.nextNonce_eq_ok`: the next nonce is a number, and when it asks for something
- `Deployment.decode_jobChange`: a cluster after one entry of its job was set
- `requestSavepoint_is_due_iff`: when a savepoint is due after a manager asked for it
-/

namespace FlinkSteward

open Simulation

/-! ## The next nonce -/

namespace Value

variable {v : Value} {n : Number}

@[simp] theorem number?_ofNumber (n : Number) : (ofNumber n).number? = some n := by
  cases n <;> rfl

theorem isTruthy_of_number? (h : v.number? = some n) : v.isTruthy = n.isNonzero := by
  cases v with
  | bool b => cases b <;> exact Option.some.inj h ▸ rfl
  | int i => exact Option.some.inj h ▸ rfl
  | real x => exact Option.some.inj h ▸ rfl
  | _ => exact nomatch h

/-- What a value is the `same` as an integer by is the number it stands for. -/
theorem same_int (v : Value) (i : Int) :
    v.same (.int i) = v.number?.any fun n => n.same (.int i) := by
  cases v <;> simp [same, sameNumber, number?]

/-- Nothing that is not `isTruthy` is -1. -/
theorem same_neg_one_of_not_truthy (h : v.isTruthy = false) : v.same (.int (-1)) = false := by
  rw [same_int]
  cases hn : v.number? with
  | none => rfl
  | some n => exact Number.same_neg_one_of_zero ((isTruthy_of_number? hn).symm.trans h)

end Value

namespace Manager

/-- `nonceAfter` gives a number, which is zero after -1 alone. -/
theorem nonceAfter_eq_ok {nonce next : Value} (h : nonceAfter nonce = .ok next) :
    (∃ n, next = Value.ofNumber n) ∧ next.isTruthy = !nonce.same (.int (-1)) := by
  unfold nonceAfter at h
  split at h
  · -- no nonce, or one that asks for nothing, is followed by one
    rename_i hfalsy
    obtain rfl := Except.ok.inj h
    rw [Value.same_neg_one_of_not_truthy (by simpa using hfalsy)]
    exact ⟨⟨.int 1, rfl⟩, rfl⟩
  · split at h
    · rename_i n hn
      split at h
      · rename_i n' hadd
        obtain rfl := Except.ok.inj h
        rw [Value.same_int, hn, Value.isTruthy_of_number? (Value.number?_ofNumber n')]
        exact ⟨⟨n', rfl⟩, Number.isNonzero_add_one hadd⟩
      · exact nomatch h
    · exact nomatch h

/-- `nonceAfter` gives the same nonce only for a double. -/
theorem real_of_same_nonceAfter {x y : Value} (hnumber : ∃ n, x = Value.ofNumber n)
    (h : nonceAfter x = .ok y) (hsame : y.same x = true) : ∃ z, x = .real z := by
  obtain ⟨n, rfl⟩ := hnumber
  cases n with
  | real z => exact ⟨z, rfl⟩
  | int i =>
    by_cases hi : i = 0
    · subst hi
      obtain rfl := Except.ok.inj h
      exact absurd hsame (by decide)
    · have hnext : nonceAfter (.int i) = .ok (.int (i + 1)) := by
        simp [nonceAfter, Value.isTruthy, Value.number?, hi, Value.ofNumber]
      obtain rfl := Except.ok.inj (hnext.symm.trans h)
      -- the two integers would be equal
      simp [Value.ofNumber, Value.same, Value.sameNumber, Value.number?, Number.same] at hsame

theorem nextNonce_eq_ok {d : Deployment} {next : Value} (h : nextNonce d = .ok next) :
    (∃ n, next = Value.ofNumber n) ∧ next.isTruthy = !(nonceOf d.spec.job).same (.int (-1)) := by
  unfold nextNonce at h
  split at h
  · rename_i job hjob
    rw [hjob]
    exact nonceAfter_eq_ok h
  · rename_i hjob
    obtain rfl := Except.ok.inj h
    rw [hjob]
    exact ⟨⟨.int 1, rfl⟩, rfl⟩

end Manager

/-! ## A cluster with another nonce -/

namespace Deployment

/-- After `Manager.jobChange`, a cluster has the nonce that its job was given, and the status that it
had. -/
theorem decode_jobChange {manifest : Value} {d e : Deployment} {n : Number}
    (hd : decode manifest = .ok d)
    (he : decode (manifest.patch
      (Manager.jobChange "savepointTriggerNonce" (Value.ofNumber n))) = .ok e) :
    e.status = d.status ∧ nonceOf e.spec.job = Value.ofNumber n := by
  have hedited : decode (JobOrder.savepoint.made (.ofNumber n) manifest) =
      .ok (d.edited .savepoint (.ofNumber n)) := JobOrder.decode_made hd ⟨n, rfl⟩
  obtain rfl := Except.ok.inj (hedited.symm.trans he)
  exact ⟨rfl, rfl⟩

end Deployment

/-! ## Requests -/

/-- The cluster that a server keeps under a name. -/
def Simulation.Server.Has (s : Server) (space name : Value) (d : Deployment) : Prop :=
  ∃ manifest, s.manifest? Deployment.plural space name = some manifest ∧
    Deployment.decode manifest = .ok d

/-- Whenever `Manager.requestSavepoint` succeeds, the cluster has the next nonce, and its status is as
before. `isManualDue` holds then exactly when the nonce was not -1 before, whose successor asks for
nothing, and the next nonce is not the one that was last applied. -/
theorem requestSavepoint_is_due_iff {m : Manager Server} {space : Value}
    (hm : m.kubernetes = Server.connection space) {name : String} {s t : Server} {nonce : Value}
    (h : (m.requestSavepoint name).runOn s = (.ok nonce, t)) :
    ∃ before after : Deployment, s.Has space (.text name) before ∧ t.Has space (.text name) after ∧
      after.status = before.status ∧ nonceOf after.spec.job = nonce ∧
      ∀ applied : Option DeploymentSpec, after.status.reconciliation.lastReconciled = .ok applied →
        (isManualDue after.spec.job (applied.bind DeploymentSpec.job) = true ↔
          (nonceOf before.spec.job).same (.int (-1)) = false ∧
            nonce.same (nonceOf (applied.bind DeploymentSpec.job)) = false) := by
  obtain ⟨manifest, u, hmanifest, hrest⟩ := Action.runOn_bind_eq_ok.1 h
  obtain ⟨next, v, hdecided, hrest'⟩ := Action.runOn_bind_eq_ok.1 hrest
  obtain ⟨_, w, hchange, hlast⟩ := Action.runOn_bind_eq_ok.1 hrest'
  obtain ⟨rfl, rfl⟩ : next = nonce ∧ w = t := by simpa using hlast
  -- the nonce is taken from what is stored before, and the same is looked up again for the change
  obtain ⟨hfound, hu⟩ := Manager.manifestOf_eq_ok hm hmanifest
  obtain ⟨hdecode, rfl⟩ := Action.runOn_ofOutcome_eq_ok.1 hdecided
  obtain ⟨before, hbefore, hnext⟩ := Outcome.bind_eq_ok.1 hdecode
  obtain ⟨⟨n, rfl⟩, htruthy⟩ := Manager.nextNonce_eq_ok hnext
  obtain ⟨kept, after, hkept, hpatched, hafter, -⟩ := Manager.change_eq_ok hm hchange
  obtain rfl : kept = manifest := by
    rw [Server.manifest?_congr hu] at hkept
    exact Option.some.inj (hkept.symm.trans hfound)
  obtain ⟨hstatus, hnonce⟩ := Deployment.decode_jobChange hbefore hafter
  refine ⟨before, after, ⟨_, hfound, hbefore⟩, ⟨_, hpatched, hafter⟩, hstatus, hnonce, ?_⟩
  intro applied _
  -- due is a nonce that asks for something and is not the applied one
  rw [isManualDue, hnonce, htruthy]
  simp

/-- A manager with the built-in validators. -/
def askingManager : Manager Server where
  kubernetes := Server.connection (.text "default")
  registry := Registry.create [("state.savepoints.dir", .text "file:///savepoints")] []
  clock := Server.clock

/-- The manifest of a cluster whose nonce is -1. -/
def negativeManifest : Value :=
  .map [("kind", .text Deployment.kind), ("metadata", .map [("name", .text "basic")]),
    ("spec", .map [("flinkVersion", .text "v1_15"),
      ("job", .map [("jarURI", .text "local:///job.jar"), ("savepointTriggerNonce", .int (-1))]),
      ("jobManager", .map [("resource", .map [("memory", .text "1g")])]),
      ("taskManager", .map [("resource", .map [("memory", .text "1g")])])])]

/-- A server with the cluster. -/
def negativeServer : Server where
  resources := [⟨Deployment.plural, .text "default", .text "basic", negativeManifest⟩]

/-- No savepoint is due after one was asked for by the nonce after -1. -/
theorem requestSavepoint_after_minus_one :
    askingManager.kubernetes = Server.connection (.text "default") ∧
      ∃ t, (askingManager.requestSavepoint "basic").runOn negativeServer = (.ok (.int 0), t) ∧
        ∃ after, t.Has (.text "default") (.text "basic") after ∧
          after.status.reconciliation.lastReconciled = .ok (none : Option DeploymentSpec) ∧
          isManualDue after.spec.job none = false := by
  have hanswer : ((askingManager.requestSavepoint "basic").runOn negativeServer).1 =
      .ok (.int 0) := by decide +kernel
  have hrun : (askingManager.requestSavepoint "basic").runOn negativeServer =
      (.ok (.int 0), ((askingManager.requestSavepoint "basic").runOn negativeServer).2) :=
    Prod.ext hanswer rfl
  obtain ⟨before, after, ⟨manifest, hmanifest, hbefore⟩, hafter, hstatus, -, hdue⟩ :=
    requestSavepoint_is_due_iff rfl hrun
  obtain rfl : negativeManifest = manifest := Option.some.inj hmanifest
  have hread : (Deployment.decode negativeManifest).map
      (fun d => (nonceOf d.spec.job, d.status.reconciliation.lastReconciled)) =
        .ok (.int (-1), .ok (none : Option DeploymentSpec)) := by decide +kernel
  rw [hbefore] at hread
  obtain ⟨hnonce, happlied⟩ := Prod.mk.inj (Except.ok.inj hread)
  rw [← hstatus] at happlied
  refine ⟨rfl, _, hrun, after, hafter, happlied, Bool.eq_false_iff.2 fun h => ?_⟩
  -- a savepoint would be due only if the nonce before were another one
  have hother := ((hdue none happlied).1 h).1
  rw [hnonce] at hother
  exact absurd hother (by decide)

end FlinkSteward
