import FlinkSteward.Proofs.Manage.Interleaved
import FlinkSteward.Proofs.Manage.Nonce
import FlinkSteward.Proofs.Validation.Combined

/-!
# Two users of one cluster

When two changes of a cluster overlap, each was checked without the other. Most of them are
acceptable together all the same: the exceptions are a job that resumes while a savepoint is asked
for, and one that resumes while it is given another upgrade mode. A change that has seen the other was
checked with it.

## Key results

- `JobOrder.Clash`, `JobOrder.accepted_edited_edited_iff`: when two acceptable orders are acceptable
  together
- `Side.replicate_suffix_iff`: which of its requests a session sends behind the other session
- `concurrent_changes`: what two calls come to that both succeed
- `suspend_and_savepoint`, `resume_and_savepoint`: users who do not get in each other's way, and who do
-/

namespace FlinkSteward

open Simulation

/-! ## Orders that do not go together -/

namespace JobOrder

variable {defaults : Config} {d : Deployment} {order other : JobOrder} {manifest x y : Value}

/-- Two orders that may each be acceptable and not together: the job resumes, and a savepoint is asked
for that has no place to go, or the job is to resume from a savepoint that is not there. -/
def Clash (defaults : Config) (d : Deployment) : JobOrder → JobOrder → Prop
  | resume, savepoint | savepoint, resume =>
    (nonceOf d.spec.job).same (.int (-1)) = false ∧ d.LacksDirectory defaults
  | resume, upgradeMode .savepoint | upgradeMode .savepoint, resume => d.LacksRestorePoint
  | _, _ => False

/-- The `entry` that an order decides on `Fits` it. -/
theorem fits_of_entry (h : order.entry manifest = .ok x) : order.Fits x := by
  cases order with
  | savepoint =>
    obtain ⟨d, -, hnext⟩ := Outcome.bind_eq_ok.1 h
    exact (Manager.nextNonce_eq_ok hnext).1
  | suspend | resume | upgradeMode => exact (Except.ok.inj h).symm

/-- The state of a job that was edited by two orders comes from one of them, and so does the upgrade
mode. -/
private theorem accepted_edited_iff {job : JobSpec}
    (hfirst : Validation.validateDeployment defaults (d.withJob (order.edit x job)) = .ok none)
    (hlast : Validation.validateDeployment defaults (d.withJob (other.edit y job)) = .ok none) :
    Validation.validateDeployment defaults (d.withJob (other.edit y (order.edit x job))) = .ok none ↔
      ¬((other.edit y (order.edit x job)).nonce.isTruthy ∧
        (other.edit y (order.edit x job)).state = some .running ∧ d.LacksDirectory defaults) ∧
      ¬((other.edit y (order.edit x job)).state = some .running ∧
        (other.edit y (order.edit x job)).upgradeMode = .savepoint ∧ d.LacksRestorePoint) := by
  have hjar (order : JobOrder) (x : Value) (job : JobSpec) :
      (order.edit x job).jarUri = job.jarUri := by
    cases order <;> rfl
  have hparallelism (order : JobOrder) (x : Value) (job : JobSpec) :
      (order.edit x job).parallelism = job.parallelism := by
    cases order <;> rfl
  cases other with
  | suspend | resume => exact Validation.accepted_withJob_iff hlast hfirst rfl rfl rfl rfl
  | savepoint => exact Validation.accepted_withJob_iff hfirst hfirst rfl rfl rfl rfl
  | upgradeMode mode =>
    exact Validation.accepted_withJob_iff hfirst hlast rfl rfl (hjar order x job)
      (hparallelism order x job)

theorem nextNonce_of_savepoint (hd : Deployment.decode manifest = .ok d)
    (hx : savepoint.entry manifest = .ok x) : Manager.nextNonce d = .ok x := by
  rwa [entry, hd] at hx

theorem isTruthy_of_savepoint (hd : Deployment.decode manifest = .ok d)
    (hx : savepoint.entry manifest = .ok x) :
    x.isTruthy ↔ (nonceOf d.spec.job).same (.int (-1)) = false := by
  rw [(Manager.nextNonce_eq_ok (nextNonce_of_savepoint hd hx)).2, Bool.not_eq_true']

/-- `validateDeployment` accepts two acceptable orders together unless they `Clash`. -/
theorem accepted_edited_edited_iff (hd : Deployment.decode manifest = .ok d)
    (hx : order.entry manifest = .ok x) (hy : other.entry manifest = .ok y)
    (hfirst : Validation.validateDeployment defaults (d.edited order x) = .ok none)
    (hlast : Validation.validateDeployment defaults (d.edited other y) = .ok none) :
    Validation.validateDeployment defaults ((d.edited order x).edited other y) = .ok none ↔
      ¬Clash defaults d order other := by
  have hfirst' := (Validation.accepted_withJob_iff hfirst hfirst rfl rfl rfl rfl).1 hfirst
  have hlast' := (Validation.accepted_withJob_iff hlast hlast rfl rfl rfl rfl).1 hlast
  refine (accepted_edited_iff hfirst hlast).trans ?_
  clear hfirst hlast
  generalize d.spec.job.getD {} = job at hfirst' hlast' ⊢
  -- of the two pairs of fields that the rules look at, one order may have left both as they are
  cases order with
  | suspend =>
    cases other <;> simp_all [edit, Clash]
  | resume =>
    cases other with
    | suspend | resume => simp_all [edit, Clash]
    | savepoint =>
      have hnonce := isTruthy_of_savepoint hd hy
      simp_all [edit, Clash, JobSpec.nonce, Value.ofOption]
    | upgradeMode mode =>
      cases mode <;> simp_all [edit, Clash, JobSpec.nonce]
  | savepoint =>
    cases other with
    | suspend => simp_all [edit, Clash]
    | savepoint => simp_all [edit, Clash, JobSpec.nonce]
    | resume =>
      have hnonce := isTruthy_of_savepoint hd hx
      simp_all [edit, Clash, JobSpec.nonce, Value.ofOption]
    | upgradeMode mode => simp_all [edit, Clash, JobSpec.nonce]
  | upgradeMode mode =>
    cases other with
    | suspend | savepoint | upgradeMode => simp_all [edit, Clash, JobSpec.nonce]
    | resume => cases mode <;> simp_all [edit, Clash, JobSpec.nonce]

end JobOrder

/-! ## Two orders in a row -/

/-- Savepoints that are asked for one after the other are asked for by one nonce and the `nonceAfter`
it. -/
theorem JobOrder.nonceAfter_of_made {before x y : Value} {d : Deployment}
    (hd : Deployment.decode before = .ok d) (hx : savepoint.entry before = .ok x)
    (hy : savepoint.entry (savepoint.made x before) = .ok y) :
    Manager.nonceAfter x = .ok y ∧ (y.same x = true → ∃ z, x = .real z) := by
  have hnumber : ∃ n, x = .ofNumber n := fits_of_entry hx
  have hnext : Manager.nonceAfter x = .ok y := nextNonce_of_savepoint (decode_made hd (fits_of_entry hx)) hy
  exact ⟨hnext, Manager.real_of_same_nonceAfter hnumber hnext⟩

/-- A manager with the built-in validators and extra ones `Accepts` what all of them accept. -/
theorem Manager.accepts_iff {σ : Type} {m : Manager σ} {defaults : Config} {extra : List Validator}
    (hregistry : m.registry = Registry.create defaults extra) {manifest : Value} {d : Deployment}
    (hd : Deployment.decode manifest = .ok d) :
    m.Accepts manifest ↔ Validation.validateDeployment defaults d = .ok none ∧
      ∀ v ∈ extra, (v.configure defaults).judgeDeployment d = .ok none := by
  rw [Accepts, hregistry]
  constructor
  · rintro ⟨e, he, haccepted⟩
    obtain rfl := Except.ok.inj (hd.symm.trans he)
    exact Registry.validateDeployment_create_eq_accept_iff.1 haccepted
  · exact fun haccepted => ⟨d, hd, Registry.validateDeployment_create_eq_accept_iff.2 haccepted⟩

/-- The built-in validators accept two orders one after the other that a manager `Grants` for what was
there before, unless they `Clash`. -/
theorem Manager.accepts_made_made_iff {σ : Type} {m : Manager σ} {defaults : Config}
    {extra : List Validator} (hregistry : m.registry = Registry.create defaults extra)
    {order other : JobOrder} {before x y : Value} {d : Deployment}
    (hd : Deployment.decode before = .ok d) (hx : m.Grants order before before x)
    (hy : m.Grants other before before y) :
    m.Accepts (other.made y (order.made x before)) ↔ ¬JobOrder.Clash defaults d order other ∧
      ∀ v ∈ extra, (v.configure defaults).judgeDeployment ((d.edited order x).edited other y) =
        .ok none := by
  have hdx := JobOrder.decode_made hd (JobOrder.fits_of_entry hx.entry)
  have hdy := JobOrder.decode_made hd (JobOrder.fits_of_entry hy.entry)
  have hfirst := ((accepts_iff hregistry hdx).1 hx.accepts).1
  have hlast := ((accepts_iff hregistry hdy).1 hy.accepts).1
  rw [accepts_iff hregistry (JobOrder.decode_made hdx (JobOrder.fits_of_entry hy.entry)),
    JobOrder.accepted_edited_edited_iff hd hx.entry hy.entry hfirst hlast]

/-! ## Schedules that end with one session -/

/-- How often a session comes at the end of a schedule, before which the other one was. -/
theorem Side.replicate_suffix_iff (first : Side) (earlier : List Side) (k n : Nat) :
    List.replicate k first.other <:+ earlier ++ first :: List.replicate n first.other ↔ k ≤ n := by
  have hlater : first :: List.replicate n first.other <:+
      earlier ++ first :: List.replicate n first.other := List.suffix_append _ _
  constructor
  · intro h
    by_contra hk
    have hwithin := List.suffix_of_suffix_length_le hlater h (by simp; omega)
    exact first.other_ne (List.eq_of_mem_replicate (hwithin.subset List.mem_cons_self)).symm
  · intro hk
    have hwithin : List.replicate k first.other <:+ List.replicate n first.other :=
      ⟨List.replicate (n - k) _, by rw [List.replicate_append_replicate, Nat.sub_add_cancel hk]⟩
    exact (hwithin.trans (List.suffix_cons _ _)).trans hlater

theorem Side.getLast?_schedule (first : Side) (earlier : List Side) (n : Nat) :
    (earlier ++ first :: List.replicate (n + 1) first.other).getLast? = some first.other := by
  rw [List.replicate_succ', ← List.cons_append, ← List.append_assoc, List.getLast?_concat]

/-- What was seen first and last, of two manifests that were seen one after the other. -/
private theorem eq_of_seen {a b : Nat} {old new first last : Value}
    (hfirst : (List.replicate a old ++ List.replicate b new).head? = some first)
    (hlast : (List.replicate a old ++ List.replicate b new).getLast? = some last) :
    first = (if a = 0 then new else old) ∧ last = if b = 0 then old else new := by
  rw [List.head?_append, List.head?_replicate, List.head?_replicate] at hfirst
  rw [List.getLast?_append, List.getLast?_replicate, List.getLast?_replicate] at hlast
  constructor
  · split <;> simp_all
  · split <;> simp_all

/-- Two calls of `Manager.call` for one cluster both succeed, by requests that were served in the
order of a `schedule`. The one that sends the last request has its change made on top of the other.

If it has looked the cluster up after the other change, then its check was one of what is stored in
the end. If not, then the built-in validators accept what is stored unless the orders `Clash`, and
whether extra validators do is as they say.

Two requests for savepoints are made by two nonces if all look-ups of one come after the change of the
other, and by the same nonce otherwise. A nonce is the `nonceAfter` the one before, which leaves no
more than some doubles as they are. -/
theorem concurrent_changes {m : Manager Server} {space : Value}
    (hm : m.kubernetes = Server.connection space) {name : String} {orders : Side → JobOrder}
    {server : Server} {before : Value} {d : Deployment}
    (hstored : server.manifest? Deployment.plural space (.text name) = some before)
    (hd : Deployment.decode before = .ok d) {schedule : List Side} {c : Contest}
    (hrun : (Contest.ofOrders m name orders server).run schedule = some c) {results : Side → Value}
    (hended : ∀ side, c.session side = .ended (.ok (results side))) :
    (∀ side, (m.session name (orders side)).sentOver m.kubernetes = m.call name (orders side)) ∧
    ∃ last final e, schedule.getLast? = some last ∧
      c.server.manifest? Deployment.plural space (.text name) = some final ∧
      Deployment.decode final = .ok e ∧
      ([last, last] <:+ schedule → m.Accepts final) ∧
      (∀ defaults extra, m.registry = Registry.create defaults extra →
        (m.Accepts final ↔
          ([last, last] <:+ schedule ∨ ¬JobOrder.Clash defaults d (orders last.other) (orders last)) ∧
          ∀ v ∈ extra, (v.configure defaults).judgeDeployment e = .ok none)) ∧
      ((∀ side, orders side = .savepoint) →
        ([last, last, last] <:+ schedule →
          Manager.nonceAfter (results last.other) = .ok (results last) ∧
            ((results last).same (results last.other) = true → ∃ z, results last.other = .real z)) ∧
        (¬[last, last, last] <:+ schedule → results last = results last.other)) := by
  refine ⟨fun side => m.sentOver_session name (orders side), ?_⟩
  have hplace : m.place = space := by
    rw [Manager.place, hm]
    rfl
  rw [← hplace] at hstored ⊢
  have hstage := Contest.Stage.of_run hstored hrun
  cases hstage with
  | failed hfailed =>
    rw [hended] at hfailed
    cases hfailed
  | untouched _ hlooked =>
    obtain ⟨n, hn⟩ := hlooked .left
    exact absurd (hended .left) (Contest.Stage.ne_ok_of_looked hn _)
  | halfway _ _ _ hlooked => exact absurd (hended _) (Contest.Stage.ne_ok_of_looked hlooked _)
  | settled hgrants hx hgrants' hfirst hlast hlength hstored' hy =>
    rename_i first x y u v a b earlier
    rw [hended] at hx hy
    have hsuffix (k : Nat) := first.replicate_suffix_iff earlier k (b + 1)
    obtain ⟨rfl, rfl⟩ := eq_of_seen hfirst hlast
    have hdx := JobOrder.decode_made hd (JobOrder.fits_of_entry hgrants.entry)
    have hdy := JobOrder.decode_made hdx (JobOrder.fits_of_entry hgrants'.entry)
    -- the last change was checked on what the first one has made if it was looked up after that
    have hafter (hb : b ≠ 0) : m.Accepts
        ((orders first.other).made y ((orders first).made x before)) := by
      simpa only [if_neg hb] using hgrants'.accepts
    refine ⟨first.other, _, _, first.getLast?_schedule earlier b, hstored', hdy, fun h => ?_, ?_, ?_⟩
    · exact hafter (by have := (hsuffix 2).1 h; omega)
    · intro defaults extra hregistry
      rw [Side.other_other]
      by_cases hb : b = 0
      · -- both changes were checked on what was there before
        have hneither : ¬[first.other, first.other] <:+
            earlier ++ first :: List.replicate (b + 1) first.other :=
          fun h => absurd ((hsuffix 2).1 h) (by omega)
        have hlooks := (orders first.other).looks_pos
        rw [if_pos hb, if_neg (by omega)] at hgrants'
        rw [Manager.accepts_made_made_iff hregistry hd hgrants hgrants', or_iff_right hneither]
      · rw [Manager.accepts_iff hregistry hdy]
        exact and_congr_left fun _ => iff_of_true
          ((Manager.accepts_iff hregistry hdy).1 (hafter hb)).1 (.inl ((hsuffix 2).2 (by omega)))
    · intro hsavepoints
      simp only [hsavepoints] at hgrants hgrants' hlength hx hy
      have hfirst : results first = x := Except.ok.inj (Session.ended.inj hx)
      have hlast : results first.other = y := Except.ok.inj (Session.ended.inj hy)
      have hlooks : a + b = 2 := hlength
      rw [Side.other_other, hfirst, hlast]
      constructor
      · intro h
        have hlater := (hsuffix 3).1 h
        rw [if_pos (by omega)] at hgrants'
        exact JobOrder.nonceAfter_of_made hd hgrants.entry hgrants'.entry
      · intro h
        have hearlier := mt (hsuffix 3).2 h
        rw [if_neg (by omega)] at hgrants'
        exact Except.ok.inj (hgrants'.entry.symm.trans hgrants.entry)

/-! ## Users in each other's way -/

/-- The manifest of a cluster whose job has run and is suspended, with more entries of the job. -/
def pausedManifest (more : Entries Value) : Value :=
  .map [("kind", .text Deployment.kind), ("metadata", .map [("name", .text "basic")]),
    ("spec", .map [("flinkVersion", .text "v1_15"),
      ("job", .map ([("jarURI", .text "local:///job.jar"), ("state", .text "suspended")] ++ more))]),
    ("status", .map [("reconciliationStatus", .map [
      ("lastReconciledSpec", .text "\x7b\"job\": \x7b\x7d\x7d")])])]

/-- Two users at a server with the cluster. -/
def pausedContest (left right : JobOrder) (more : Entries Value) : Contest :=
  .ofOrders guardedManager "basic" (fun | .left => left | .right => right)
    { resources := [⟨Deployment.plural, .text "default", .text "basic", pausedManifest more⟩] }

/-- What two users are told, and what is kept at the end of a schedule. -/
def Contest.ending (c : Contest) (schedule : List Side) :
    Option (Option (Outcome Value) × Option (Outcome Value) × Option Value) :=
  (c.run schedule).map fun c => ((c.session .left).outcome?, (c.session .right).outcome?,
    c.server.manifest? Deployment.plural (.text "default") (.text "basic"))

theorem Contest.run_of_ending {c : Contest} {schedule : List Side} {left right : Value}
    {final : Option Value}
    (h : c.ending schedule = some (some (.ok left), some (.ok right), final)) :
    ∃ c', c.run schedule = some c' ∧
      (∀ side : Side, c'.session side = .ended (.ok (match side with
        | .left => left
        | .right => right))) ∧
      c'.server.manifest? Deployment.plural (.text "default") (.text "basic") = final := by
  obtain ⟨c', hrun, hending⟩ := Option.map_eq_some_iff.1 h
  obtain ⟨hleft, hrest⟩ := Prod.mk.inj hending
  obtain ⟨hright, hfinal⟩ := Prod.mk.inj hrest
  refine ⟨c', hrun, fun side => ?_, hfinal⟩
  cases side with
  | left => exact Session.outcome?_eq_some hleft
  | right => exact Session.outcome?_eq_some hright

/-- A job is suspended once more while a savepoint is asked for. The two changes overlap, and the
manager `Accepts` them together. -/
theorem suspend_and_savepoint :
    guardedManager.kubernetes = Server.connection (.text "default") ∧
      ∃ d, Deployment.decode (pausedManifest []) = .ok d ∧
      ∃ c, (pausedContest .suspend .savepoint []).run [.right, .right, .left, .left, .right] = some c ∧
      (∀ side : Side, c.session side = .ended (.ok (match side with
        | .left => .null
        | .right => .int 1))) ∧
      ∃ final, c.server.manifest? Deployment.plural (.text "default") (.text "basic") = some final ∧
        guardedManager.Accepts final := by
  have haccepts : guardedManager.Accepts (pausedManifest []) :=
    Manager.check_eq_ok.1 (by decide +kernel)
  obtain ⟨d, hd, -⟩ := haccepts
  have hending : (pausedContest .suspend .savepoint []).ending [.right, .right, .left, .left, .right] =
      some (some (.ok .null), some (.ok (.int 1)), some (((pausedManifest []).patch
        (Manager.jobChange "state" (.text "suspended"))).patch
          (Manager.jobChange "savepointTriggerNonce" (.int 1)))) := by decide +kernel
  obtain ⟨c, hrun, hended, -⟩ := Contest.run_of_ending hending
  obtain ⟨-, last, final, e, hlast, hfinal, -, -, haccepted, -⟩ :=
    concurrent_changes rfl rfl hd hrun hended
  obtain rfl : Side.right = last := Option.some.inj hlast
  refine ⟨rfl, d, hd, c, hrun, hended, final, hfinal, ?_⟩
  exact (haccepted [] [] rfl).2 ⟨.inr fun hclash => hclash, nofun⟩

/-- A double to which one makes no difference. -/
def tenToSixteen : Value :=
  .real (Double.ofDecimal false 1 16)

/-- A job resumes while a savepoint is asked for, with no place to go. Each of the changes is
acceptable for what both users have looked up, and what is stored in the end is not. Savepoints that
are asked for at a time are asked for by one nonce; and so they are one after the other, if the nonce
is a double that one is too little for. -/
theorem resume_and_savepoint :
    guardedManager.Accepts (pausedManifest []) ∧
    (∃ c final,
      (pausedContest .resume .savepoint []).run [.right, .right, .left, .left, .right] = some c ∧
      (∀ side, ∃ result, c.session side = .ended (.ok result)) ∧
      c.server.manifest? Deployment.plural (.text "default") (.text "basic") = some final ∧
      ¬guardedManager.Accepts final) ∧
    (∃ c, (pausedContest .savepoint .savepoint []).run [.left, .right, .left, .right, .left, .right] =
        some c ∧ ∀ side, c.session side = .ended (.ok (.int 1))) ∧
    ∃ c, (pausedContest .savepoint .savepoint [("savepointTriggerNonce", tenToSixteen)]).run
        [.left, .left, .left, .right, .right, .right] = some c ∧
      ∀ side, c.session side = .ended (.ok tenToSixteen) := by
  refine ⟨Manager.check_eq_ok.1 (by decide +kernel), ?_, ?_, ?_⟩
  · have hending : (pausedContest .resume .savepoint []).ending
        [.right, .right, .left, .left, .right] =
          some (some (.ok .null), some (.ok (.int 1)), some (((pausedManifest []).patch
            (Manager.jobChange "state" (.text "running"))).patch
              (Manager.jobChange "savepointTriggerNonce" (.int 1)))) := by decide +kernel
    obtain ⟨c, hrun, hended, hfinal⟩ := Contest.run_of_ending hending
    refine ⟨c, _, hrun, fun side => ⟨_, hended side⟩, hfinal, fun haccepts => ?_⟩
    exact absurd (Manager.check_eq_ok.2 haccepts) (by decide +kernel)
  · have hending : (pausedContest .savepoint .savepoint []).ending
        [.left, .right, .left, .right, .left, .right] =
          some (some (.ok (.int 1)), some (.ok (.int 1)), some (((pausedManifest []).patch
            (Manager.jobChange "savepointTriggerNonce" (.int 1))).patch
              (Manager.jobChange "savepointTriggerNonce" (.int 1)))) := by decide +kernel
    obtain ⟨c, hrun, hended, -⟩ := Contest.run_of_ending hending
    exact ⟨c, hrun, fun side => by cases side <;> exact hended _⟩
  · have hending : (pausedContest .savepoint .savepoint
        [("savepointTriggerNonce", tenToSixteen)]).ending
          [.left, .left, .left, .right, .right, .right] =
          some (some (.ok tenToSixteen), some (.ok tenToSixteen),
            some (((pausedManifest [("savepointTriggerNonce", tenToSixteen)]).patch
              (Manager.jobChange "savepointTriggerNonce" tenToSixteen)).patch
                (Manager.jobChange "savepointTriggerNonce" tenToSixteen))) := by decide +kernel
    obtain ⟨c, hrun, hended, -⟩ := Contest.run_of_ending hending
    exact ⟨c, hrun, fun side => by cases side <;> exact hended _⟩

end FlinkSteward
