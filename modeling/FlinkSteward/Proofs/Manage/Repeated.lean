import FlinkSteward.Proofs.Manage.Patched
import FlinkSteward.Proofs.Manage.Session
import FlinkSteward.Proofs.Resource.RoundTrip
import FlinkSteward.Proofs.Validation.Combined

/-!
# Changes that are repeated

An order of a job sets one entry of it, the same for every manifest unless a savepoint is asked for.
All other fields stay, and a call that is repeated finds the entry as it would set it. What is lost is
a list that stands where the order goes through maps, and no such manifest gets past the built-in
validators.

## Key results

- `Value.atPath?_patch_behind_of_apart`: a patch with a single entry behind keys
- `JobOrder.not_entersList_of_accepted`: what the built-in validators have seen of a manifest
- `Manager.Leaves`, `Manager.leaves_made`: what an order leaves of a manifest
- `Manager.resources_change_again`: a change that was made already
- `patches_settle`: patches, and the orders that are carried out with them
-/

namespace FlinkSteward

open Simulation
open Value (Step Apart IsMap)

/-! ## One entry behind keys -/

namespace Value

variable {base x v : Value} {keys : List String} {key : String} {s : Step} {place path : List Step}

/-- A value behind keys, each of which is the only one of its map. -/
def behind (keys : List String) (x : Value) : Value :=
  keys.foldr (fun key v => map [(key, v)]) x

theorem sound_single (key : String) (h : v.Sound) : (map [(key, v)]).Sound :=
  sound_map_iff.2 ⟨⟨rfl, trivial⟩, List.forall_mem_singleton.2 h⟩

theorem sound_behind (keys : List String) (hx : x.Sound) : (behind keys x).Sound := by
  induction keys with
  | nil => exact hx
  | cons key keys ih => exact sound_single key ih

theorem child?_single_self (key : String) (v : Value) :
    (map [(key, v)]).child? (.key key) = some v :=
  if_pos rfl

theorem child?_single_of_ne (h : s ≠ .key key) (v : Value) :
    (map [(key, v)]).child? s = none := by
  cases s with
  | item i => rfl
  | key name => exact if_neg fun heq => h (congrArg Step.key heq.symm)

theorem atPath?_behind (keys : List String) (x : Value) :
    (behind keys x).atPath? (keys.map .key) = some x := by
  induction keys with
  | nil => rfl
  | cons key keys ih =>
    rw [List.map_cons, atPath?_cons, behind, List.foldr_cons, child?_single_self]
    exact ih

/-- A path into an empty map `behind` keys leads along them, and to maps only. -/
theorem isMap_of_atPath?_behind {keys : List String}
    (h : (behind keys (map [])).atPath? place = some v) : place <+: keys.map .key ∧ v.IsMap := by
  induction keys generalizing place with
  | nil =>
    cases place with
    | nil => exact ⟨List.nil_prefix, [], (Option.some.inj h).symm⟩
    | cons s place => exact nomatch (atPath?_empty (List.cons_ne_nil s place)).symm.trans h
  | cons key keys ih =>
    cases place with
    | nil => exact ⟨List.nil_prefix, _, (Option.some.inj h).symm⟩
    | cons s place =>
      obtain ⟨w, hw, hrest⟩ := Option.bind_eq_some_iff.1 h
      by_cases hs : s = .key key
      · subst hs
        obtain rfl := Option.some.inj (hw.symm.trans (child?_single_self key _))
        exact ⟨List.cons_prefix_cons.2 ⟨rfl, (ih hrest).1⟩, (ih hrest).2⟩
      · exact nomatch hw.symm.trans (child?_single_of_ne hs _)

/-- What a key leads into is a map. -/
theorem isMap_of_child?_key (h : base.child? (.key key) = some v) : base.IsMap := by
  cases base with
  | map fields => exact ⟨fields, rfl⟩
  | _ => exact nomatch h

/-- A path leaves the way to `place` for an item of a list that stands there. -/
def EntersList (v : Value) (place path : List Step) : Prop :=
  ∃ front i items, front <+: place ∧ front ++ [.item i] <+: path ∧ v.atPath? front = some (list items)

/-- A path that `EntersList` nowhere begins in a map, or leads to nothing. -/
theorem isMap_or_child?_eq_none (h : ¬ base.EntersList place (s :: path)) :
    base.IsMap ∨ base.child? s = none := by
  cases base with
  | map fields => exact .inl ⟨fields, rfl⟩
  | list items =>
    cases s with
    | key name => exact .inr rfl
    | item i => exact absurd ⟨[], i, items, List.nil_prefix, ⟨path, rfl⟩, rfl⟩ h
  | _ => exact .inr (by cases s <;> rfl)

/-- Null leads nowhere, just as nothing does. -/
theorem atPath?_getD_null (o : Option Value) (h : path ≠ []) :
    (o.getD null).atPath? path = o.bind fun v => v.atPath? path := by
  cases o with
  | some v => rfl
  | none =>
    cases path with
    | nil => contradiction
    | cons s path => cases s <;> rfl

theorem EntersList.cons (h : ((base.child? s).getD null).EntersList place path) :
    base.EntersList (s :: place) (s :: path) := by
  obtain ⟨front, i, items, hplace, hpath, hitems⟩ := h
  refine ⟨s :: front, i, items, List.cons_prefix_cons.2 ⟨rfl, hplace⟩,
    List.cons_prefix_cons.2 ⟨rfl, hpath⟩, ?_⟩
  rw [atPath?_cons]
  cases hchild : base.child? s with
  | some v =>
    rw [hchild] at hitems
    exact hitems
  | none =>
    rw [hchild] at hitems
    cases front with
    | nil => exact nomatch hitems
    | cons t front => cases t <;> exact nomatch hitems

/-- A `patch` with a single entry `behind` keys leaves everything that stands `Apart` from it, unless
that `EntersList` on the way. -/
theorem atPath?_patch_behind_of_apart (hx : x.Sound) (hapart : Apart path (keys.map .key))
    (hlist : ¬ base.EntersList (keys.map .key) path) :
    (base.patch (behind keys x)).atPath? path = base.atPath? path := by
  induction keys generalizing base path with
  | nil => exact absurd List.nil_prefix hapart.2
  | cons key keys ih =>
    have hsound : (map [(key, behind keys x)]).Sound := sound_single key (sound_behind keys hx)
    rw [behind, List.foldr_cons, ← behind]
    cases path with
    | nil => exact absurd List.nil_prefix hapart.1
    | cons s path =>
      rw [atPath?_cons, atPath?_cons]
      by_cases hs : s = .key key
      · -- the path goes on with the keys
        subst hs
        have hrest : Apart path (keys.map .key) := apart_cons_iff.1 hapart
        have hne : path ≠ [] := fun hnil => hrest.1 (hnil ▸ List.nil_prefix)
        rw [child?_patch_of_some base hsound ⟨_, rfl⟩ (child?_single_self key _), Option.bind_some,
          ih hrest fun h => hlist h.cons, atPath?_getD_null _ hne]
      · rw [child?_patch_of_none hsound ⟨_, rfl⟩ (child?_single_of_ne hs _)
          (isMap_or_child?_eq_none hlist)]

/-- A path of keys `EntersList` nowhere. -/
theorem not_entersList_keys (v : Value) (place : List Step) (keys : List String) :
    ¬ v.EntersList place (keys.map .key) := by
  rintro ⟨front, i, _, -, hkeys, -⟩
  have hmem : Step.item i ∈ keys.map Step.key := hkeys.subset (by simp)
  simp at hmem

end Value

open Value

/-! ## Manifests with an order -/

open Validation in
/-- The job in a manifest that `validateDeployment` accepts has a program. -/
theorem exists_jar_of_accepted {defaults : Config} {d : Deployment} {r spec job : Entries Value}
    (hd : Deployment.decode (map r) = .ok d) (hspec : r.get? "spec" = some (map spec))
    (hjob : spec.get? "job" = some (map job)) (h : validateDeployment defaults d = .ok none) :
    ∃ jar, job.get? "jarURI" = some jar := by
  obtain ⟨_, ⟨⟩, -, hread, -⟩ := Deployment.decode_eq_ok.1 hd
  rw [manifestPart, hspec, Option.getD_some] at hread
  obtain ⟨_, ⟨⟩, -, -, -, -, -, -, -, -, -, -, hreadJob⟩ :=
    (DeploymentSpec.decode_eq_ok Value.noConfusion).1 hread
  rw [Record.optional.eq_def, Record.lookup_eq_some_iff.2 ⟨hjob, Value.noConfusion⟩] at hreadJob
  obtain ⟨j, hdecode, hj⟩ := Outcome.map_eq_ok.1 hreadJob
  obtain ⟨_, ⟨⟩, -, hjar, -⟩ := (JobSpec.decode_eq_ok Value.noConfusion).1 hdecode
  have haccept := (checkJob_eq_accept_iff.1 (checkJob_of_accepted h j hj.symm)).1
  rw [checkJar, rejectIf_eq_accept_iff] at haccept
  cases hget : job.get? "jarURI" with
  | some jar => exact ⟨jar, rfl⟩
  | none =>
    -- a record without the field is read as a job without a program
    have hnone : none = j.jarUri := by
      simpa [Record.optional, Record.lookup, hget] using hjar
    rw [← hnone] at haccept
    exact Bool.noConfusion haccept

namespace JobOrder

variable {order : JobOrder} {before x : Value} {path : List Step}

/-- The place of the entry that an order sets. -/
def place (order : JobOrder) : List Step :=
  [.key "spec", .key "job", .key order.key]

theorem atPath?_made_self (hx : x.Sound) (hmap : ¬ x.IsMap) (before : Value) :
    (order.made x before).atPath? order.place = some x :=
  (patched_patch before (sound_behind ["spec", "job", order.key] hx)).holds _ x
    (atPath?_behind _ x) hmap

theorem atPath?_made_of_apart (hx : x.Sound) (hapart : Apart path order.place)
    (hlist : ¬ before.EntersList order.place path) :
    (order.made x before).atPath? path = before.atPath? path := by
  have hplace : order.place = ["spec", "job", order.key].map .key := rfl
  rw [hplace] at hapart hlist
  exact atPath?_patch_behind_of_apart hx hapart hlist

/-- `JobOrder.made` changes a manifest that was made with the same order no more. -/
theorem made_made (hx : x.Sound) (before : Value) :
    order.made x (order.made x before) = order.made x before :=
  patch_patch (sound_behind ["spec", "job", order.key] hx) before

/-- If `validateDeployment` accepts what `JobOrder.made` gives, then the program of the job was there
before. -/
theorem exists_jar_before {defaults : Config} {d : Deployment} (hx : x.Sound) (hmap : ¬ x.IsMap)
    (hd : Deployment.decode (order.made x before) = .ok d)
    (h : Validation.validateDeployment defaults d = .ok none) :
    ∃ jar, before.atPath? (["spec", "job", "jarURI"].map .key) = some jar := by
  -- after the order there is a way to its entry
  obtain ⟨spec, hspec, hinner⟩ := Option.bind_eq_some_iff.1 (atPath?_made_self hx hmap before)
  obtain ⟨job, hjob, hlast⟩ := Option.bind_eq_some_iff.1 hinner
  obtain ⟨_, hentry, -⟩ := Option.bind_eq_some_iff.1 hlast
  obtain ⟨r, hr⟩ := isMap_of_child?_key hspec
  obtain ⟨spec, rfl⟩ := isMap_of_child?_key hjob
  obtain ⟨job, rfl⟩ := isMap_of_child?_key hentry
  rw [hr] at hd hspec
  obtain ⟨jar, hjar⟩ := exists_jar_of_accepted hd hspec hjob h
  have hafter : (order.made x before).atPath? (["spec", "job", "jarURI"].map .key) = some jar := by
    rw [hr]
    exact Option.bind_eq_some_iff.2 ⟨_, hspec, Option.bind_eq_some_iff.2 ⟨_, hjob,
      Option.bind_eq_some_iff.2 ⟨_, hjar, rfl⟩⟩⟩
  -- the program is apart from the entry of the order
  have hbeside : Apart (["spec", "job", "jarURI"].map .key) order.place := by
    cases order <;> simp [Apart, place, key, List.cons_prefix_cons]
  exact ⟨jar, (atPath?_made_of_apart hx hbeside (not_entersList_keys _ _ _)).symm.trans hafter⟩

/-- If `validateDeployment` accepts what `JobOrder.made` gives, then no path apart from the entry of
the order `EntersList` on the way to it, which is the way to the program too. -/
theorem not_entersList_of_accepted {defaults : Config} {d : Deployment} (hx : x.Sound)
    (hmap : ¬ x.IsMap) (hd : Deployment.decode (order.made x before) = .ok d)
    (h : Validation.validateDeployment defaults d = .ok none) (hapart : Apart path order.place) :
    ¬ before.EntersList order.place path := by
  obtain ⟨jar, hjar⟩ := exists_jar_before hx hmap hd h
  rintro ⟨front, i, items, hfront, hpath, hitems⟩
  have hshort : front ≠ order.place :=
    fun heq => hapart.2 (heq ▸ (List.prefix_append front _).trans hpath)
  have hway : front <+: ["spec", "job"].map .key :=
    (List.prefix_concat_iff.1 hfront).resolve_left hshort
  obtain ⟨keys, ⟨rest, hrest⟩, rfl⟩ := List.prefix_map_iff.1 hway
  obtain ⟨key, rest', hcons⟩ : ∃ key rest', rest ++ ["jarURI"] = key :: rest' :=
    List.exists_cons_of_ne_nil (by simp)
  have hsplit : ["spec", "job", "jarURI"] = keys ++ key :: rest' := by
    rw [← hcons, ← List.append_assoc, hrest]
    rfl
  obtain ⟨fields, hfields⟩ := exists_map_of_atPath?_keys (hsplit ▸ hjar)
  exact nomatch hfields.symm.trans hitems

end JobOrder

/-! ## Orders that are carried out -/

namespace Manager

variable {m : Manager Server} {space : Value} {name : String} {order : JobOrder}
  {before after : Value} {u v : Server}

/-- `Manager.perform` of an order that asks for no savepoint sets its entry to the same text in all
manifests. -/
theorem perform_change {σ : Type} (m : Manager σ) (name : String) (h : order ≠ .savepoint) :
    ∃ word, (∀ manifest, order.entry manifest = .ok (.text word)) ∧
      m.perform (.change name order) = m.change name (jobChange order.key (.text word)) := by
  cases order with
  | savepoint => exact absurd rfl h
  | suspend | resume | upgradeMode mode => exact ⟨_, fun _ => rfl, rfl⟩

/-- What `JobOrder.made` leaves of the manifest that it found. -/
structure Leaves (m : Manager Server) (order : JobOrder) (before after : Value) : Prop where
  /-- Its entry is set, and this is all that it does. -/
  sets : ∃ x, order.entry before = .ok x ∧ after = order.made x before ∧
    after.atPath? order.place = some x
  /-- Whatever stands apart from the entry is as before, if it is not in a list which stands on the way
  to the entry. -/
  spares : ∀ path, Apart path order.place → ¬ before.EntersList order.place path →
    after.atPath? path = before.atPath? path
  /-- There is no such list under the built-in validator. -/
  guarded : ∀ defaults, Validator.builtIn defaults ∈ m.registry.validators →
    ∀ path, Apart path order.place → after.atPath? path = before.atPath? path

/-- An order `Leaves` what it has to when its entry becomes a text that the validators accept. -/
theorem leaves_made {word : String} (hentry : order.entry before = .ok (.text word))
    (haccepted : m.Accepts (order.made (.text word) before)) :
    m.Leaves order before (order.made (.text word) before) := by
  have hsound : (text word).Sound := sound_text word
  have hmap : ¬ (text word).IsMap := not_isMap_text word
  have hspares : ∀ path, Apart path order.place → ¬ before.EntersList order.place path →
      (order.made (.text word) before).atPath? path = before.atPath? path :=
    fun _ => JobOrder.atPath?_made_of_apart hsound
  refine ⟨⟨_, hentry, rfl, JobOrder.atPath?_made_self hsound hmap before⟩, hspares,
    fun defaults hbuiltIn path hapart => hspares path hapart ?_⟩
  obtain ⟨d, hd, hvalid⟩ := haccepted
  have hjudge := (judgeInTurn_eq_accept_iff _ _).1 hvalid _ hbuiltIn
  exact JobOrder.not_entersList_of_accepted hsound hmap hd
    (Validator.judgeDeployment_builtIn_eq_accept_iff.1 hjudge) hapart

/-- Where a `Manager.change` has nothing left to do, a server keeps all its resources, whether the
change succeeds or fails. -/
theorem resources_change_again (hm : m.kubernetes = Server.connection space) {patch : Value}
    {outcome : Outcome Unit} (hmade : after.patch patch = after)
    (hfound : u.manifest? Deployment.plural space (.text name) = some after)
    (h : (m.change name patch).runOn u = (outcome, v)) : v.resources = u.resources := by
  cases outcome with
  | error f => exact allOrNothing_change hm name patch h
  | ok =>
    obtain ⟨manifest, hmanifest, hwrote⟩ := change_wrote hm h
    obtain rfl : manifest = after := Option.some.inj (hmanifest.symm.trans hfound)
    rw [hwrote.kept, hmade, Server.keep_of_manifest? hfound]

end Manager

/-! ## Patches, and the changes that are made with them -/

/-- `Value.patch` of one object with another gives an object that is `Patched`: everything is in it
that the patch has and that is no object, everything else stays that is apart from what the patch has
put, and the same patch changes nothing any more. So an order for the job of a cluster, if it asks for
no savepoint, `Leaves` everything but its entry of the job when it is first carried out, and does not
change anything that is stored when it is carried out again. -/
theorem patches_settle {m : Manager Server} {space : Value}
    (hm : m.kubernetes = Server.connection space) :
    (∀ {base changes : Entries Value}, (map base).Sound → (map changes).Sound →
      ∃ result, (map base).patch (map changes) = map result ∧ (map result).Sound ∧
        Patched (map base) (map changes) (map result)) ∧
    (∀ {name : String} {order : JobOrder} {s t : Server}, order ≠ .savepoint →
      (m.perform (.change name order)).runOn s = (.ok (), t) →
        ∃ before after, s.manifest? Deployment.plural space (.text name) = some before ∧
          t.manifest? Deployment.plural space (.text name) = some after ∧
          m.Wrote space (.text name) after s t ∧ m.Leaves order before after ∧
          ∀ {u v : Server} {outcome : Outcome Unit},
            u.manifest? Deployment.plural space (.text name) = some after →
            (m.perform (.change name order)).runOn u = (outcome, v) →
              v.resources = u.resources) := by
  refine ⟨fun {base changes} hbase hchanges => ?_, fun {name order s t} horder hrun => ?_⟩
  · obtain ⟨result, hresult⟩ := isMap_patch (map base) ⟨changes, rfl⟩
    refine ⟨result, hresult, ?_⟩
    rw [← hresult]
    exact ⟨sound_patch hchanges hbase, patched_patch (map base) hchanges⟩
  · obtain ⟨word, hentry, hperform⟩ := m.perform_change name horder
    rw [hperform] at hrun ⊢
    obtain ⟨before, hbefore, hwrote⟩ := Manager.change_wrote hm hrun
    refine ⟨before, _, hbefore, hwrote.stored, hwrote,
      Manager.leaves_made (hentry before) hwrote.accepted, fun hfound hagain => ?_⟩
    exact Manager.resources_change_again hm (JobOrder.made_made (sound_text word) before) hfound
      hagain

/-- An object with a job that has a single entry. -/
def jobWith (key : String) (x : Value) : Value :=
  behind ["job", key] x

/-- The order to resume the job of the cluster. -/
def resumption : Order :=
  .change "basic" .resume

/-- What stands at a path of the manifest that a server has of the cluster. -/
def onServer (s : Server) (path : List Step) : Option Value :=
  (s.manifest? Deployment.plural (.text "default") (.text "basic")).bind fun v => v.atPath? path

/-- A job resumes in an object. On a server it resumes when it has been created, and once more. -/
theorem resumption_settles :
    (∃ result, (jobWith "state" (.text "suspended")).patch (jobWith "state" (.text "running")) =
        map result ∧
      (map result).atPath? [.key "job", .key "state"] = some (.text "running") ∧
      (map result).patch (jobWith "state" (.text "running")) = map result) ∧
    guardedManager.kubernetes = Server.connection (.text "default") ∧
      JobOrder.resume ≠ .savepoint ∧
      ∃ s t u, (guardedManager.perform creation).runOn {} = (.ok (), s) ∧
        (guardedManager.perform resumption).runOn s = (.ok (), t) ∧
        (guardedManager.perform resumption).runOn t = (.ok (), u) ∧
        onServer s JobOrder.resume.place = none ∧
        onServer t JobOrder.resume.place = some (.text "running") ∧ u.resources = t.resources := by
  have hserver : guardedManager.kubernetes = Server.connection (.text "default") := rfl
  have horder : JobOrder.resume ≠ .savepoint := JobOrder.noConfusion
  obtain ⟨hpatch, hcalls⟩ := patches_settle hserver
  refine ⟨?_, hserver, horder, ?_⟩
  · obtain ⟨result, hresult, -, hpatched⟩ :=
      hpatch (sound_behind ["job", "state"] (sound_text "suspended"))
        (sound_behind ["job", "state"] (sound_text "running"))
    exact ⟨result, hresult, hpatched.holds _ _ rfl (not_isMap_text _), hpatched.again⟩
  · -- the three calls as one
    let calls : Action Server Unit := do
      guardedManager.perform creation
      guardedManager.perform resumption
      guardedManager.perform resumption
    have hok : (calls.runOn {}).1 = .ok () := by decide +kernel
    rcases hcalled : calls.runOn {} with ⟨_, u⟩
    rw [hcalled] at hok
    obtain rfl := hok
    obtain ⟨_, s, hs, hrest⟩ := Action.runOn_bind_eq_ok.1 hcalled
    obtain ⟨_, t, ht, hu⟩ := Action.runOn_bind_eq_ok.1 hrest
    obtain ⟨before, after, -, hafter, -, hleaves, hagain⟩ := hcalls horder ht
    obtain ⟨x, hentry, -, hx⟩ := hleaves.sets
    have hnew : onServer s JobOrder.resume.place = none := by
      have hcreated : onServer ((guardedManager.perform creation).runOn {}).2
          JobOrder.resume.place = none := by decide +kernel
      rwa [hs] at hcreated
    refine ⟨s, t, u, hs, ht, hu, hnew, ?_, hagain hafter hu⟩
    rw [onServer, hafter, Option.bind_some, hx]
    exact congrArg some (Except.ok.inj hentry).symm

/-- A manager with no validators. -/
def unguardedManager : Manager Server :=
  { guardedManager with registry := ⟨[]⟩ }

/-- A server that has a list in place of the specification of the cluster. -/
def listedServer : Server where
  resources := [⟨Deployment.plural, .text "default", .text "basic",
    map [("metadata", map [("name", .text "basic")]), ("spec", list [.text "v1_15"])]⟩]

/-- A patch that has nothing but objects, and none where there was something else, changes the job all
the same, for an empty object counts where there was nothing. An order that no validator judges loses
what was in a list. -/
theorem patches_reach_further :
    ((jobWith "state" (.text "running")).Sound ∧ (jobWith "limits" (map [])).Sound ∧
      (∀ place u, (jobWith "limits" (map [])).atPath? place = some u → u.IsMap) ∧
      (∀ place b u, (jobWith "limits" (map [])).atPath? place = some u →
        (jobWith "state" (.text "running")).atPath? place = some b → b.IsMap) ∧
      (jobWith "state" (.text "running")).atPath? [.key "job"] =
        some (map [("state", .text "running")]) ∧
      ((jobWith "state" (.text "running")).patch (jobWith "limits" (map []))).atPath? [.key "job"] =
        some (map [("state", .text "running"), ("limits", map [])])) ∧
    ∃ t, (unguardedManager.perform resumption).runOn listedServer = (.ok (), t) ∧
      Apart [.key "spec", .item 0] JobOrder.resume.place ∧
      onServer listedServer [.key "spec", .item 0] = some (.text "v1_15") ∧
      onServer t [.key "spec", .item 0] = none := by
  refine ⟨⟨sound_behind _ (sound_text _), sound_behind _ trivial,
    fun place u hu => (isMap_of_atPath?_behind hu).2, fun place b u hu hb => ?_, by decide +kernel,
    by decide +kernel⟩, ?_⟩
  · have hplace := (isMap_of_atPath?_behind hu).1
    rcases place with _ | ⟨s, _ | ⟨s', place⟩⟩ <;>
      simp only [List.map_cons, List.cons_prefix_cons] at hplace
    · exact ⟨_, (Option.some.inj hb).symm⟩
    · obtain ⟨rfl, -⟩ := hplace
      exact ⟨_, (Option.some.inj hb).symm⟩
    · -- there was nothing that the last of the objects could meet
      obtain ⟨rfl, rfl, -⟩ := hplace
      exact nomatch hb
  · have hok : ((unguardedManager.perform resumption).runOn listedServer).1 = .ok () := by
      decide +kernel
    exact ⟨_, Prod.ext hok rfl, by simp [Apart, JobOrder.place, List.cons_prefix_cons],
      by decide +kernel, by decide +kernel⟩

end FlinkSteward
