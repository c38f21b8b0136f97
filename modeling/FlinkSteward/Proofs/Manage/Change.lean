import FlinkSteward.Manage.Manager
import FlinkSteward.Proofs.Resource.Spec
import FlinkSteward.Proofs.Simulation.Server

/-!
# Changes by a manager

A manager looks a cluster up, has its validators judge the cluster as it will be, and only then
sends the change. One that fails leaves everything that is stored as it was.

## Key results

- `Manager.Wrote`: what a change leaves behind
- `Manager.change_wrote`, `Manager.allOrNothing_change`: changes of clusters
- `Manager.deploy_wrote`, `Manager.allOrNothing_deploy`: creations of clusters
-/

namespace FlinkSteward

open Simulation

theorem Value.item_eq_ok {v x : Value} {key : String} :
    v.item key = .ok x ↔ ∃ fields : Entries Value, v = .map fields ∧ fields.get? key = some x := by
  unfold item
  split
  · rename_i fields
    split
    · rename_i y hy
      simp [hy]
    · rename_i hnone
      simp [hnone]
  · simp
  · simp
  · rename_i hmap _ _
    simp only [reduceCtorEq, false_iff]
    rintro ⟨fields, rfl, -⟩
    exact hmap fields rfl

namespace Manager

/-- The validators of a manager accept the cluster that `Deployment.decode` reads from a manifest. -/
def Accepts {σ : Type} (m : Manager σ) (manifest : Value) : Prop :=
  ∃ d, Deployment.decode manifest = .ok d ∧ m.registry.validateDeployment d = .ok none

theorem check_eq_ok {σ : Type} {m : Manager σ} {manifest : Value} :
    m.check manifest = .ok () ↔ m.Accepts manifest := by
  rw [check, Outcome.bind_eq_ok, Accepts]
  refine exists_congr fun d => and_congr_right fun _ => ?_
  rcases m.registry.validateDeployment d with _ | _ | reason
  · exact ⟨nofun, nofun⟩
  · exact ⟨fun _ => rfl, fun _ => rfl⟩
  · exact ⟨nofun, nofun⟩

variable {m : Manager Server} {space place : Value} {name : String} {s t u : Server}

/-- Between the states `s` and `t` a manager has sent look-ups and then a single change. That has left
a manifest under a name, which the manager `Accepts`, and the other custom resources are as they
were. -/
structure Wrote (m : Manager Server) (space name manifest : Value) (s t : Server) : Prop where
  sent : ∃ reads write, t.sent = s.sent ++ reads ++ [write] ∧
    (∀ r ∈ reads, r.isWrite = false) ∧ write.isWrite = true
  kept : t.resources = Server.keep ⟨Deployment.plural, space, name, manifest⟩ s.resources
  accepted : m.Accepts manifest

namespace Wrote

variable {id manifest : Value}

theorem stored (h : m.Wrote space id manifest s t) :
    t.manifest? Deployment.plural space id = some manifest :=
  Server.manifest?_of_keep h.kept

/-- What is found under any name after a manager `Wrote` was found there before, or the manager
`Accepts` it. -/
theorem manifest? (h : m.Wrote space id manifest s t) {plural : String} {place name found : Value}
    (hfound : t.manifest? plural place name = some found) :
    s.manifest? plural place name = some found ∨ m.Accepts found := by
  by_cases hkey : Server.isAt plural place name ⟨Deployment.plural, space, id, manifest⟩ = true
  · -- the name of the change itself
    obtain ⟨rfl, rfl, rfl⟩ := Server.isAt_iff.1 hkey
    obtain rfl : manifest = found := Option.some.inj (h.stored.symm.trans hfound)
    exact .inr h.accepted
  · rw [Server.manifest?_of_keep_ne h.kept (Bool.eq_false_iff.2 hkey)] at hfound
    exact .inl hfound

/-- A look-up may come before what a manager `Wrote`. -/
theorem after_read (h : m.Wrote space id manifest u t) {r : Kubernetes.Request}
    (hr : r.isWrite = false) (hsent : u.sent = s.sent ++ [r]) (hres : u.resources = s.resources) :
    m.Wrote space id manifest s t where
  sent := by
    obtain ⟨reads, write, hlater, hreads, hwrite⟩ := h.sent
    refine ⟨r :: reads, write, ?_, List.forall_mem_cons.2 ⟨hr, hreads⟩, hwrite⟩
    rw [hlater, hsent, List.append_assoc s.sent, List.singleton_append]
  kept := hres ▸ h.kept
  accepted := h.accepted

end Wrote

/-! ## Look-ups -/

/-- The look-up of a cluster. -/
def lookUp (space : Value) (name : String) : Kubernetes.Request :=
  .get space Deployment.plural (.text name)

theorem snd_runOn_manifestOf (m : Manager Server) (name : String) (s : Server) :
    ((m.manifestOf name).runOn s).2 =
      ((m.kubernetes.send (.get (m.kubernetes.spaceOf .null) Deployment.plural
        (.text name))).runOn s).2 := by
  rw [manifestOf, Action.runOn_bind, Kubernetes.get, ← Kubernetes.snd_runOn_orMissing]
  rcases (Kubernetes.orMissing (m.kubernetes.send _)).runOn s with ⟨_ | _ | manifest, v⟩ <;> rfl

theorem sent_manifestOf (hm : m.kubernetes = Server.connection space) (name : String) (s : Server) :
    ((m.manifestOf name).runOn s).2.sent = s.sent ++ [lookUp space name] := by
  rw [snd_runOn_manifestOf, hm]
  exact Server.sent_answer s _

theorem looksOnly_manifestOf (hm : m.kubernetes = Server.connection space) (name : String) :
    Server.LooksOnly (m.manifestOf name) := by
  intro s
  rw [snd_runOn_manifestOf, hm]
  exact Server.resources_answer_of_read s rfl

theorem manifestOf_eq_ok (hm : m.kubernetes = Server.connection space) {manifest : Value}
    (h : (m.manifestOf name).runOn s = (.ok manifest, t)) :
    s.manifest? Deployment.plural space (.text name) = some manifest ∧
      t.resources = s.resources := by
  obtain ⟨found, u, hget, hrest⟩ := Action.runOn_bind_eq_ok.1 h
  rw [hm] at hget
  cases found with
  | none => simp at hrest
  | some x =>
    obtain ⟨rfl, rfl⟩ : x = manifest ∧ u = t := by simpa using hrest
    exact Server.get_eq_ok hget

/-! ## Changes -/

/-- What `Manager.change` `Wrote` when it succeeds is all that it has sent beside look-ups. It is made
of what was kept under the name, in a way that the validators accept. -/
theorem change_wrote (hm : m.kubernetes = Server.connection space) {patch : Value}
    (h : (m.change name patch).runOn s = (.ok (), t)) :
    ∃ manifest, s.manifest? Deployment.plural space (.text name) = some manifest ∧
      m.Wrote space (.text name) (manifest.patch patch) s t := by
  obtain ⟨manifest, u, hlook, hrest⟩ := Action.runOn_bind_eq_ok.1 h
  obtain ⟨_, v, hcheck, hrest'⟩ := Action.runOn_bind_eq_ok.1 hrest
  obtain ⟨reply, w, hpatch, hlast⟩ := Action.runOn_bind_eq_ok.1 hrest'
  obtain ⟨haccepted, rfl⟩ := Action.runOn_ofOutcome_eq_ok.1 hcheck
  obtain ⟨-, rfl⟩ := Action.runOn_pure_eq_ok.1 hlast
  obtain ⟨hfound, hres⟩ := manifestOf_eq_ok hm hlook
  have hsent := sent_manifestOf hm name s
  rw [hlook] at hsent
  -- what was looked up is what was checked with the change, and what the server changes
  rw [hm] at hpatch
  obtain ⟨hlast, kept, hkept, hafter⟩ := Server.patch_eq_ok hpatch
  obtain rfl : kept = manifest := by
    rw [Server.manifest?_congr hres] at hkept
    exact Option.some.inj (hkept.symm.trans hfound)
  have hwrote : m.Wrote space (.text name) (kept.patch patch) u w := {
    sent := ⟨[], _, by rwa [List.append_nil], nofun, rfl⟩
    kept := hafter
    accepted := check_eq_ok.1 haccepted }
  exact ⟨kept, hfound, hwrote.after_read rfl hsent hres⟩

/-- A `Manager.change` that succeeds is one that the validators accept, of what is kept under the
name. -/
theorem change_eq_ok (hm : m.kubernetes = Server.connection space) {patch : Value}
    (h : (m.change name patch).runOn s = (.ok (), t)) :
    ∃ manifest d, s.manifest? Deployment.plural space (.text name) = some manifest ∧
      t.manifest? Deployment.plural space (.text name) = some (manifest.patch patch) ∧
      Deployment.decode (manifest.patch patch) = .ok d ∧
      m.registry.validateDeployment d = .ok none := by
  obtain ⟨manifest, hfound, hwrote⟩ := change_wrote hm h
  obtain ⟨d, hd, hvalid⟩ := hwrote.accepted
  exact ⟨manifest, d, hfound, hwrote.stored, hd, hvalid⟩

/-- A `Manager.change` that fails leaves all resources as they are (`AllOrNothing`). -/
theorem allOrNothing_change (hm : m.kubernetes = Server.connection space) (name : String)
    (patch : Value) : Server.AllOrNothing (m.change name patch) := by
  refine (looksOnly_manifestOf hm name).bind fun manifest => .ofOutcome_bind fun _ _ => ?_
  rw [hm]
  exact (Server.allOrNothing_patch _ _ _).bind_pure

/-! ## Creations -/

/-- `Server.metadataOf` takes a cluster by the name that is in its metadata. -/
theorem metadataOf_of_nameIn {manifest : Value} (h : nameIn manifest = .ok (.text name)) :
    Server.metadataOf manifest "name" = .text name := by
  obtain ⟨metadata, hmetadata, hname⟩ := Outcome.bind_eq_ok.1 h
  obtain ⟨fields, rfl, hfields⟩ := Value.item_eq_ok.1 hmetadata
  obtain ⟨inner, rfl, hinner⟩ := Value.item_eq_ok.1 hname
  simp [Server.metadataOf, Value.field?, hfields, hinner, Value.nonNull?, Value.ofOption]

variable {manifest : Manifest} {overrides : Entries Value}

/-- What `Manager.deploy` `Wrote` when it succeeds is the manifest with its overrides, which the
validators accept. -/
theorem deploy_wrote (hm : m.kubernetes = Server.connection space) {id : Value}
    (h : (m.deploy manifest overrides).runOn s = (.ok id, t)) :
    ∃ created own, manifest.override overrides = .ok created ∧ nameIn created = .ok id ∧
      Kubernetes.spaceOfManifest created = .ok own ∧
      m.Wrote (m.kubernetes.spaceOf own) (Server.metadataOf created "name") created s t := by
  obtain ⟨created, _, hread, hrest⟩ := Action.runOn_bind_eq_ok.1 h
  obtain ⟨_, _, hcheck, hrest'⟩ := Action.runOn_bind_eq_ok.1 hrest
  obtain ⟨reply, u, hsend, hlast⟩ := Action.runOn_bind_eq_ok.1 hrest'
  obtain ⟨hcreated, rfl⟩ := Action.runOn_ofOutcome_eq_ok.1 hread
  obtain ⟨haccepted, rfl⟩ := Action.runOn_ofOutcome_eq_ok.1 hcheck
  obtain ⟨hname, rfl⟩ := Action.runOn_ofOutcome_eq_ok.1 hlast
  -- the server keeps what was checked, and replies with it
  rw [hm] at hsend ⊢
  obtain ⟨rfl, own, hown, hsent, hkept⟩ := Server.create_eq_ok hsend
  refine ⟨reply, own, hcreated, hname, hown, ?_, hkept, check_eq_ok.1 haccepted⟩
  exact ⟨[], _, by rwa [List.append_nil], nofun, rfl⟩

/-- A `Manager.deploy` that fails leaves all resources as they are, if the manifest with its overrides
has a name. -/
theorem allOrNothing_deploy (hm : m.kubernetes = Server.connection space)
    (hnamed : ∀ created, manifest.override overrides = .ok created →
      ∃ name, nameIn created = .ok (.text name)) :
    Server.AllOrNothing (m.deploy manifest overrides) := by
  refine .ofOutcome_bind fun created hcreated => .ofOutcome_bind fun _ _ => ?_
  rw [hm]
  -- the reply to a creation is the manifest, so that its name is found too
  refine (Server.allOrNothing_create _).bind_of_ok fun hsent => ?_
  obtain ⟨rfl, -⟩ := Server.create_eq_ok hsent
  obtain ⟨name, hname⟩ := hnamed _ hcreated
  exact ⟨.text name, by rw [hname, Action.runOn_ofOutcome]⟩

end Manager

end FlinkSteward
