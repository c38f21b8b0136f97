import FlinkSteward.Proofs.Action
import FlinkSteward.Simulation.Server

/-!
# Requests that were served

Every request is recorded, and one that fails or only looks something up leaves the custom resources
as they are. One that succeeds was served, and tells what the server keeps: a look-up what was
there, and a change what is there since.

## Key results

- `Server.manifest?_of_keep`, `Server.manifest?_of_keep_ne`: what is found after something was kept
- `Server.sent_answer`, `Server.resources_answer_of_read`: any request
- `Server.get_eq_ok`, `Server.patch_eq_ok`, `Server.create_eq_ok`: look-ups and changes that succeed
- `Server.AllOrNothing`: actions that change nothing when they fail
-/

namespace FlinkSteward

namespace Simulation.Server

variable {s t : Server} {plural : String} {space name : Value}

/-! ## What is kept -/

theorem manifest?_congr (h : t.resources = s.resources) (plural : String) (space name : Value) :
    t.manifest? plural space name = s.manifest? plural space name := by
  rw [manifest?, manifest?, h]

private theorem find?_keep (r : Stored) (resources : List Stored) :
    (keep r resources).find? (isAt r.plural r.space r.name) = some r := by
  have hself : isAt r.plural r.space r.name r = true := by simp [isAt]
  induction resources with
  | nil => simp [keep, hself]
  | cons old resources ih =>
    rw [keep]
    split
    · simp [hself]
    · -- what is kept under another name stays in front
      rename_i hother
      rw [List.find?_cons_of_neg hother, ih]

/-- A custom resource that `keep` has stored is there. -/
theorem manifest?_of_keep {resources : List Stored} {manifest : Value}
    (h : t.resources = keep ⟨plural, space, name, manifest⟩ resources) :
    t.manifest? plural space name = some manifest := by
  rw [manifest?, h, find?_keep ⟨plural, space, name, manifest⟩]
  rfl

theorem isAt_iff {r : Stored} :
    isAt plural space name r = true ↔ r.plural = plural ∧ r.space = space ∧ r.name = name := by
  simp [isAt, and_assoc]

private theorem find?_keep_of_ne {r : Stored} (hr : isAt plural space name r = false)
    (resources : List Stored) :
    (keep r resources).find? (isAt plural space name) =
      resources.find? (isAt plural space name) := by
  induction resources with
  | nil => simp [keep, hr]
  | cons old resources ih =>
    rw [keep]
    split
    · -- what gives way is not what is looked for either
      rename_i hold
      obtain ⟨hplural, hspace, hname⟩ := isAt_iff.1 hold
      have hother : isAt plural space name old = false := by
        rwa [isAt, hplural, hspace, hname]
      rw [List.find?_cons, hr, List.find?_cons, hother]
    · rw [List.find?_cons, List.find?_cons, ih]

/-- `keep` changes nothing of the other resources. -/
theorem manifest?_of_keep_ne {r : Stored} (h : t.resources = keep r s.resources)
    (hr : isAt plural space name r = false) :
    t.manifest? plural space name = s.manifest? plural space name := by
  rw [manifest?, h, find?_keep_of_ne hr, manifest?]

private theorem keep_of_find? {r : Stored} {resources : List Stored}
    (h : resources.find? (isAt r.plural r.space r.name) = some r) :
    keep r resources = resources := by
  induction resources with
  | nil => exact nomatch h
  | cons old resources ih =>
    rw [keep]
    split
    · rename_i hold
      rw [List.find?_cons_of_pos hold] at h
      rw [Option.some.inj h]
    · rename_i hother
      rw [List.find?_cons_of_neg hother] at h
      rw [ih h]

/-- `keep` of what is there already changes nothing. -/
theorem keep_of_manifest? {manifest : Value} (h : s.manifest? plural space name = some manifest) :
    keep ⟨plural, space, name, manifest⟩ s.resources = s.resources := by
  obtain ⟨r, hfind, rfl⟩ := Option.map_eq_some_iff.1 h
  obtain ⟨rfl, rfl, rfl⟩ := isAt_iff.1 (List.find?_some hfind)
  exact keep_of_find? hfind

/-- `remove` of a custom resource that is not there changes nothing. -/
theorem resources_remove_of_none (h : s.manifest? plural space name = none) :
    (s.remove plural space name).resources = s.resources := by
  rw [manifest?, Option.map_eq_none_iff, List.find?_eq_none] at h
  exact List.filter_eq_self.2 fun r hr => by simpa using h r hr

end Simulation.Server

/-! ## Requests -/

/-- `orMissing` gives nothing where something is missing; other failures stay. -/
theorem Kubernetes.runOn_orMissing {σ α : Type} (a : Action σ α) (s : σ) :
    (orMissing a).runOn s =
      (match (a.runOn s).1 with
        | .ok x => .ok (some x)
        | .error f => if isMissing f then .ok none else .error f,
       (a.runOn s).2) := by
  rw [orMissing, Action.runOn_ofRun]
  rcases a.runOn s with ⟨_ | x, t⟩ <;> rfl

/-- `orMissing` leaves the world as it is. -/
theorem Kubernetes.snd_runOn_orMissing {σ α : Type} (a : Action σ α) (s : σ) :
    ((orMissing a).runOn s).2 = (a.runOn s).2 := by
  rw [runOn_orMissing]

/-- Whether a request is for a change. -/
def Kubernetes.Request.isWrite : Kubernetes.Request → Bool
  | .get .. | .list .. | .readDeployment .. | .listPods .. => false
  | .create .. | .delete .. | .patch .. | .patchStatus .. | .deleteDeployment ..
  | .deleteConfigMaps .. => true

namespace Simulation.Server

variable {s t : Server} {plural : String} {space name : Value}

theorem nextFate_kept (s : Server) (word : String) :
    (nextFate s word).2.resources = s.resources ∧ (nextFate s word).2.sent = s.sent := by
  unfold nextFate
  split <;> exact ⟨rfl, rfl⟩

/-- The `answer` to a request records it, and then serves it or fails. -/
theorem answer_cases (s : Server) (r : Kubernetes.Request) :
    ∃ u : Server, u.resources = s.resources ∧ u.sent = s.sent ++ [r] ∧
      ((answer r).runOn s = u.serve r ∨ ∃ f, (answer r).runOn s = (.error f, u)) := by
  obtain ⟨hres, hsent⟩ := nextFate_kept { s with sent := s.sent ++ [r] } (wordFor r)
  rw [answer, Action.runOn_ofRun]
  rcases hfate : nextFate { s with sent := s.sent ++ [r] } (wordFor r) with ⟨fate, u⟩
  rw [hfate] at hres hsent
  refine ⟨u, hres, hsent, ?_⟩
  cases fate with
  | served => exact .inl rfl
  | refused status => exact .inr ⟨_, rfl⟩
  | interrupted => exact .inr ⟨_, rfl⟩

theorem sent_serve (s : Server) (r : Kubernetes.Request) : (s.serve r).2.sent = s.sent := by
  cases r with
  | patch =>
    rw [serve]
    split <;> rfl
  | _ => rfl

theorem resources_serve_of_read (s : Server) {r : Kubernetes.Request} (hr : r.isWrite = false) :
    (s.serve r).2.resources = s.resources := by
  cases r with
  | get | list | readDeployment | listPods => rfl
  | _ => exact nomatch hr

theorem serve_eq_error {r : Kubernetes.Request} {f : Failure} (h : s.serve r = (.error f, t)) :
    t.resources = s.resources := by
  cases r with
  | create | list | patchStatus | deleteConfigMaps | listPods => exact nomatch (Prod.mk.inj h).1
  | get | readDeployment | deleteDeployment => exact (Prod.mk.inj h).2 ▸ rfl
  | delete space plural name =>
    obtain ⟨hreply, rfl⟩ := Prod.mk.inj h
    cases hfound : s.manifest? plural space name with
    | none => exact resources_remove_of_none hfound
    | some manifest =>
      rw [hfound] at hreply
      exact nomatch hreply
  | patch space plural name change =>
    rw [serve] at h
    split at h
    · exact (Prod.mk.inj h).2 ▸ rfl
    · exact nomatch h

/-- The `answer` to a request records it, whatever becomes of it. -/
theorem sent_answer (s : Server) (r : Kubernetes.Request) :
    ((answer r).runOn s).2.sent = s.sent ++ [r] := by
  obtain ⟨u, -, hsent, hserved | ⟨f, hfailed⟩⟩ := answer_cases s r
  · rw [hserved, sent_serve, hsent]
  · rw [hfailed, hsent]

/-- An `answer` takes no time. -/
theorem now_answer (s : Server) (r : Kubernetes.Request) :
    ((answer r).runOn s).2.now = s.now := by
  -- neither serving a request nor taking a fate moves the clock
  have hserve : ∀ u : Server, (u.serve r).2.now = u.now := by
    intro u
    cases r with
    | patch =>
      rw [serve]
      split <;> rfl
    | _ => rfl
  have hfate : ∀ word, (nextFate { s with sent := s.sent ++ [r] } word).2.now = s.now := by
    intro word
    unfold nextFate
    split <;> rfl
  rw [answer, Action.runOn_ofRun]
  have hnow := hfate (wordFor r)
  rcases hnext : nextFate { s with sent := s.sent ++ [r] } (wordFor r) with ⟨fate, u⟩
  rw [hnext] at hnow
  cases fate with
  | served => exact (hserve u).trans hnow
  | refused status => exact hnow
  | interrupted => exact hnow

/-- The `answer` to a look-up leaves all resources as they are. -/
theorem resources_answer_of_read (s : Server) {r : Kubernetes.Request} (hr : r.isWrite = false) :
    ((answer r).runOn s).2.resources = s.resources := by
  obtain ⟨u, hres, -, hserved | ⟨f, hfailed⟩⟩ := answer_cases s r
  · rw [hserved, resources_serve_of_read u hr, hres]
  · rw [hfailed, hres]

/-- An `answer` that succeeds was served, by a server that keeps the same resources. -/
theorem answer_eq_ok {r : Kubernetes.Request} {reply : r.Reply}
    (h : (answer r).runOn s = (.ok reply, t)) :
    ∃ u : Server, u.resources = s.resources ∧ u.serve r = (.ok reply, t) := by
  obtain ⟨u, hres, -, hserved | ⟨f, hfailed⟩⟩ := answer_cases s r
  · exact ⟨u, hres, hserved.symm.trans h⟩
  · rw [hfailed] at h
    exact nomatch (Prod.mk.inj h).1

variable {c : Value}

/-- A `get` that finds something leaves all resources as they are. -/
theorem get_eq_ok {manifest : Value}
    (h : ((connection c).get plural name space).runOn s = (.ok (some manifest), t)) :
    s.manifest? plural ((connection c).spaceOf space) name = some manifest ∧
      t.resources = s.resources := by
  rw [Kubernetes.get, Kubernetes.orMissing, Action.runOn_ofRun] at h
  split at h
  · rename_i x u hx
    obtain ⟨rfl, rfl⟩ : x = manifest ∧ u = t := by simpa using h
    obtain ⟨v, hv, hserve⟩ := answer_eq_ok hx
    obtain ⟨hfound, rfl⟩ := Prod.mk.inj hserve
    rw [manifest?_congr hv] at hfound
    refine ⟨?_, hv⟩
    cases hget : s.manifest? plural ((connection c).spaceOf space) name with
    | none => rw [hget] at hfound; exact nomatch hfound
    | some manifest => rw [hget] at hfound; exact congrArg some (Except.ok.inj hfound)
  · -- a failure gives nothing, or is passed on
    rename_i f u hf
    split at h <;> simp at h

/-- A `patch` that succeeds is kept in the place of what was there. -/
theorem patch_eq_ok {change reply : Value}
    (h : ((connection c).patch name change space).runOn s = (.ok reply, t)) :
    t.sent = s.sent ++ [.patch ((connection c).spaceOf space) Deployment.plural name change] ∧
    ∃ manifest, s.manifest? Deployment.plural ((connection c).spaceOf space) name = some manifest ∧
      t.resources = keep ⟨Deployment.plural, (connection c).spaceOf space, name,
        manifest.patch change⟩ s.resources := by
  have hsent := sent_answer s (.patch ((connection c).spaceOf space) Deployment.plural name change)
  obtain ⟨u, hu, hserve⟩ := answer_eq_ok h
  rw [serve, manifest?_congr hu] at hserve
  split at hserve
  · simp at hserve
  · rename_i manifest hmanifest
    rw [show (answer _).runOn s = _ from h] at hsent
    obtain ⟨-, rfl⟩ := Prod.mk.inj hserve
    exact ⟨hsent, manifest, hmanifest, by rw [put, hu]⟩

/-- A cluster that `create` has made is kept under its name. -/
theorem create_eq_ok {manifest reply : Value}
    (h : ((connection c).create manifest).runOn s = (.ok reply, t)) :
    reply = manifest ∧ ∃ own, Kubernetes.spaceOfManifest manifest = .ok own ∧
      t.sent = s.sent ++ [.create ((connection c).spaceOf own) Deployment.plural manifest] ∧
      t.resources = keep ⟨Deployment.plural, (connection c).spaceOf own,
        metadataOf manifest "name", manifest⟩ s.resources := by
  obtain ⟨own, u, hread, hsend⟩ := Action.runOn_bind_eq_ok.1 h
  obtain ⟨hown, rfl⟩ := Action.runOn_ofOutcome_eq_ok.1 hread
  have hsent := sent_answer s (.create ((connection c).spaceOf own) Deployment.plural manifest)
  rw [show (answer _).runOn s = _ from hsend] at hsent
  obtain ⟨v, hv, hserve⟩ := answer_eq_ok hsend
  obtain ⟨hreply, rfl⟩ := Prod.mk.inj hserve
  exact ⟨(Except.ok.inj hreply).symm, own, hown, hsent, by rw [put, hv]⟩

/-! ## All or nothing -/

variable {α β : Type}

/-- An action that leaves the custom resources as they are. -/
def LooksOnly (a : Action Server α) : Prop :=
  ∀ s, (a.runOn s).2.resources = s.resources

/-- An action that leaves the custom `resources` as they are when it fails. -/
def AllOrNothing (a : Action Server α) : Prop :=
  ∀ ⦃s t : Server⦄ ⦃f : Failure⦄, a.runOn s = (.error f, t) → t.resources = s.resources

theorem LooksOnly.bind {a : Action Server α} {f : α → Action Server β} (ha : LooksOnly a)
    (hf : ∀ x, AllOrNothing (f x)) : AllOrNothing (a >>= f) := by
  intro s t e h
  have hres := ha s
  obtain hfirst | ⟨x, u, hfirst, hrest⟩ := Action.runOn_bind_eq_error.1 h
  · rwa [hfirst] at hres
  · rw [hfirst] at hres
    exact (hf x hrest).trans hres

namespace AllOrNothing

theorem ofOutcome_bind {r : Outcome α} {f : α → Action Server β}
    (hf : ∀ x, r = .ok x → AllOrNothing (f x)) : AllOrNothing (.ofOutcome r >>= f) := by
  intro s t e h
  cases r with
  | error g => exact congrArg resources (Prod.mk.inj h).2.symm
  | ok x => exact hf x rfl h

/-- `a >>= f` is `AllOrNothing` if `f` cannot fail after `a`. -/
theorem bind_of_ok {a : Action Server α} {f : α → Action Server β} (ha : AllOrNothing a)
    (hf : ∀ {s t x}, a.runOn s = (.ok x, t) → ∃ y, (f x).runOn t = (.ok y, t)) :
    AllOrNothing (a >>= f) := by
  intro s t e h
  obtain hfirst | ⟨x, u, hfirst, hrest⟩ := Action.runOn_bind_eq_error.1 h
  · exact ha hfirst
  · obtain ⟨y, hlast⟩ := hf hfirst
    rw [hlast] at hrest
    exact nomatch (Prod.mk.inj hrest).1

theorem bind_pure {a : Action Server α} {g : α → β} (ha : AllOrNothing a) :
    AllOrNothing (a >>= fun x => pure (g x)) :=
  ha.bind_of_ok fun _ => ⟨_, rfl⟩

end AllOrNothing

/-- An `answer` is `AllOrNothing`. -/
theorem allOrNothing_answer (r : Kubernetes.Request) : AllOrNothing (answer r) := by
  intro s t e h
  obtain ⟨u, hres, -, hserved | ⟨f, hfailed⟩⟩ := answer_cases s r
  · exact (serve_eq_error (hserved.symm.trans h)).trans hres
  · rw [hfailed] at h
    exact (Prod.mk.inj h).2 ▸ hres

theorem allOrNothing_patch (name change space : Value) :
    AllOrNothing ((connection c).patch name change space) :=
  allOrNothing_answer _

theorem allOrNothing_create (manifest : Value) : AllOrNothing ((connection c).create manifest) :=
  .ofOutcome_bind fun _ _ => allOrNothing_answer _

end Simulation.Server

end FlinkSteward
