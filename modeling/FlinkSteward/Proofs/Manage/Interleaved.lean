import FlinkSteward.Proofs.Manage.Session
import Mathlib.Data.List.Induction
import Mathlib.Logic.Function.Basic

/-!
# Two calls at a time

Two sessions send their requests to one server in any order. No request carries the version of what
was looked up before, so that the server makes the change of one session on top of that of the other,
whether or not the one has looked at it.

## Key results

- `Contest.step`, `Contest.run`: requests served in the order of a schedule
- `Contest.Stage`, `Contest.Stage.step`: what is stored and what was seen, one request after the other
- `Contest.Stage.of_run`: any number of requests
-/

namespace FlinkSteward

open Simulation

/-! ## Schedules -/

/-- One of two sessions. -/
inductive Side where
  /-- The one. -/
  | left
  /-- The other. -/
  | right
deriving DecidableEq, Inhabited

/-- The session on the other side. -/
def Side.other : Side → Side
  | left => right
  | right => left

@[simp] theorem Side.other_other (side : Side) : side.other.other = side := by
  cases side <;> rfl

@[simp] theorem Side.other_ne (side : Side) : side.other ≠ side := by
  cases side <;> exact Side.noConfusion

theorem Side.eq_or_eq_other (side other : Side) : side = other ∨ side = other.other := by
  cases side <;> cases other <;> simp [Side.other]

/-- Two sessions at a server. -/
structure Contest where
  /-- The sessions. -/
  session : Side → Session Value
  /-- The server. -/
  server : Server

namespace Contest

/-- The request of one of the sessions is served, if that is not over. -/
def step (c : Contest) (side : Side) : Option Contest :=
  match c.session side with
  | .ended _ => none
  | .asking request next =>
    let (reply, server) := (Server.answer request).runOn c.server
    some ⟨Function.update c.session side (next reply), server⟩

/-- Two calls for orders, neither of which has sent anything. -/
def ofOrders {σ : Type} (m : Manager σ) (name : String) (orders : Side → JobOrder)
    (server : Server) : Contest :=
  ⟨fun side => m.session name (orders side), server⟩

/-- Requests are served in the order of a schedule. -/
def run (c : Contest) (schedule : List Side) : Option Contest :=
  schedule.foldlM step c

variable {c c' : Contest} {side : Side}

theorem step_of_ended {outcome : Outcome Value} (h : c.session side = .ended outcome) :
    c.step side = none := by
  rw [step, h]

theorem step_of_asking {request : Kubernetes.Request} {next : Outcome request.Reply → Session Value}
    (hasking : c.session side = .asking request next) (h : c.step side = some c') :
    c'.session side = next ((Server.answer request).runOn c.server).1 ∧
      c'.server = ((Server.answer request).runOn c.server).2 := by
  rw [step, hasking] at h
  obtain rfl := Option.some.inj h
  exact ⟨Function.update_self _ _ _, rfl⟩

/-- `Contest.step` of one session leaves the other as it is. -/
theorem session_of_step {other : Side} (h : c.step side = some c') (hne : other ≠ side) :
    c'.session other = c.session other := by
  unfold step at h
  split at h
  · exact nomatch h
  · obtain rfl := Option.some.inj h
    exact Function.update_of_ne hne _ _

theorem run_append (c : Contest) (schedule : List Side) (side : Side) :
    c.run (schedule ++ [side]) = (c.run schedule).bind fun c => c.step side := by
  simp [run, List.foldlM_append]

end Contest

/-! ## Replies -/

namespace Simulation.Server

variable {s : Server} {plural : String} {space name manifest : Value}

/-- The `answer` to a look-up is what is kept, if it succeeds. -/
theorem answer_get (h : s.manifest? plural space name = some manifest) :
    ((answer (.get space plural name)).runOn s).2.manifest? plural space name = some manifest ∧
      ∀ reply, ((answer (.get space plural name)).runOn s).1 = .ok reply → reply = manifest := by
  refine ⟨?_, fun reply hreply => ?_⟩
  · rwa [manifest?_congr (resources_answer_of_read s rfl)]
  · obtain ⟨u, hres, hserve⟩ := answer_eq_ok (Prod.ext hreply rfl)
    rw [serve, manifest?_congr hres, h] at hserve
    exact (Except.ok.inj (congrArg Prod.fst hserve)).symm

/-- The `answer` to a change has made it on top of what is kept, if it succeeds. -/
theorem answer_patch (h : s.manifest? plural space name = some manifest) {change reply : Value}
    (hreply : ((answer (.patch space plural name change)).runOn s).1 = .ok reply) :
    ((answer (.patch space plural name change)).runOn s).2.manifest? plural space name =
      some (manifest.patch change) := by
  obtain ⟨u, hres, hserve⟩ := answer_eq_ok (Prod.ext hreply rfl)
  rw [serve, manifest?_congr hres, h] at hserve
  rw [← congrArg Prod.snd hserve]
  exact manifest?_of_keep rfl

end Simulation.Server

/-! ## Stages -/

section

variable {σ : Type} (m : Manager σ) (name : String) (orders : Side → JobOrder) (before : Value)

/-- How far two sessions for orders have come by a schedule, on a server that had a manifest before.
What each has seen is that manifest until one of them has made its change, and then what that has made
of it. -/
inductive Contest.Stage : List Side → Contest → Prop where
  /-- One of the sessions has failed. -/
  | failed {schedule : List Side} {c : Contest} {side : Side} {f : Failure}
      (h : c.session side = .ended (.error f)) : Stage schedule c
  /-- Neither has made its change. -/
  | untouched {schedule : List Side} {c : Contest}
      (hstored : c.server.manifest? Deployment.plural m.place (.text name) = some before)
      (hlooked : ∀ side, ∃ n, Session.Looked m.place name (m.session name (orders side))
        (List.replicate n before) (c.session side)) : Stage schedule c
  /-- One of them has made its change. -/
  | halfway {first : Side} {x : Value} {a b : Nat} {earlier : List Side} {c : Contest}
      (hgrants : m.Grants (orders first) before before x)
      (hstored : c.server.manifest? Deployment.plural m.place (.text name) =
        some ((orders first).made x before))
      (hended : c.session first = .ended (.ok ((orders first).result x)))
      (hlooked : Session.Looked m.place name (m.session name (orders first.other))
        (List.replicate a before ++ List.replicate b ((orders first).made x before))
        (c.session first.other)) :
      Stage (earlier ++ first :: List.replicate b first.other) c
  /-- Both have made their changes. -/
  | settled {first : Side} {x y u v : Value} {a b : Nat} {earlier : List Side} {c : Contest}
      (hgrants : m.Grants (orders first) before before x)
      (hended : c.session first = .ended (.ok ((orders first).result x)))
      (hgrants' : m.Grants (orders first.other) u v y)
      (hfirst : (List.replicate a before ++
        List.replicate b ((orders first).made x before)).head? = some u)
      (hlast : (List.replicate a before ++
        List.replicate b ((orders first).made x before)).getLast? = some v)
      (hlength : a + b = (orders first.other).looks)
      (hstored : c.server.manifest? Deployment.plural m.place (.text name) =
        some ((orders first.other).made y ((orders first).made x before)))
      (hended' : c.session first.other = .ended (.ok ((orders first.other).result y))) :
      Stage (earlier ++ first :: List.replicate (b + 1) first.other) c

end

namespace Contest.Stage

variable {σ : Type} {m : Manager σ} {name : String} {orders : Side → JobOrder} {before : Value}
  {schedule : List Side} {c c' : Contest} {side : Side}

/-- What becomes of a session with its next `Contest.step`: it fails, it has looked the cluster up
once more, or it has made its change on top of what is kept. -/
private theorem step_cases {seen : List Value} {kept : Value}
    (hstored : c.server.manifest? Deployment.plural m.place (.text name) = some kept)
    (hlooked : Session.Looked m.place name (m.session name (orders side)) seen (c.session side))
    (h : c.step side = some c') :
    (∃ f, c'.session side = .ended (.error f)) ∨
    (c'.server.manifest? Deployment.plural m.place (.text name) = some kept ∧
      Session.Looked m.place name (m.session name (orders side)) (seen ++ [kept])
        (c'.session side)) ∨
    ∃ first last x, seen.head? = some first ∧ seen.getLast? = some last ∧
      seen.length = (orders side).looks ∧ m.Grants (orders side) first last x ∧
      c'.server.manifest? Deployment.plural m.place (.text name) = some ((orders side).made x kept) ∧
      c'.session side = .ended (.ok ((orders side).result x)) := by
  have hstands := Manager.standing_session hlooked
  generalize hsession : c.session side = session at hstands hlooked
  -- a session that goes on has a read or the patch in front of it
  cases hstands with
  | failed f =>
    rw [Contest.step_of_ended hsession] at h
    exact nomatch h
  | looking hfails =>
    obtain ⟨hside, hserver⟩ := Contest.step_of_asking hsession h
    obtain ⟨hkept, hreply⟩ := Server.answer_get hstored
    rcases hanswer : ((Server.answer (.get m.place Deployment.plural (.text name))).runOn c.server).1
      with f | reply
    · obtain ⟨g, hg⟩ := hfails f
      exact .inl ⟨g, by rw [hside, hanswer, hg]⟩
    · obtain rfl := hreply reply hanswer
      refine .inr (.inl ⟨by rw [hserver, hkept], ?_⟩)
      rw [hside, hanswer]
      exact hlooked.snoc reply
  | changing hfirst hlast hlength hgrants =>
    obtain ⟨hside, hserver⟩ := Contest.step_of_asking hsession h
    rcases hanswer : ((Server.answer (.patch m.place Deployment.plural (.text name)
      (Manager.jobChange (orders side).key _))).runOn c.server).1 with f | reply
    · exact .inl ⟨f, by rw [hside, hanswer]; rfl⟩
    · refine .inr (.inr ⟨_, _, _, hfirst, hlast, hlength, hgrants, ?_, ?_⟩)
      · rw [hserver, Server.answer_patch hstored hanswer]
        rfl
      · rw [hside, hanswer]
        rfl

/-- A `Stage` follows a `Stage` with one request more. -/
theorem step (hstage : Stage m name orders before schedule c) (h : c.step side = some c') :
    Stage m name orders before (schedule ++ [side]) c' := by
  cases hstage with
  | failed hfailed =>
    rename_i other f
    by_cases hother : other = side
    · rw [Contest.step_of_ended (hother ▸ hfailed)] at h
      exact nomatch h
    · exact .failed (f := f) ((Contest.session_of_step h hother).trans hfailed)
  | untouched hstored hlooked =>
    obtain ⟨n, hside⟩ := hlooked side
    obtain ⟨f, hfailed⟩ | ⟨hkept, hlooked'⟩ |
      ⟨first, last, x, hfirst, hlast, -, hgrants, hmade, hended⟩ := step_cases hstored hside h
    · exact .failed hfailed
    · refine .untouched hkept fun other => ?_
      by_cases hother : other = side
      · subst hother
        exact ⟨n + 1, by rwa [List.replicate_succ']⟩
      · rw [Contest.session_of_step h hother]
        exact hlooked other
    · -- all that was seen is what was there before
      obtain rfl : first = before := List.eq_of_mem_replicate (List.mem_of_head? hfirst)
      obtain rfl : last = first := List.eq_of_mem_replicate (List.mem_of_getLast? hlast)
      obtain ⟨k, hother⟩ := hlooked side.other
      rw [← Contest.session_of_step h side.other_ne] at hother
      refine .halfway (a := k) (b := 0) hgrants hmade hended ?_
      rwa [List.replicate_zero, List.append_nil]
  | halfway hgrants hstored hended hlooked =>
    rename_i first x a b earlier
    obtain rfl | rfl := side.eq_or_eq_other first
    · rw [Contest.step_of_ended hended] at h
      exact nomatch h
    rw [← Contest.session_of_step h first.other_ne.symm] at hended
    rw [List.append_assoc, List.cons_append, ← List.replicate_succ']
    obtain ⟨f, hfailed⟩ | ⟨hkept, hlooked'⟩ |
      ⟨u, v, y, hfirst, hlast, hlength, hgrants', hmade, hended'⟩ := step_cases hstored hlooked h
    · exact .failed hfailed
    · rw [List.append_assoc, ← List.replicate_succ'] at hlooked'
      exact .halfway hgrants hkept hended hlooked'
    · rw [List.length_append, List.length_replicate, List.length_replicate] at hlength
      exact .settled hgrants hended hgrants' hfirst hlast hlength hmade hended'
  | settled hgrants hended hgrants' hfirst hlast hlength hstored hended' =>
    rename_i first _ _ _ _ _ _ _
    obtain rfl | rfl := side.eq_or_eq_other first
    · rw [Contest.step_of_ended hended] at h
      exact nomatch h
    · rw [Contest.step_of_ended hended'] at h
      exact nomatch h

/-- No session that has only `Looked` succeeds. -/
theorem ne_ok_of_looked {order : JobOrder} {seen : List Value} {session : Session Value}
    (h : Session.Looked m.place name (m.session name order) seen session) (result : Value) :
    session ≠ .ended (.ok result) := by
  rintro rfl
  cases Manager.standing_session h

/-- A `Stage` is reached by any number of requests. -/
theorem of_run {server : Server}
    (hstored : server.manifest? Deployment.plural m.place (.text name) = some before)
    (h : (Contest.ofOrders m name orders server).run schedule = some c) :
    Stage m name orders before schedule c := by
  induction schedule using List.reverseRecOn generalizing c with
  | nil =>
    obtain rfl := Option.some.inj h
    exact .untouched hstored fun side => ⟨0, .refl _⟩
  | append_singleton schedule side ih =>
    rw [Contest.run_append, Option.bind_eq_some_iff] at h
    obtain ⟨c', hrun, hstep⟩ := h
    exact (ih hrun).step hstep

end Contest.Stage

end FlinkSteward
