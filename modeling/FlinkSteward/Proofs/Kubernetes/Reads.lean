import FlinkSteward.Proofs.Kubernetes.Await
import FlinkSteward.Proofs.Value.Patch
import FlinkSteward.Proofs.Value.Path
import Mathlib.Order.Bounds.Defs

/-!
# What a wait reads

While a wait goes on, its pauses are all that takes time, and nothing but the clock changes what is
kept. So each of its reads is known beforehand: it comes one pause after the read before it, meets with
what is to become of it, and finds the manifest as it is at that time. The first read that shows the
state ends the wait, and so does the first one that fails.

## Key results

- `Server.later`: a server of which nobody asks anything
- `Server.readAt`, `Server.shownAt`: what a read finds and shows, as it is known beforehand
- `Server.lookFor_afterReads`, `Server.beforeLook_eq`: one read of a wait, and those before it
- `Server.wait_ends_with_read`: how a wait ends, after which reads, and when
-/

namespace FlinkSteward

/-! ## Manifests that show a state -/

namespace Value

/-- A manifest whose status, where it has one, has a map or nothing for the job. -/
def IsLegible (manifest : Value) : Prop :=
  ∃ fields, manifest = map fields ∧
    ∀ status, Entries.get? fields "status" = some status → status.isTruthy = true →
      ∃ inner, status = map inner ∧
        ∀ job, Entries.get? inner "jobStatus" = some job → ∃ entries, job = map entries

/-- Whether a manifest has a status that shows the job in a state. -/
def shows (manifest state : Value) : Bool :=
  (manifest.atPath? [.key "status"]).any fun status =>
    status.isTruthy &&
      ((status.atPath? [.key "jobStatus", .key "state"]).getD null).same state

theorem showsState_of_isLegible {manifest : Value} (h : manifest.IsLegible) (state : Value) :
    Kubernetes.showsState (some manifest) state = .ok (manifest.shows state) := by
  obtain ⟨fields, rfl, hstatus⟩ := h
  have hpath : (map fields).atPath? [.key "status"] = Entries.get? fields "status" := by
    simp [atPath?, child?]
  cases fields with
  | nil => rfl
  | cons e fields =>
    have hfields : (map (e :: fields)).isTruthy = true := rfl
    rw [shows, hpath]
    simp only [Kubernetes.showsState, hfields, Bool.not_true, Bool.false_eq_true, ↓reduceIte,
      entry_map, bind, Except.bind]
    cases hget : Entries.get? (e :: fields) "status" with
    | none => rfl
    | some status =>
      cases htruthy : status.isTruthy with
      | false => simp [htruthy, pure, Except.pure]
      | true =>
        obtain ⟨inner, rfl, hjob⟩ := hstatus status hget htruthy
        -- where there is nothing for the job, it is in no state
        cases hinner : Entries.get? inner "jobStatus" with
        | none => simp [htruthy, hinner, atPath?, child?, pure, Except.pure]
        | some job =>
          obtain ⟨entries, rfl⟩ := hjob job hinner
          simp [htruthy, hinner, atPath?, child?, pure, Except.pure]

/-- `patchOver` of any value with a map is a map, in which the keys of the patch were patched. -/
theorem exists_patchOver_map (old : Option Value) (changes : Entries Value) (h : changes.Distinct) :
    ∃ fields, patchOver old (map changes) = map fields ∧
      ∀ key v, changes.get? key = some v →
        ∃ inner, Entries.get? fields key = some (patchOver inner v) := by
  by_cases hmap : ∃ fields, old = some (map fields)
  · obtain ⟨fields, rfl⟩ := hmap
    refine ⟨patchFields fields changes, patch_map fields changes, fun key v hv => ?_⟩
    exact ⟨Entries.get? fields key, by rw [get?_patchFields fields h, hv]⟩
  · -- everything else gives way
    refine ⟨changes, ?_, fun key v hv => ⟨none, hv⟩⟩
    rcases old with _ | v
    · rfl
    · cases v with
      | map fields => exact absurd ⟨fields, rfl⟩ hmap
      | _ => simp [patchOver, patch]

/-- A manifest that was told the state of its job `IsLegible`, whatever it was before. -/
theorem isLegible_patch (manifest state : Value) :
    (manifest.patch (map [("status", map [("jobStatus", map [("state", state)])])])).IsLegible := by
  obtain ⟨fields, hfields, hstatus⟩ := exists_patchOver_map (some manifest)
    [("status", map [("jobStatus", map [("state", state)])])] ⟨rfl, trivial⟩
  refine ⟨fields, hfields, fun status hget _ => ?_⟩
  obtain ⟨old, hold⟩ := hstatus "status" _ rfl
  obtain ⟨inner, hinner, hjob⟩ := exists_patchOver_map old
    [("jobStatus", map [("state", state)])] ⟨rfl, trivial⟩
  obtain rfl := Option.some.inj (hget.symm.trans hold)
  refine ⟨inner, hinner, fun job hget => ?_⟩
  obtain ⟨before, hbefore⟩ := hjob "jobStatus" _ rfl
  obtain rfl := Option.some.inj (hget.symm.trans hbefore)
  obtain ⟨entries, hentries, -⟩ := exists_patchOver_map before [("state", state)] ⟨rfl, trivial⟩
  exact ⟨entries, hentries⟩

end Value

/-! ## What reads meet with -/

namespace Simulation.Server

open Kubernetes (pollMillis)

variable {s : Server} {c place name state space : Value}

/-- The server after so many pauses in which nobody asks anything of it. -/
def later (s : Server) (pauses : Nat) : Server :=
  (fun s => s.advance pollMillis)^[pauses] s

/-- What becomes of a request, after so many others with the same word. -/
def fateAt (s : Server) (word : String) (requests : Nat) : Fate :=
  (((s.fates.get? word).getD [])[requests]?).getD .served

/-- What a read finds that comes after so many others, each with a pause behind it. -/
def readAt (s : Server) (place name : Value) (look : Nat) : Outcome (Option Value) :=
  match s.fateAt "get" look with
  | .served => .ok ((s.later look).manifest? Deployment.plural place name)
  | .refused status => if status = 404 then .ok none else .error (.api status)
  | .interrupted => .error .interrupted

/-- Whether it shows the state. -/
def shownAt (s : Server) (place name state : Value) (look : Nat) : Outcome Bool :=
  (s.readAt place name look).map fun found => found.any (·.shows state)

/-! ## Time -/

/-- The server with other requests behind it and other fates before it. -/
def withRecords (s : Server) (sent : List Kubernetes.Request) (fates : Entries (List Fate)) :
    Server :=
  { s with sent, fates }

/-- What happens in an `advance` does not depend on what was asked. -/
theorem advance_withRecords (s : Server) (sent : List Kubernetes.Request)
    (fates : Entries (List Fate)) (millis : Int) :
    (s.withRecords sent fates).advance millis = (s.advance millis).withRecords sent fates := by
  have hhappen : ∀ (u : Server) (e : Event),
      (u.withRecords sent fates).happen e = (u.happen e).withRecords sent fates := by
    intro u e
    have hfound : (u.withRecords sent fates).manifest? Deployment.plural e.space e.name =
        u.manifest? Deployment.plural e.space e.name := rfl
    unfold happen
    rw [hfound]
    split <;> rfl
  let early : Server :=
    { s with now := s.now + millis, events := s.events.filter fun e => !(e.time ≤ s.now + millis) }
  change (s.events.filter fun e => e.time ≤ s.now + millis).foldl happen
    (early.withRecords sent fates) = _
  exact List.foldl_hom (withRecords · sent fates) hhappen

theorem later_succ (s : Server) (pauses : Nat) :
    s.later (pauses + 1) = (s.later pauses).advance pollMillis :=
  Function.iterate_succ_apply' _ pauses s

theorem now_later (s : Server) (pauses : Nat) :
    (s.later pauses).now = s.now + pollMillis * pauses := by
  induction pauses with
  | zero => simp [later]
  | succ pauses ih =>
    rw [later_succ, now_advance, ih]
    push_cast
    ring

/-- Manifests stay legible when states of jobs change (`happen`). -/
theorem legible_happen (e : Event)
    (h : ∀ m, s.manifest? Deployment.plural place name = some m → m.IsLegible) :
    ∀ m, (s.happen e).manifest? Deployment.plural place name = some m → m.IsLegible := by
  intro m hm
  rw [happen] at hm
  split at hm
  · exact h m hm
  · rename_i manifest _
    by_cases hplace : e.space = place ∧ e.name = name
    · obtain ⟨rfl, rfl⟩ := hplace
      rw [manifest?_of_keep rfl] at hm
      obtain rfl := Option.some.inj hm
      exact Value.isLegible_patch manifest e.state
    · -- another cluster changes
      rw [manifest?_of_keep_ne rfl] at hm
      · exact h m hm
      · rw [isAt]
        simpa using hplace

theorem legible_later (h : ∀ m, s.manifest? Deployment.plural place name = some m → m.IsLegible)
    (pauses : Nat) :
    ∀ m, (s.later pauses).manifest? Deployment.plural place name = some m → m.IsLegible := by
  induction pauses with
  | zero => exact h
  | succ pauses ih =>
    rw [later_succ, advance]
    refine List.foldlRecOn
      (motive := fun u => ∀ m, u.manifest? Deployment.plural place name = some m → m.IsLegible)
      _ happen ?_ fun u hu e _ => legible_happen e hu
    exact ih

/-! ## The reads of a wait -/

/-- `nextFate` gives what was to become of a request, and puts that out of the way for the next
one. -/
theorem nextFate_eq (s : Server) (word : String) :
    ∃ fates, nextFate s word = (s.fateAt word 0, s.withRecords s.sent fates) ∧
      (fates.get? word).getD [] = ((s.fates.get? word).getD []).drop 1 := by
  rw [nextFate, fateAt]
  rcases hget : s.fates.get? word with _ | _ | ⟨fate, rest⟩
  · exact ⟨s.fates, rfl, by rw [hget]; rfl⟩
  · exact ⟨s.fates, rfl, by rw [hget]; rfl⟩
  · exact ⟨_, rfl, by rw [Entries.get?_put_self]; rfl⟩

/-- A `get`, whatever becomes of it, finds what is known beforehand (`readAt`) and changes nothing
else. -/
theorem get_runOn (s : Server) (c name space : Value) :
    ∃ fates, ((connection c).get Deployment.plural name space).runOn s =
        (s.readAt ((connection c).spaceOf space) name 0, s.withRecords
          (s.sent ++ [.get ((connection c).spaceOf space) Deployment.plural name]) fates) ∧
      (fates.get? "get").getD [] = ((s.fates.get? "get").getD []).drop 1 := by
  set place := (connection c).spaceOf space with hplace
  obtain ⟨fates, hnext, hfates⟩ := nextFate_eq
    (s.withRecords (s.sent ++ [.get place Deployment.plural name]) s.fates) "get"
  refine ⟨fates, ?_, hfates⟩
  -- a read leaves the server as it was, but for its record and its fates
  have hanswer : (answer (.get place Deployment.plural name)).runOn s =
      (match s.fateAt "get" 0 with
        | .served => found (s.manifest? Deployment.plural place name)
        | .refused status => .error (.api status)
        | .interrupted => .error .interrupted,
       s.withRecords (s.sent ++ [.get place Deployment.plural name]) fates) := by
    have hrecorded : nextFate { s with sent := s.sent ++ [.get place Deployment.plural name] } "get" =
        (s.fateAt "get" 0, s.withRecords (s.sent ++ [.get place Deployment.plural name]) fates) :=
      hnext
    rw [answer, Action.runOn_ofRun, wordFor, hrecorded]
    cases s.fateAt "get" 0 <;> rfl
  rw [Kubernetes.get, Kubernetes.runOn_orMissing, ← hplace, show (connection c).send = answer from rfl,
    hanswer, readAt, show s.later 0 = s from rfl]
  rcases s.fateAt "get" 0 with _ | status | _
  · cases s.manifest? Deployment.plural place name <;> rfl
  · simp [Kubernetes.isMissing]
  · rfl

/-- The server after so many reads of a cluster and so many pauses. -/
def afterReads (s : Server) (place name : Value) (reads pauses : Nat)
    (fates : Entries (List Fate)) : Server :=
  (s.later pauses).withRecords
    (s.sent ++ List.replicate reads (.get place Deployment.plural name)) fates

/-- After `reads` reads, the fates of the others are still to come. -/
def Awaits (s : Server) (reads : Nat) (fates : Entries (List Fate)) : Prop :=
  (fates.get? "get").getD [] = ((s.fates.get? "get").getD []).drop reads

/-- A `lookFor` reads the cluster once, and takes no time. -/
theorem lookFor_afterReads (s : Server) (c name state space : Value) {look : Nat}
    {before : Entries (List Fate)} (hbefore : s.Awaits look before) :
    ∃ fates, ((connection c).lookFor name state space).runOn
        (s.afterReads ((connection c).spaceOf space) name look look before) =
        (s.readAt ((connection c).spaceOf space) name look >>= (Kubernetes.showsState · state),
          s.afterReads ((connection c).spaceOf space) name (look + 1) look fates) ∧
      s.Awaits (look + 1) fates := by
  set place := (connection c).spaceOf space with hplace
  obtain ⟨fates, hget, hfates⟩ := get_runOn (s.afterReads place name look look before) c name space
  -- the first fate that is left is the one of this look
  have hfate : (s.afterReads place name look look before).fateAt "get" 0 = s.fateAt "get" look := by
    rw [fateAt, show (afterReads _ _ _ _ _ before).fates = before from rfl, hbefore,
      List.getElem?_drop, Nat.add_zero, fateAt]
  have hread : (s.afterReads place name look look before).readAt place name 0 =
      s.readAt place name look := by
    rw [readAt, hfate]
    rfl
  have hafter : (s.afterReads place name look look before).withRecords
      ((s.afterReads place name look look before).sent ++ [.get place Deployment.plural name])
      fates = s.afterReads place name (look + 1) look fates := by
    rw [afterReads, afterReads, List.replicate_succ', ← List.append_assoc]
    rfl
  refine ⟨fates, ?_, ?_⟩
  · rw [Kubernetes.lookFor, Action.runOn_bind, hget, ← hplace, hread, hafter]
    cases s.readAt place name look <;> rfl
  · rw [Awaits, hfates, show (afterReads _ _ _ _ _ before).fates = before from rfl, hbefore,
      List.drop_drop]

/-- Up to `beforeLook`, there was a pause behind each of the reads. -/
theorem beforeLook_eq (s : Server) (c name state space : Value) (look : Nat) :
    ∃ fates, (connection c).beforeLook clock name state space look s =
        s.afterReads ((connection c).spaceOf space) name look look fates ∧ s.Awaits look fates := by
  induction look with
  | zero =>
    refine ⟨s.fates, ?_, rfl⟩
    rw [afterReads, List.replicate_zero, List.append_nil]
    rfl
  | succ look ih =>
    obtain ⟨before, hbefore, hawaits⟩ := ih
    obtain ⟨fates, hlook, hfates⟩ := lookFor_afterReads s c name state space hawaits
    refine ⟨fates, ?_, hfates⟩
    have hsleep : ∀ u : Server, ((clock.sleep pollMillis).runOn u).2 = u.advance pollMillis :=
      fun _ => rfl
    rw [Kubernetes.beforeLook_succ, hbefore, hlook, hsleep, afterReads, advance_withRecords,
      ← later_succ, ← afterReads]

/-- What a `lookFor` comes to is known beforehand (`shownAt`). -/
theorem lookFor_beforeLook (s : Server) (c name state space : Value) (look : Nat)
    (hs : ∀ m, s.manifest? Deployment.plural ((connection c).spaceOf space) name = some m →
      m.IsLegible) :
    ∃ fates, ((connection c).lookFor name state space).runOn
        ((connection c).beforeLook clock name state space look s) =
      (s.shownAt ((connection c).spaceOf space) name state look,
        s.afterReads ((connection c).spaceOf space) name (look + 1) look fates) := by
  obtain ⟨before, hbefore, hawaits⟩ := beforeLook_eq s c name state space look
  obtain ⟨fates, hlook, -⟩ := lookFor_afterReads s c name state space hawaits
  refine ⟨fates, ?_⟩
  rw [hbefore, hlook, shownAt]
  congr 1
  -- the state of the job can be told from what is found, if anything is
  rcases hfound : s.readAt ((connection c).spaceOf space) name look with _ | _ | manifest
  · rfl
  · rfl
  · refine Value.showsState_of_isLegible (legible_later hs look manifest ?_) state
    rw [readAt] at hfound
    split at hfound
    · exact Except.ok.inj hfound
    · split at hfound
      · exact absurd (Except.ok.inj hfound) (Option.some_ne_none manifest).symm
      · contradiction
    · contradiction

/-! ## How a wait ends -/

/-- How a wait for a state ends that goes on for `seconds` at most: with a read that does not show the
state to be missing, or without one after the least number of pauses that are long enough. -/
inductive WaitEnds (s : Server) (place name state : Value) (seconds : Int) :
    Outcome Bool × Server → Prop where
  /-- There is no pause after the last read, and all reads before it show the state to be missing. -/
  | read (look : Nat) (fates : Entries (List Fate)) (within : 5 * (look : Int) < seconds)
    (ends : s.shownAt place name state look ≠ .ok false)
    (earlier : ∀ earlier < look, s.shownAt place name state earlier = .ok false) :
    WaitEnds s place name state seconds
      (s.shownAt place name state look, s.afterReads place name (look + 1) look fates)
  /-- There is a pause after each read, and all of them show the state to be missing. -/
  | timeout (looks : Nat) (fates : Entries (List Fate))
    (least : IsLeast {k : Nat | seconds ≤ 5 * (k : Int)} looks)
    (all : ∀ look < looks, s.shownAt place name state look = .ok false) :
    WaitEnds s place name state seconds (.ok false, s.afterReads place name looks looks fates)

/-- `awaitState` reads the cluster every five seconds (`later`) until its time is up, and `WaitEnds`
with the first read that shows the state or fails. -/
theorem wait_ends_with_read (s : Server) (c name state space : Value) (seconds : Int)
    (hs : ∀ m, s.manifest? Deployment.plural ((connection c).spaceOf space) name = some m →
      m.IsLegible) :
    (∀ look, (s.later look).now = s.now + 5000 * look) ∧
    WaitEnds s ((connection c).spaceOf space) name state seconds
      (((connection c).awaitState clock name state space (.int seconds)).runOn s) := by
  refine ⟨now_later s, ?_⟩
  have hglance : ∀ look, (connection c).glance clock name state space look s =
      s.shownAt ((connection c).spaceOf space) name state look := by
    intro look
    obtain ⟨_, hlook⟩ := lookFor_beforeLook s c name state space look hs
    rw [Kubernetes.glance, hlook]
  -- from here on the glances are what the server shows, and the clock paces the wait
  obtain hmisses | ⟨look, hwithin, hends, hearlier⟩ :=
    @Kubernetes.misses_or_ends _ (connection c) clock name state space s seconds
  · obtain ⟨looks, hleast⟩ := Kubernetes.exists_isLeast_looks seconds
    have hall : ∀ look < looks, (connection c).glance clock name state space look s = .ok false := by
      intro look hlook
      refine hmisses look (not_le.1 fun hlate => ?_)
      have := hleast.2 hlate
      omega
    obtain ⟨fates, hbefore, -⟩ := beforeLook_eq s c name state space looks
    rw [(paces_clock c).runOn_awaitState_of_misses hleast hall, hbefore]
    simp only [hglance] at hall
    exact .timeout looks fates hleast hall
  · obtain ⟨fates, hlast⟩ := lookFor_beforeLook s c name state space look hs
    rw [(paces_clock c).runOn_awaitState_of_ends hwithin hends rfl hearlier, hlast, hglance]
    simp only [hglance] at hends hearlier
    exact .read look fates hwithin hends hearlier

/-- A cluster that cannot be found at first, and whose job runs after seven seconds. -/
def startingServer : Server where
  resources := [⟨Deployment.plural, .text "default", .text "demo", .map []⟩]
  fates := [("get", [.refused 404])]
  events := [⟨7000, .text "default", .text "demo", .text "RUNNING"⟩]

/-- With eleven seconds for `awaitState`, the third read shows the state; in ten seconds there are
only two reads, which miss it. -/
theorem startingServer_wait_ends :
    (∀ m, startingServer.manifest? Deployment.plural (.text "default") (.text "demo") = some m →
      m.IsLegible) ∧
    (((connection (.text "default")).awaitState clock (.text "demo") (.text "RUNNING") .null
      (.int 11)).runOn startingServer).1 = .ok true ∧
    let run := ((connection (.text "default")).awaitState clock (.text "demo") (.text "RUNNING") .null
      (.int 10)).runOn startingServer
    run.1 = .ok false ∧ run.2.sent.length = 2 := by
  have hlegible : ∀ m, startingServer.manifest? Deployment.plural (.text "default") (.text "demo") =
      some m → m.IsLegible := by
    intro m hm
    have hempty : startingServer.manifest? Deployment.plural (.text "default") (.text "demo") =
      some (.map []) := by decide +kernel
    obtain rfl := Option.some.inj (hempty.symm.trans hm)
    exact ⟨[], rfl, fun _ h => nomatch h⟩
  have hmissing : ∀ look < 2, startingServer.shownAt (.text "default") (.text "demo")
      (.text "RUNNING") look = .ok false := by decide +kernel
  have hshown : startingServer.shownAt (.text "default") (.text "demo") (.text "RUNNING") 2 =
      .ok true := by decide +kernel
  have hends := fun seconds => (wait_ends_with_read startingServer (.text "default") (.text "demo")
    (.text "RUNNING") .null seconds hlegible).2
  refine ⟨hlegible, ?_, ?_⟩
  · have hlong := hends 11
    generalize Action.runOn _ startingServer = result at hlong ⊢
    cases hlong with
    | read look _ within ends earlier =>
      obtain rfl | hless : look = 2 ∨ look < 2 := by omega
      · exact hshown
      · exact absurd (hmissing look hless) ends
    | timeout looks _ least all =>
      -- the third read comes before the end
      have hless : 2 < looks := by
        have : (11 : Int) ≤ 5 * looks := least.1
        omega
      exact absurd (hshown.symm.trans (all 2 hless)) (by decide)
  · have hshort := hends 10
    dsimp only
    generalize Action.runOn _ startingServer = result at hshort ⊢
    cases hshort with
    | read look _ within ends earlier => exact absurd (hmissing look (by omega)) ends
    | timeout looks _ least all =>
      have hle : looks ≤ 2 := least.2 (show (10 : Int) ≤ 5 * (2 : Nat) by decide)
      have hge : (10 : Int) ≤ 5 * looks := least.1
      obtain rfl : looks = 2 := by omega
      exact ⟨rfl, by simp [afterReads, withRecords, startingServer]⟩

end Simulation.Server

end FlinkSteward
