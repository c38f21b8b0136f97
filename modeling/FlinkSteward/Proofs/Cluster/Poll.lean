import FlinkSteward.Proofs.Control.Suspend
import FlinkSteward.Proofs.Observe.Look
import FlinkSteward.Proofs.Observe.Stable
import FlinkSteward.Proofs.Resource.Spec
import Mathlib.Data.List.DropRight

/-!
# What a look at a savepoint tells

An answer of the REST client tells that the savepoint is pending, or why it failed, or where it is.
Exactly one of the three is the case unless the answer is silent: it tells that the savepoint is
completed, and neither of a failure nor of a place. A savepoint without a place is recorded for a
silent answer, and for no other one.

## Key results

- `Rest.Silent`: silent answers
- `Rest.told_of_pollOf`: what is made of an answer, by its parts
- `Rest.causeOf_isTruthy`, `Rest.causeOf_trace`: the cause of a failure
- `Rest.Told.splits_iff`: answers that are no silent ones
- `poll_splits_unless_silent`: looks over the network, and the savepoints that they record
-/

namespace FlinkSteward

open FlinkSteward.Text

/-! ## Traces -/

namespace Text

/-- Whatever `isLineBreak` is `isBlank`. -/
theorem isBlank_of_isLineBreak {c : Char} (h : isLineBreak c = true) : isBlank c = true := by
  simp only [isLineBreak, isBlank, blankRanges, inRanges, List.any_cons, List.any_nil, Bool.or_eq_true,
    Bool.and_eq_true, decide_eq_true_eq, Bool.false_eq_true, or_false] at h ⊢
  omega

/-- What `stripChars` leaves begins with no blank. -/
theorem isBlank_of_stripChars_eq_cons {cs rest : List Char} {c : Char}
    (h : stripChars cs = c :: rest) : isBlank c = false := by
  have hprefix : stripChars cs <+: cs.dropWhile isBlank := List.rdropWhile_prefix ..
  obtain ⟨tail, htail⟩ := hprefix
  have hfirst := List.head?_dropWhile_not isBlank cs
  rw [← htail, h] at hfirst
  exact hfirst

/-- The `firstLine` of a trimmed text is not empty, unless the text is. -/
theorem firstLine_strip_ne {t : String} (h : strip t ≠ "") : firstLine (strip t) ≠ "" := by
  cases hchars : stripChars t.toList with
  | nil => exact absurd (by rw [strip, hchars]) h
  | cons c rest =>
    have hbreak : isLineBreak c = false := Bool.eq_false_iff.2 fun hbreak =>
      Bool.eq_false_iff.1 (isBlank_of_stripChars_eq_cons hchars) (isBlank_of_isLineBreak hbreak)
    rw [firstLine, toList_strip, hchars, List.takeWhile_cons_of_pos (by rw [hbreak]; rfl)]
    exact fun hempty => nomatch String.ofList_injective (hempty.trans String.ofList_nil.symm)

end Text

/-! ## Polls -/

namespace SavepointPoll

/-- Whether the savepoint is told to be pending. -/
def isPending : SavepointPoll → Bool
  | pending => true
  | _ => false

/-- Why the savepoint is told to have failed. -/
def error? : SavepointPoll → Option Value
  | failed cause => cause.nonNull?
  | _ => none

/-- Where the savepoint is told to be. -/
def location? : SavepointPoll → Option Value
  | completed place => place.nonNull?
  | _ => none

/-- Exactly one of the three is told. -/
def Splits (poll : SavepointPoll) : Prop :=
  [poll.isPending, poll.error?.isSome, poll.location?.isSome].count true = 1

instance (poll : SavepointPoll) : Decidable poll.Splits :=
  inferInstanceAs (Decidable (_ = _))

end SavepointPoll

/-! ## Answers -/

namespace Value

variable {v x : Value} {key : String}

theorem isTruthy_text {s : String} : (text s).isTruthy = true ↔ s ≠ "" :=
  decide_eq_true_iff

/-- What is `isTruthy` is not null. -/
theorem filter_nonNull? (v : Value) :
    v.nonNull?.filter isTruthy = if v.isTruthy = true then some v else none := by
  cases v <;> rfl

/-- What is not `isTruthy` has no fields. -/
theorem field?_of_not_truthy (h : v.isTruthy = false) (key : String) : v.field? key = none := by
  cases v with
  | map fields =>
    obtain rfl : fields = [] := by simpa [isTruthy] using h
    rfl
  | _ => rfl

theorem field?_truthy_or_empty (v : Value) (key : String) :
    (if v.isTruthy = true then v else map []).field? key = v.field? key := by
  split
  · rfl
  · rename_i h
    exact (field?_of_not_truthy (Bool.eq_false_iff.2 h) key).symm

theorem bind_nonNull?_field? : v.nonNull?.bind (field? key) = v.field? key := by
  cases v <;> rfl

/-- An `entry` that is null if it is missing is a `field?`. -/
theorem field?_of_entry (h : v.entry key .null = .ok x) : v.field? key = x.nonNull? := by
  cases v with
  | map fields =>
    rw [entry_map] at h
    rw [← Except.ok.inj h, field?]
    cases Entries.get? fields key <;> rfl
  | _ => cases h

/-- An `entry` of an entry, which has none if it is missing, is a `field?` of a field. -/
theorem bind_field?_of_entry {inner : Value} {key' : String} (h : v.entry key (.map []) = .ok inner)
    (hinner : inner.entry key' .null = .ok x) : (v.field? key).bind (field? key') = x.nonNull? := by
  rw [← field?_of_entry hinner]
  cases v with
  | map fields =>
    rw [entry_map] at h
    rw [← Except.ok.inj h, field?]
    cases Entries.get? fields key with
    | none => rfl
    | some y => exact bind_nonNull?_field?
  | _ => cases h

end Value

namespace Rest

/-- The state of the savepoint that an answer tells. -/
def stateOf (v : Value) : Option Value :=
  (v.field? "status").bind (Value.field? "id")

/-- The failure of the savepoint that an answer tells of, if it counts as something. -/
def failureOf (v : Value) : Option Value :=
  ((v.field? "operation").bind (Value.field? "failure-cause")).filter Value.isTruthy

/-- The place of the savepoint that an answer tells. -/
def placeOf (v : Value) : Option Value :=
  (v.field? "operation").bind (Value.field? "location")

/-- An answer with the state `COMPLETED`, and nothing of a failure or a place. -/
structure Silent (v : Value) : Prop where
  completed : stateOf v = some (.text "COMPLETED")
  failure : failureOf v = none
  place : placeOf v = none

/-- An answer that `pollOf` reads as a savepoint of this kind. -/
inductive Told (v : Value) : SavepointPoll → Prop where
  | pending (hstate : stateOf v ≠ some (.text "COMPLETED")) : Told v .pending
  | failed {failure cause : Value} (hstate : stateOf v = some (.text "COMPLETED"))
    (hfailure : failureOf v = some failure) (hcause : causeOf failure = .ok cause) :
    Told v (.failed cause)
  | completed {place : Value} (hstate : stateOf v = some (.text "COMPLETED"))
    (hfailure : failureOf v = none) (hplace : placeOf v = place.nonNull?) :
    Told v (.completed place)

variable {v : Value} {poll : SavepointPoll}

/-- What `pollOf` makes of an answer is `Told` by its parts. -/
theorem told_of_pollOf (h : pollOf v = .ok poll) : Told v poll := by
  obtain ⟨status, hstatus, h⟩ := Outcome.bind_eq_ok.1 h
  obtain ⟨id, hid, h⟩ := Outcome.bind_eq_ok.1 h
  have hstate : stateOf v = id.nonNull? := Value.bind_field?_of_entry hstatus hid
  split at h
  · rename_i hnot
    obtain rfl := Except.ok.inj h
    refine .pending fun hcompleted => hnot ?_
    exact Value.eq_of_nonNull?_eq_some (hstate.symm.trans hcompleted)
  · rename_i hcompleted
    obtain rfl : id = .text "COMPLETED" := not_not.1 hcompleted
    obtain ⟨operation, hoperation, h⟩ := Outcome.bind_eq_ok.1 h
    obtain ⟨failure, hentry, h⟩ := Outcome.bind_eq_ok.1 h
    -- nothing but a map that is not empty has entries
    have hinner : ∀ key, (v.field? "operation").bind (Value.field? key) =
        (if operation.isTruthy = true then operation else .map []).field? key := fun key => by
      rw [Value.field?_of_entry hoperation, Value.bind_nonNull?_field?, Value.field?_truthy_or_empty]
    have hfailure : failureOf v = if failure.isTruthy = true then some failure else none := by
      rw [failureOf, hinner, Value.field?_of_entry hentry, Value.filter_nonNull?]
    split at h
    · rename_i htruthy
      obtain ⟨cause, hcause, h⟩ := Outcome.bind_eq_ok.1 h
      obtain rfl := Except.ok.inj h
      exact .failed hstate (hfailure.trans (if_pos htruthy)) hcause
    · rename_i hnot
      obtain ⟨place, hplace, h⟩ := Outcome.bind_eq_ok.1 h
      obtain rfl := Except.ok.inj h
      refine .completed hstate (hfailure.trans (if_neg hnot)) ?_
      rw [placeOf, hinner, Value.field?_of_entry hplace]

/-- `causeOf` step by step. -/
theorem causeOf_eq (failure : Value) : causeOf failure =
    (failure.entry "stack-trace" .null >>= fun trace =>
      (if trace.isTruthy = true then Config.stripped trace else .ok "") >>= fun text =>
        (if text ≠ "" then .ok (Value.text (firstLine text)) else failure.entry "class" .null) >>=
          fun found => .ok (if found.isTruthy = true then found else .text "unknown failure")) := by
  rw [causeOf]
  congr 1
  funext trace
  split
  · dsimp only
    congr 1
    funext text
    split <;> rfl
  · rfl

/-- What `causeOf` gives counts as something. -/
theorem causeOf_isTruthy {failure cause : Value} (h : causeOf failure = .ok cause) :
    cause.isTruthy = true := by
  rw [causeOf_eq] at h
  obtain ⟨trace, -, h⟩ := Outcome.bind_eq_ok.1 h
  obtain ⟨text, -, h⟩ := Outcome.bind_eq_ok.1 h
  obtain ⟨found, -, h⟩ := Outcome.bind_eq_ok.1 h
  obtain rfl := Except.ok.inj h
  split
  · assumption
  · rfl

/-- What `causeOf` gives for a failure with a trace is the first line of that. -/
theorem causeOf_trace {failure cause : Value} {t : String} (h : causeOf failure = .ok cause)
    (htrace : failure.field? "stack-trace" = some (.text t)) (ht : strip t ≠ "") :
    cause = .text (firstLine (strip t)) := by
  rw [causeOf_eq] at h
  obtain ⟨trace, hentry, h⟩ := Outcome.bind_eq_ok.1 h
  rw [Value.field?_of_entry hentry] at htrace
  obtain rfl := Value.eq_of_nonNull?_eq_some htrace
  have hfilled : t ≠ "" := by
    rintro rfl
    exact ht rfl
  rw [if_pos (Value.isTruthy_text.2 hfilled)] at h
  obtain ⟨text, htext, h⟩ := Outcome.bind_eq_ok.1 h
  obtain rfl := Except.ok.inj htext
  rw [if_pos ht] at h
  obtain ⟨found, hfound, h⟩ := Outcome.bind_eq_ok.1 h
  obtain rfl := Except.ok.inj hfound
  rw [if_pos (Value.isTruthy_text.2 (firstLine_strip_ne ht))] at h
  exact (Except.ok.inj h).symm

/-- What is `Told` is exactly one of the three, unless the answer is `Silent`. -/
theorem Told.splits_iff (h : Told v poll) : poll.Splits ↔ ¬ Silent v := by
  cases h with
  | pending hstate => exact iff_of_true rfl fun h => hstate h.completed
  | @failed failure cause hstate hfailure hcause =>
    have hcounts : cause.nonNull? = some cause :=
      Value.nonNull?_of_ne (by rintro rfl; exact nomatch causeOf_isTruthy hcause)
    refine iff_of_true ?_ fun h => nomatch hfailure.symm.trans h.failure
    simp [SavepointPoll.Splits, SavepointPoll.isPending, SavepointPoll.error?,
      SavepointPoll.location?, hcounts]
  | @completed place hstate hfailure hplace =>
    -- a completed savepoint without a place is the silent case
    cases hfound : place.nonNull? with
    | none =>
      refine iff_of_false ?_ fun h => h ⟨hstate, hfailure, hplace.trans hfound⟩
      simp [SavepointPoll.Splits, SavepointPoll.isPending, SavepointPoll.error?,
        SavepointPoll.location?, hfound]
    | some found =>
      refine iff_of_true ?_ fun h => nomatch h.place.symm.trans (hplace.trans hfound)
      simp [SavepointPoll.Splits, SavepointPoll.isPending, SavepointPoll.error?,
        SavepointPoll.location?, hfound]

/-- A savepoint that is completed at no place is none of the three. -/
example : ¬ (SavepointPoll.completed .null).Splits := by decide

end Rest

/-! ## Savepoints that are looked at -/

/-- The request that `count` others come before is answered with the data `v`. -/
def Network.Reads {τ : Type} (n : Network τ) (count : Nat) (v : Value) : Prop :=
  ∃ text, n.Carries count text ∧ Rest.dataOf text = .ok v

theorem Network.Tells.reads {τ α : Type} {n : Network τ} {read : Value → Outcome α} {count : Nat}
    {x : α} (h : n.Tells read count x) : ∃ v, n.Reads count v ∧ read v = .ok x := by
  obtain ⟨text, hcarried, hread⟩ := h
  obtain ⟨v, hdata, hx⟩ := Outcome.bind_eq_ok.1 hread
  exact ⟨v, ⟨text, hcarried, hdata⟩, hx⟩

/-- Over the network, `Operator.pollSavepoint` gives what the answer `Tells`. -/
theorem Operator.pollSavepoint_eq_ok {σ τ : Type} [Time τ] {o : Operator σ} {conf : Config}
    {p : Part σ (Network τ)} {s : Rest.Settings τ}
    (hconnect : o.connect conf = pure ((Rest.client s).onPart p)) {job trigger : Value} {w v : σ}
    {poll : SavepointPoll} (h : (o.pollSavepoint conf job trigger).runOn w = (.ok poll, v)) :
    (p.get w).Tells Rest.pollOf (p.get w).sent.length poll := by
  obtain ⟨u, hlooked⟩ := Client.use_eq_ok hconnect h
  exact (Rest.savepointStatus_eq_ok.1 (Prod.ext (Prod.mk.inj hlooked).1 rfl)).1

/-- A look of `Rest.savepointStatus` that succeeds `Splits` into exactly one of three, unless the
answer is `Silent`: that the savepoint is pending, why it failed, or where it is. A failure has a
cause that counts as something, which is the first line of its trace if that has any.
`Operator.observeSavepoint` records a savepoint for an answer that it is completed, at the place that
this tells, and so it has none exactly when the answer is silent. -/
theorem poll_splits_unless_silent {τ : Type} [Time τ] (s : Rest.Settings τ) :
    (∀ {job trigger : Value} {n m : Network τ} {poll : SavepointPoll},
      (Rest.savepointStatus s job trigger).runOn n = (.ok poll, m) →
      ∃ v, n.Reads n.sent.length v ∧ Rest.Told v poll ∧ (poll.Splits ↔ ¬ Rest.Silent v) ∧
        ∀ failure cause, Rest.failureOf v = some failure → poll = .failed cause →
          cause.isTruthy = true ∧
          ∀ t, failure.field? "stack-trace" = some (.text t) → strip t ≠ "" →
            cause = .text (firstLine (strip t)) ∧ firstLine (strip t) ≠ "") ∧
    ∀ {ρ σ : Type} [Resource ρ] [LawfulResource ρ] {o : Operator σ} {conf : Config}
      {p : Part σ (Network τ)}, o.connect conf = pure ((Rest.client s).onPart p) →
      ∀ (job : Value) (r : ρ) (w : σ),
        let after := (Resource.job ((o.observeSavepoint job conf).runOn (r, w)).2.1).savepoints
        after.lastSavepoint ≠ (Resource.job r).savepoints.lastSavepoint →
        ∃ v taken, (p.get w).Reads (p.get w).sent.length v ∧ after.lastSavepoint = some taken ∧
          Rest.stateOf v = some (.text "COMPLETED") ∧ Rest.failureOf v = none ∧
          taken.location = Rest.placeOf v ∧ (taken.location = none ↔ Rest.Silent v) := by
  constructor
  · intro job trigger n m poll hrun
    obtain ⟨v, hreads, hpoll⟩ := (Rest.savepointStatus_eq_ok.1 hrun).1.reads
    have htold := Rest.told_of_pollOf hpoll
    refine ⟨v, hreads, htold, htold.splits_iff, ?_⟩
    rintro failure cause hfailure rfl
    cases htold with
    | failed _ hsame hcause =>
      obtain rfl := Option.some.inj (hfailure.symm.trans hsame)
      exact ⟨Rest.causeOf_isTruthy hcause, fun t htrace ht =>
        ⟨Rest.causeOf_trace hcause htrace ht, firstLine_strip_ne ht⟩⟩
  · intro ρ σ _ _ o conf p hconnect job r w after hchanged
    obtain ⟨t, hleft, hlook⟩ := o.observeSavepoint_looks job conf r w
    have hafter : after = t := by
      rw [show after = _ from congrArg (fun r => (Resource.job r).savepoints) hleft,
        LawfulResource.job_withJob]
    rw [hafter] at hchanged ⊢
    generalize ((o.observeSavepoint job conf).runOn (r, w)).1 = outcome,
      ((o.observeSavepoint job conf).runOn (r, w)).2.2 = u at hlook
    -- only a look that finds a savepoint changes the last one
    cases hlook with
    | idle => exact absurd rfl hchanged
    | broken => exact absurd rfl hchanged
    | failed => exact absurd rfl hchanged
    | waits => exact absurd rfl hchanged
    | overdue => exact absurd rfl hchanged
    | found hpending hpoll hnow =>
      obtain ⟨v, hreads, hread⟩ := (Operator.pollSavepoint_eq_ok hconnect hpoll).reads
      cases Rest.told_of_pollOf hread with
      | completed hstate hfailure hplace =>
        exact ⟨v, _, hreads, rfl, hstate, hfailure, hplace.symm,
          fun hnone => ⟨hstate, hfailure, hplace.trans hnone⟩, fun h => hplace.symm.trans h.place⟩

/-- A network that completes every savepoint without a place. -/
def placelessNetwork : Network Number where
  answers _ := .response 200 "\x7b\"status\":\x7b\"id\":\"COMPLETED\"\x7d\x7d" none
  sent := []
  now := .int 0

theorem silent_of_reads_placeless {v : Value} (h : placelessNetwork.Reads 0 v) : Rest.Silent v := by
  obtain ⟨text, ⟨status, location, hanswer, -⟩, hdata⟩ := h
  cases hanswer
  have hread : Rest.dataOf "\x7b\"status\":\x7b\"id\":\"COMPLETED\"\x7d\x7d" =
      .ok (.map [("status", .map [("id", .text "COMPLETED")])]) := by decide +kernel
  obtain rfl := Except.ok.inj (hread.symm.trans hdata)
  exact ⟨rfl, rfl, rfl⟩

/-- A savepoint that is completed without a place is neither pending nor failed nor at a place, and it
is recorded without one. -/
theorem placeless_savepoint_recorded :
    (∃ poll m, (Rest.savepointStatus (Rest.settingsOf {} []) (.text "a1") (.text "t1")).runOn
      placelessNetwork = (.ok poll, m) ∧ ¬ poll.Splits) ∧
    ∃ d w taken, (networkOperator.observeSavepoint (.text "a1") []).runOn
      (runningDeployment, placelessNetwork, { files := { root := "" } }) = (.ok none, d, w) ∧
        d.status.job.savepoints.lastSavepoint = some taken ∧ taken.location = none := by
  have hlaw := poll_splits_unless_silent (Rest.settingsOf {} [])
  constructor
  · have hgiven : ((Rest.savepointStatus (Rest.settingsOf {} []) (.text "a1") (.text "t1")).runOn
        placelessNetwork).1 = .ok (.completed .null) := by decide +kernel
    rcases hrun : (Rest.savepointStatus (Rest.settingsOf {} []) (.text "a1") (.text "t1")).runOn
      placelessNetwork with ⟨outcome, m⟩
    rw [hrun] at hgiven
    obtain rfl : outcome = .ok (.completed .null) := hgiven
    obtain ⟨v, hreads, -, hsplits, -⟩ := hlaw.1 hrun
    exact ⟨_, m, rfl, fun h => hsplits.1 h (silent_of_reads_placeless hreads)⟩
  · have hgiven : ((networkOperator.observeSavepoint (.text "a1") []).runOn (runningDeployment,
        placelessNetwork, { files := { root := "" } })).1 = .ok none := by decide +kernel
    have hsome : ((networkOperator.observeSavepoint (.text "a1") []).runOn (runningDeployment,
        placelessNetwork, { files := { root := "" } })).2.1.status.job.savepoints.lastSavepoint.isSome =
          true := by decide +kernel
    have hlook := hlaw.2 (show networkOperator.connect [] =
      pure ((Rest.client (Rest.settingsOf {} [])).onPart .first) from rfl) (.text "a1")
      runningDeployment (placelessNetwork, { files := { root := "" } })
    -- the run stays closed from here on
    generalize (networkOperator.observeSavepoint (.text "a1") []).runOn
      (runningDeployment, placelessNetwork, { files := { root := "" } }) = run
      at hgiven hsome hlook ⊢
    obtain ⟨outcome, d, w⟩ := run
    obtain rfl : outcome = .ok none := hgiven
    obtain ⟨v, taken, hreads, htaken, -, -, -, hsilent⟩ := hlook (Option.isSome_iff_ne_none.1 hsome)
    exact ⟨d, w, taken, rfl, htaken, hsilent.2 (silent_of_reads_placeless hreads)⟩

end FlinkSteward
