import FlinkSteward.Proofs.Value.Path
import FlinkSteward.Value.Object

/-!
# Objects in several places

What is known of objects from their values and from their marks. The order of the entries of maps does
not matter to which places hold one object. In what was laid together, an object is new where both
templates go on, and one of theirs where only one of them does.

## Key results

- `Object.Apart`: no list and no map stands in two places
- `Object.child?_overlay`: one step into a template with another laid over it
- `Object.overlayMarks_eq`: where the marks of laid templates come from
- `Object.isOne_sorted`, `Object.overlay?_sorted`: objects whose maps were sorted
-/

namespace FlinkSteward

open Value (Step)

/-! ## Places in sorted values -/

namespace Value

theorem child?_sorted (v : Value) (s : Step) :
    (Json.sorted v).child? s = (v.child? s).map Json.sorted := by
  cases v with
  | list items => cases s <;> simp [Json.sorted_list, child?]
  | map fields => cases s <;> simp [Json.sorted_map, child?, Entries.get?_mapValues]
  | _ => cases s <;> simp [Json.sorted, child?]

theorem atPath?_sorted (v : Value) (path : List Step) :
    (Json.sorted v).atPath? path = (v.atPath? path).map Json.sorted := by
  induction path generalizing v with
  | nil => rfl
  | cons s path ih =>
    rw [atPath?_cons, atPath?_cons, child?_sorted]
    cases v.child? s with
    | none => rfl
    | some w => exact ih w

end Value

namespace Object

/-! ## Objects that stand in one place -/

/-- `isOne` holds of no two places of an object: no list and no map stands twice. -/
def Apart (o : Object) : Prop :=
  ∀ p q, o.isOne p q = false

theorem markAt?_eq (o : Object) (path : List Step) :
    o.markAt? path = none ∨ o.markAt? path = o.marks path := by
  rw [markAt?]
  split
  · exact .inr rfl
  · exact .inr rfl
  · exact .inl rfl

/-- An object without marks is `Apart`. -/
theorem apart_of_marks {o : Object} (h : o.marks = .apart) : o.Apart := by
  intro p q
  have hnone : o.markAt? p = none := by
    rcases o.markAt?_eq p with hp | hp
    · exact hp
    · exact hp.trans (congrFun h p)
  simp [isOne, hnone]

@[simp] theorem isOne_apart (v : Value) (p q : List Step) : (mk v .apart).isOne p q = false :=
  apart_of_marks rfl p q

/-- An object with a mark in one place only is `Apart`. -/
theorem apart_of_place {o : Object} (place : List Step)
    (h : ∀ path, path ≠ place → o.marks path = none) : o.Apart := by
  intro p q
  rw [isOne, Bool.and_eq_false_iff, decide_eq_false_iff_not, not_not]
  by_cases hpq : p = q
  · exact .inl hpq
  · -- one of the two is another place
    refine .inr (Bool.eq_false_iff.2 fun hone => ?_)
    obtain ⟨hsome, hsame⟩ : (o.markAt? p).isSome ∧ o.markAt? p = o.markAt? q := by simpa using hone
    have hmarked : ∀ path, (o.markAt? path).isSome → path = place := by
      intro path hpath
      by_contra hne
      rcases o.markAt?_eq path with hnone | hnone
      · simp [hnone] at hpath
      · simp [hnone, h path hne] at hpath
    exact hpq ((hmarked p hsome).trans (hmarked q (hsame ▸ hsome)).symm)

/-! ## Templates laid over others -/

theorem merges_iff {v w : Value} : merges v w = true ↔ Value.Merge v w := by
  constructor
  · intro h
    unfold merges at h
    split at h
    · exact .maps _ _
    · exact .lists _ _
    · exact nomatch h
  · rintro (_ | _) <;> rfl

/-- Below templates that merge, `overlayMarks` gives the marks of what was laid together one step
further in. -/
theorem overlayMarks_cons {lower upper : Object} (h : merges lower.value upper.value) (s : Step)
    (path : List Step) : overlayMarks lower upper (s :: path) =
      ((overlay? (lower.child? s) (upper.child? s)).map marks).getD .apart path := by
  rw [overlayMarks, if_pos h]
  cases lower.child? s <;> cases upper.child? s <;> rfl

/-- One step into `overlay` of templates that merge leads to what was laid together there, or else to
the object that one of the two has there. -/
theorem child?_overlay {lower upper : Object} (h : merges lower.value upper.value)
    (hupper : upper.value.Sound) (s : Step) :
    (overlay lower upper).child? s = overlay? (lower.child? s) (upper.child? s) := by
  have hmarks : (overlayMarks lower upper).below s =
      ((overlay? (lower.child? s) (upper.child? s)).map marks).getD .apart :=
    funext (overlayMarks_cons h s)
  rw [child?, overlay, hmarks, Value.child?_overlay (merges_iff.1 h) hupper]
  cases hl : lower.value.child? s <;> cases hu : upper.value.child? s <;>
    simp [child?, hl, hu, overlay?, overlay, Value.overlayOver]

/-- A mark of `overlayMarks` is a mark of one of the two templates. -/
theorem overlayMarks_eq (lower upper : Object) (path : List Step) :
    overlayMarks lower upper path = none ∨ overlayMarks lower upper path = lower.marks path ∨
      overlayMarks lower upper path = upper.marks path := by
  induction path generalizing lower upper with
  | nil =>
    rw [overlayMarks]
    split
    · exact .inl rfl
    · exact .inr (.inr rfl)
  | cons s path ih =>
    rw [overlayMarks]
    split
    · unfold child?
      cases lower.value.child? s with
      | none =>
        cases upper.value.child? s with
        | none => exact .inl rfl
        | some u => exact .inr (.inr rfl)
      | some l =>
        cases upper.value.child? s with
        | none => exact .inr (.inl rfl)
        -- two parts that are laid together are templates themselves
        | some u => exact ih ⟨l, lower.marks.below s⟩ ⟨u, upper.marks.below s⟩
    · exact .inr (.inr rfl)

/-- `overlay?` of templates without marks has none. -/
theorem overlay?_marks {lower upper : Option Object} (hlower : ∀ o ∈ lower, o.marks = .apart)
    (hupper : ∀ o ∈ upper, o.marks = .apart) : ∀ o ∈ overlay? lower upper, o.marks = .apart := by
  cases lower with
  | none => exact hupper
  | some l =>
    cases upper with
    | none => exact hlower
    | some u =>
      rintro _ ⟨⟩
      funext path
      rcases overlayMarks_eq l u path with h | h | h
      · exact h
      · exact h.trans (congrFun (hlower l rfl) path)
      · exact h.trans (congrFun (hupper u rfl) path)

theorem overlay?_value (lower upper : Option Object) : (overlay? lower upper).map value =
    Value.overlay? (lower.map value) (upper.map value) := by
  cases lower <;> cases upper <;> rfl

/-! ## Objects that were sorted -/

/-- An object with its maps in the order of their keys. -/
def sorted (o : Object) : Object :=
  { o with value := Json.sorted o.value }

theorem markAt?_sorted (o : Object) (path : List Step) : o.sorted.markAt? path = o.markAt? path := by
  rw [markAt?, markAt?, sorted, Value.atPath?_sorted]
  rcases o.value.atPath? path with _ | v
  · rfl
  · cases v <;> simp [Json.sorted]

/-- `isOne` does not depend on the order of entries. -/
theorem isOne_sorted (o : Object) : o.sorted.isOne = o.isOne := by
  funext p q
  rw [isOne, isOne, markAt?_sorted, markAt?_sorted]

theorem merges_sorted (v w : Value) : merges (Json.sorted v) (Json.sorted w) = merges v w := by
  cases v <;> cases w <;> simp [Json.sorted, merges]

theorem child?_sorted (o : Object) (s : Step) : o.sorted.child? s = (o.child? s).map sorted := by
  rw [child?, child?, sorted, Value.child?_sorted, Option.map_map, Option.map_map]
  rfl

theorem overlayMarks_sorted (lower upper : Object) :
    overlayMarks lower.sorted upper.sorted = overlayMarks lower upper := by
  funext path
  induction path generalizing lower upper with
  | nil => simp only [overlayMarks, sorted, merges_sorted]
  | cons s path ih =>
    rw [overlayMarks, overlayMarks, child?_sorted, child?_sorted]
    simp only [show lower.sorted.value = Json.sorted lower.value from rfl,
      show upper.sorted.value = Json.sorted upper.value from rfl, merges_sorted]
    split
    · cases lower.child? s <;> cases upper.child? s <;> simp [ih]
      all_goals rfl
    · rfl

theorem sorted_overlay {lower upper : Object} (hlower : lower.value.Sound) (hupper : upper.value.Sound) :
    (overlay lower.sorted upper.sorted).sorted = (overlay lower upper).sorted := by
  have hvalue := Value.sorted_overlay hlower hupper
  have hmarks := overlayMarks_sorted lower upper
  unfold sorted overlay at *
  rw [hmarks]
  exact congrArg (Object.mk · _) hvalue

@[simp] theorem sorted_sorted (o : Object) : o.sorted.sorted = o.sorted := by
  simp [sorted, Json.sorted_sorted]

/-- Templates that may be missing may be `sorted` before one is laid over the other. -/
theorem overlay?_sorted {lower upper : Option Object} (hlower : ∀ o ∈ lower, o.value.Sound)
    (hupper : ∀ o ∈ upper, o.value.Sound) :
    (overlay? (lower.map sorted) (upper.map sorted)).map sorted = (overlay? lower upper).map sorted := by
  cases lower with
  | none => cases upper <;> simp [overlay?]
  | some base =>
    cases upper with
    | none => simp [overlay?]
    | some o => exact congrArg some (sorted_overlay (hlower base rfl) (hupper o rfl))

end Object

end FlinkSteward
