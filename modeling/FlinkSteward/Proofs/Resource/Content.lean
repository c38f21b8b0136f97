import FlinkSteward.Proofs.Json.Layout
import FlinkSteward.Resource.Enumeration
import FlinkSteward.Resource.Record

/-!
# What fields hold

A field of a record is read from a value and written as one. What was read once is settled: it is
written as a sound value, which reads as the same again, and with its maps in the layout of the value
that it is read from.

## Key results

- `Content`: a way of reading and writing, with the laws
- `Content.valid_of_optional`, `Content.valid_of_required`: a field that was read is settled
- `Content.optional_fields`, `Content.required_fields`: a field that was written is read back
-/

namespace FlinkSteward

open Record

/-- A way of reading and writing a field. -/
structure Content (α : Type) where
  /-- How the field is read. -/
  read : Value → Outcome α
  /-- How the field is written. -/
  write : α → Value
  /-- What the field holds, in a layout. -/
  arrange : Layout → α → α
  /-- What reading gives. -/
  Valid : α → Prop
  /-- Reading a sound value gives what is valid. -/
  valid_of_read : ∀ {v a}, v.Sound → v ≠ .null → read v = .ok a → Valid a
  /-- Something is written. -/
  write_ne_null : ∀ {a}, Valid a → write a ≠ .null
  /-- What is written is sound. -/
  sound_write : ∀ {a}, Valid a → (write a).Sound
  /-- What is written reads back in the layout that it was brought into. -/
  read_value : ∀ {a} (l : Layout), Valid a → read (l.value (write a)) = .ok (arrange l a)
  /-- Without a change of layout, what was read stays. -/
  kept_of_read : ∀ {v a}, read v = .ok a → arrange .kept a = a

/-! ## Fields -/

namespace Record

@[simp] theorem get?_field (key other : String) (o : Option Value) :
    Entries.get? (field key o) other = if key = other then o else none := by
  cases o <;> simp [field, Entries.get?]

theorem lookup_eq_none_iff {r : Entries Value} {key : String} :
    lookup r key = none ↔ r.get? key = none ∨ r.get? key = some .null := by
  rw [lookup]
  rcases r.get? key with - | v
  · simp
  · cases v <;> simp [Value.nonNull?]

theorem lookup_eq_some_iff {r : Entries Value} {key : String} {v : Value} :
    lookup r key = some v ↔ r.get? key = some v ∧ v ≠ .null := by
  rw [lookup]
  rcases r.get? key with - | w
  · simp
  · cases w <;> simp +contextual [Value.nonNull?, eq_comm]

theorem lookup_of_get? {r : Entries Value} {key : String} {o : Option Value}
    (h : r.get? key = o) (hne : ∀ v ∈ o, v ≠ .null) : lookup r key = o := by
  cases o with
  | none => exact lookup_eq_none_iff.2 (.inl h)
  | some v => exact lookup_eq_some_iff.2 ⟨h, hne v rfl⟩

/-- An `optional` field that was set was read from its entry. -/
theorem read_of_optional {α : Type} {r : Entries Value} {key : String} {read : Value → Outcome α}
    {a : α} (h : optional r key read = .ok (some a)) :
    ∃ v, lookup r key = some v ∧ read v = .ok a := by
  unfold Record.optional at h
  split at h
  · simp at h
  · rename_i v hv
    cases hread : read v with
    | error e => rw [hread] at h; exact nomatch h
    | ok b =>
      rw [hread] at h
      exact ⟨v, hv, by rw [hread, Option.some.inj (Except.ok.inj h)]⟩

/-- A `required` field has its default or was read from its entry. -/
theorem read_of_required {α : Type} {r : Entries Value} {key : String} {read : Value → Outcome α}
    {default a : α} (h : required r key default read = .ok a) :
    lookup r key = none ∧ a = default ∨ ∃ v, lookup r key = some v ∧ read v = .ok a := by
  rw [required] at h
  split at h
  · exact .inl ⟨‹_›, (Except.ok.inj h).symm⟩
  · exact .inr ⟨_, ‹_›, h⟩

theorem sound_of_lookup {r : Entries Value} (hr : (Value.map r).Sound) {key : String} {v : Value}
    (h : lookup r key = some v) : v.Sound :=
  Value.sound_of_get? hr (lookup_eq_some_iff.1 h).1

/-- A `field` in front of others adds its entry to a `Sound` map. -/
@[simp] theorem sound_field_append {key : String} {o : Option Value} {rest : Entries Value} :
    (Value.map (field key o ++ rest)).Sound ↔
      (∀ v ∈ o, rest.get? key = none ∧ v.Sound) ∧ (Value.map rest).Sound := by
  cases o with
  | none => simp [field]
  | some v =>
    rw [field, List.singleton_append, Value.Sound, Value.SoundFields]
    simp [Value.Sound, and_assoc]

@[simp] theorem sound_field {key : String} {o : Option Value} :
    (Value.map (field key o)).Sound ↔ ∀ v ∈ o, v.Sound := by
  rw [← List.append_nil (field key o), sound_field_append]
  simp [Value.Sound, Value.SoundFields]

end Record

namespace Content

section Fields

variable {α : Type} (c : Content α)

/-- What an optional field is written with is `Sound`. -/
theorem sound_optional {o : Option α} (h : ∀ a ∈ o, c.Valid a) : ∀ a ∈ o, (c.write a).Sound :=
  fun a ha => c.sound_write (h a ha)

/-- What is held has no maps that a layout could change. -/
def Plain : Prop :=
  ∀ l a, c.arrange l a = a

theorem valid_of_optional {r : Entries Value} (hr : (Value.map r).Sound) {key : String}
    {o : Option α} (h : optional r key c.read = .ok o) : ∀ a ∈ o, c.Valid a := by
  rintro a rfl
  obtain ⟨v, hv, hread⟩ := read_of_optional h
  exact c.valid_of_read (sound_of_lookup hr hv) (lookup_eq_some_iff.1 hv).2 hread

theorem valid_of_required {r : Entries Value} (hr : (Value.map r).Sound) {key : String}
    {default a : α} (hd : c.Valid default) (h : required r key default c.read = .ok a) :
    c.Valid a := by
  obtain ⟨-, rfl⟩ | ⟨v, hv, hread⟩ := read_of_required h
  · exact hd
  · exact c.valid_of_read (sound_of_lookup hr hv) (lookup_eq_some_iff.1 hv).2 hread

/-- What a `Content` read once, it writes as what reads the same. -/
theorem read_write {v : Value} {a : α} (h : c.Valid a) (hread : c.read v = .ok a) :
    c.read (c.write a) = .ok a := by
  have hagain := c.read_value .kept h
  rwa [c.kept_of_read hread] at hagain

/-- Two contents that are written as the same value, but for the order of entries, are the same with
their maps in order (`arrange`). -/
theorem arrange_eq_of_write {a b : α} (ha : c.Valid a) (hb : c.Valid b)
    (h : Json.sorted (c.write a) = Json.sorted (c.write b)) : c.arrange .sorted a = c.arrange .sorted b := by
  -- both are what is read from one and the same sorted value
  have hread := (c.read_value .sorted ha).symm.trans ((congrArg c.read h).trans (c.read_value .sorted hb))
  exact Except.ok.inj hread

theorem kept_of_optional {r : Entries Value} {key : String} {o : Option α}
    (h : optional r key c.read = .ok o) : o.map (c.arrange .kept) = o := by
  cases o with
  | none => rfl
  | some a =>
    obtain ⟨v, -, hread⟩ := read_of_optional h
    exact congrArg some (c.kept_of_read hread)

/-- An `optional` field that was written is read back. -/
theorem optional_fields (l : Layout) {fs : Entries Value} {key : String} {o : Option α}
    (h : ∀ a ∈ o, c.Valid a) (hget : fs.get? key = o.map c.write) :
    optional (l.fields fs) key c.read = .ok (o.map (c.arrange l)) := by
  have hl : (l.fields fs).get? key = o.map (fun a => l.value (c.write a)) := by
    rw [l.get?_fields, hget, Option.map_map]
    rfl
  unfold Record.optional
  rw [lookup_of_get? hl]
  · cases o with
    | none => rfl
    | some a => simp [c.read_value l (h a rfl), Except.map]
  · intro v hv
    obtain ⟨a, ha, rfl⟩ := Option.map_eq_some_iff.1 hv
    rw [Ne, l.value_eq_null_iff]
    exact c.write_ne_null (h a ha)

/-- An `optional` field that is `Plain` is read back as it was. -/
theorem optional_plain (hc : c.Plain) (l : Layout) {fs : Entries Value} {key : String}
    {o : Option α} (h : ∀ a ∈ o, c.Valid a) (hget : fs.get? key = o.map c.write) :
    optional (l.fields fs) key c.read = .ok o := by
  rw [c.optional_fields l h hget, funext (hc l)]
  exact congrArg Except.ok Option.map_id'

/-- A `required` field that is always written is read back. -/
theorem required_fields (l : Layout) {fs : Entries Value} {key : String} {default a : α}
    (h : c.Valid a) (hget : fs.get? key = some (c.write a)) :
    required (l.fields fs) key default c.read = .ok (c.arrange l a) := by
  have hl : (l.fields fs).get? key = some (l.value (c.write a)) := by
    rw [l.get?_fields, hget]
    rfl
  rw [required, lookup_of_get? hl]
  · exact c.read_value l h
  · intro v hv
    rw [← Option.some.inj hv, Ne, l.value_eq_null_iff]
    exact c.write_ne_null h

/-- A `required` field is read back, and as its default where it was not written. -/
theorem required_optional (l : Layout) {fs : Entries Value} {key : String} {default : α}
    {o : Option α} (hd : c.arrange l default = default) (h : ∀ a ∈ o, c.Valid a)
    (hget : fs.get? key = o.map c.write) :
    required (l.fields fs) key default c.read = .ok (c.arrange l (o.getD default)) := by
  cases o with
  | none =>
    have hmissing : (l.fields fs).get? key = none := by rw [l.get?_fields, hget]; rfl
    rw [required, lookup_eq_none_iff.2 (.inl hmissing), Option.getD_none, hd]
  | some a => exact c.required_fields l (h a rfl) hget

/-- A `required` field that is always written and `Plain` is read back as it was. -/
theorem required_plain (hc : c.Plain) (l : Layout) {fs : Entries Value} {key : String}
    {default a : α} (h : c.Valid a) (hget : fs.get? key = some (c.write a)) :
    required (l.fields fs) key default c.read = .ok a := by
  rw [c.required_fields l h hget, hc]

end Fields

/-! ## Kinds of content -/

/-- A text. -/
def text : Content String where
  read := Record.text
  write := .text
  arrange _ s := s
  Valid _ := True
  valid_of_read _ _ _ := trivial
  write_ne_null _ := Value.noConfusion
  sound_write _ := trivial
  read_value l _ := by rw [l.value_text]; rfl
  kept_of_read _ := rfl

/-- Whatever a manifest says. -/
def any : Content Value where
  read := Record.any
  write := id
  arrange l v := l.value v
  Valid v := v.Sound ∧ v ≠ .null
  valid_of_read hs hne h := by
    rw [← Except.ok.inj h]
    exact ⟨hs, hne⟩
  write_ne_null h := h.2
  sound_write h := h.1
  read_value _ _ := rfl
  kept_of_read _ := rfl

/-- A number, or a value of another kind that was no text. -/
def integer : Content Value where
  read := Record.integer
  write := id
  arrange l v := l.value v
  Valid v := v.Sound ∧ v ≠ .null ∧ ∀ s, v ≠ .text s
  valid_of_read {v a} hs hne h := by
    rw [Record.integer.eq_def] at h
    split at h
    · -- a text stands for a number, or is refused
      split at h
      · rw [← Except.ok.inj h]
        exact ⟨trivial, Value.noConfusion, fun _ => Value.noConfusion⟩
      · exact nomatch h
    · rename_i ht
      rw [← Except.ok.inj h]
      exact ⟨hs, hne, ht⟩
  write_ne_null h := h.2.1
  sound_write h := h.1
  read_value {v} l h := by
    rw [Record.integer.eq_def]
    split
    · -- what was settled is no text any more, in whatever layout
      rename_i s hs
      exact absurd ((l.value_eq_text_iff).1 hs) (h.2.2 s)
    · rfl
  kept_of_read _ := rfl

/-- A map of any values. -/
def entries : Content (Entries Value) where
  read := Record.entries
  write := .map
  arrange l m := l.fields m
  Valid m := (Value.map m).Sound
  valid_of_read {v m} hs _ h := by
    cases v with
    | map fields => exact Except.ok.inj h ▸ hs
    | _ => exact nomatch h
  write_ne_null _ := Value.noConfusion
  sound_write h := h
  read_value l _ := by rw [l.value_map]; rfl
  kept_of_read _ := congrFun Layout.fields_kept _

private theorem textOrNull_ofText? : textOrNull ∘ Value.ofText? = id := by
  funext s
  cases s <;> rfl

private theorem value_comp_ofText? (l : Layout) : l.value ∘ Value.ofText? = Value.ofText? := by
  funext s
  exact l.value_ofText? s

private theorem mapValues_ofText? (l : Layout) (m : Entries (Option String)) :
    l.fields (m.mapValues Value.ofText?) = (l.entries m).mapValues Value.ofText? := by
  rw [Layout.fields, l.mapValues_entries, Entries.mapValues_mapValues, value_comp_ofText?]

/-- A map of texts. -/
def texts : Content (Entries (Option String)) where
  read := Record.texts
  write := ofTexts
  arrange l m := l.entries m
  Valid m := m.Distinct
  valid_of_read {v m} hs _ h := by
    cases v with
    | map fields =>
      rw [← show Entries.mapValues textOrNull fields = m from Except.ok.inj h]
      exact (Value.sound_map_iff.1 hs).1.mapValues _
    | _ => exact nomatch h
  write_ne_null _ := Value.noConfusion
  sound_write {m} h := by
    refine Value.sound_map_iff.2 ⟨h.mapValues _, fun e he => ?_⟩
    obtain ⟨⟨_, s⟩, -, rfl⟩ := List.mem_map.1 he
    cases s <;> trivial
  read_value {m} l _ := by
    -- the texts are the same in every layout, so that only their keys are moved
    rw [ofTexts, l.value_map, mapValues_ofText?]
    refine congrArg Except.ok ?_
    rw [Entries.mapValues_mapValues, textOrNull_ofText?, Entries.mapValues_id]
  kept_of_read _ := rfl

/-- A list of texts. -/
def textList : Content (List (Option String)) where
  read := Record.textList
  write := ofTextList
  arrange _ items := items
  Valid _ := True
  valid_of_read _ _ _ := trivial
  write_ne_null _ := Value.noConfusion
  sound_write {items} _ := by
    refine Value.soundList_iff.2 fun v hv => ?_
    obtain ⟨s, -, rfl⟩ := List.mem_map.1 hv
    cases s <;> trivial
  read_value {items} l _ := by
    have hback : (items.map Value.ofText?).map textOrNull = items := by
      rw [List.map_map, textOrNull_ofText?, List.map_id]
    rw [ofTextList, l.value_list, List.map_map, value_comp_ofText?]
    exact congrArg Except.ok hback
  kept_of_read _ := rfl

theorem valid_int (i : Int) : integer.Valid (.int i) :=
  ⟨trivial, Value.noConfusion, fun _ => Value.noConfusion⟩

theorem valid_texts_nil : texts.Valid [] := trivial

@[simp] theorem sound_ofTextList (items : List (Option String)) : (ofTextList items).Sound :=
  textList.sound_write trivial

@[simp] theorem write_any : any.write = id := rfl

@[simp] theorem write_integer : integer.write = id := rfl

@[simp] theorem write_entries : entries.write = .map := rfl

@[simp] theorem write_texts : texts.write = ofTexts := rfl

end Content

/-! ## Enumerations -/

/-- Members are told apart by their written values. -/
class LawfulEnumeration (α : Type) [Enumeration α] : Prop where
  /-- The written value of a member is its own. -/
  ofWritten?_written : ∀ a : α, Enumeration.ofWritten? (Enumeration.written a) = some a

instance : LawfulEnumeration UpgradeMode := ⟨fun a => by cases a <;> rfl⟩

instance : LawfulEnumeration JobState := ⟨fun a => by cases a <;> rfl⟩

instance : LawfulEnumeration FlinkVersion := ⟨fun a => by cases a <;> rfl⟩

instance : LawfulEnumeration ManagerStatus := ⟨fun a => by cases a <;> rfl⟩

instance : LawfulEnumeration SavepointTrigger := ⟨fun a => by cases a <;> rfl⟩

theorem Enumeration.parse_encode {α : Type} [Enumeration α] [LawfulEnumeration α] (a : α) :
    parse (encode a) = .ok a := by
  rw [encode, parse, LawfulEnumeration.ofWritten?_written]

@[simp] theorem Enumeration.sound_encode {α : Type} [Enumeration α] (a : α) :
    (encode a).Sound := trivial

/-- A member of an enumeration. -/
def Content.member (α : Type) [Enumeration α] [LawfulEnumeration α] : Content α where
  read := Enumeration.parse
  write := Enumeration.encode
  arrange _ a := a
  Valid _ := True
  valid_of_read _ _ _ := trivial
  write_ne_null _ := Value.noConfusion
  sound_write _ := trivial
  read_value {a} l _ := by rw [Enumeration.encode, l.value_text]; exact Enumeration.parse_encode a
  kept_of_read _ := rfl

/-! ## Fields without maps -/

section Plain

variable {fs : Entries Value} {key : String} (l : Layout)

theorem optional_text {o : Option String} (h : fs.get? key = o.map .text) :
    optional (l.fields fs) key text = .ok o :=
  Content.text.optional_plain (fun _ _ => rfl) l (fun _ _ => trivial) h

theorem required_textList {default items : List (Option String)}
    (h : fs.get? key = some (ofTextList items)) :
    required (l.fields fs) key default textList = .ok items :=
  Content.textList.required_plain (fun _ _ => rfl) l trivial h

variable {α : Type} [Enumeration α] [LawfulEnumeration α]

theorem optional_member {o : Option α} (h : fs.get? key = o.map Enumeration.encode) :
    optional (l.fields fs) key Enumeration.parse = .ok o :=
  (Content.member α).optional_plain (fun _ _ => rfl) l (fun _ _ => trivial) h

theorem required_member {default a : α} (h : fs.get? key = some (Enumeration.encode a)) :
    required (l.fields fs) key default Enumeration.parse = .ok a :=
  (Content.member α).required_plain (fun _ _ => rfl) l trivial h

theorem required_getD_member {default : α} {o : Option α}
    (h : fs.get? key = o.map Enumeration.encode) :
    required (l.fields fs) key default Enumeration.parse = .ok (o.getD default) :=
  (Content.member α).required_optional l rfl (fun _ _ => trivial) h

end Plain

end FlinkSteward
