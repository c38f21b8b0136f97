import FlinkSteward.Proofs.Resource.Spec
import FlinkSteward.Proofs.Value.Patch

/-!
# Pieces of statuses

A status is written over the one that was written before, and the fields that are not set now keep
the values of then. A *piece* of a status is a field or a record: what it *covers* is what is set in
it, it *replaces* another piece if nothing of that stays in its numbers, and it is *faithful* when
texts are all that stands where texts are read.

## Key results

- `Piece`: a piece with its laws
- `ReadsOver`: what is read back of something that was written over older data
- `Piece.optional_laid`, `Piece.required_laid`: fields of a record that was written over another
- `Piece.listOf`: lists of pieces, which replace each other
-/

namespace FlinkSteward

open Record

/-- Reading back `a`, which was written over older data, gives something that is covered by what
covers both, that is `a` itself when `a` is faithful and covers the older data, and that `a` replaces
when it is written again. -/
def ReadsOver {α : Type} (Covers Replaces : α → α → Prop) (Faithful : α → Prop) (read : Outcome α)
    (a : α) (covered : α → Prop) : Prop :=
  ∃ w, read = .ok w ∧ (∀ t, Covers t w ↔ Covers t a ∧ covered t) ∧
    (w = a ↔ Faithful a ∧ covered a) ∧ Replaces a w

/-- A field that is set before is set after. -/
def StaysSet {α : Type} (before after : Option α) : Prop :=
  before.isSome → after.isSome

/-- What a value stands for that may be missing or null. -/
def readIfSet {α : Type} (read : Value → Outcome α) (v : Option Value) : Outcome (Option α) :=
  match v.bind Value.nonNull? with
  | none => .ok none
  | some v => (read v).map some

theorem Record.optional_eq_readIfSet {α : Type} (r : Entries Value) (key : String)
    (read : Value → Outcome α) : optional r key read = readIfSet read (r.get? key) := by
  unfold Record.optional lookup readIfSet
  cases (r.get? key).bind Value.nonNull? <;> rfl

/-- A piece of a status. -/
structure Piece (α : Type) where
  /-- How the piece is read. -/
  read : Value → Outcome α
  /-- How the piece is written. -/
  write : α → Value
  /-- What a status holds. -/
  Valid : α → Prop
  /-- What is read as text is text. -/
  Faithful : α → Prop
  /-- What is set in the second is set in the first. -/
  Covers : α → α → Prop
  /-- No number of the first merges with one of the second. -/
  Replaces : α → α → Prop
  /-- Reading gives what is valid and faithful. -/
  valid_of_read : ∀ {v a}, v.Sound → v ≠ .null → read v = .ok a → Valid a ∧ Faithful a
  /-- Something is written. -/
  write_ne_null : ∀ {a}, Valid a → write a ≠ .null
  /-- What is written over older data reads back together with it. -/
  read_over : ∀ {a}, Valid a → ∀ {old : Option Value} {o : Option α}, readIfSet read old = .ok o →
    (∀ b ∈ o, Replaces a b) →
      ReadsOver Covers Replaces Faithful (read (Value.patchOver old (write a))) a
        fun t => ∀ b ∈ o, Covers t b

namespace Piece

/-! ## Fields -/

section Fields

variable {α : Type} (p : Piece α)

/-- What is set in the second field is set in the first, piece by piece. -/
def OptionCovers (t s : Option α) : Prop :=
  ∀ a ∈ s, ∃ b ∈ t, p.Covers b a

/-- No number of the first field merges with one of the second. -/
def OptionReplaces (t s : Option α) : Prop :=
  ∀ a ∈ t, ∀ b ∈ s, p.Replaces a b

/-- A `Piece` reads back that was written where nothing was before. -/
theorem read_write {a : α} (hv : p.Valid a) (hf : p.Faithful a) : p.read (p.write a) = .ok a := by
  have hunset : readIfSet p.read none = .ok none := rfl
  obtain ⟨w, hw, -, hiff, -⟩ := p.read_over hv hunset fun _ hb => nomatch hb
  rw [hiff.2 ⟨hf, fun b hb => nomatch hb⟩] at hw
  exact hw

theorem valid_of_optional {r : Entries Value} (hr : (Value.map r).Sound) {key : String}
    {o : Option α} (h : optional r key p.read = .ok o) : ∀ a ∈ o, p.Valid a ∧ p.Faithful a := by
  rintro a rfl
  obtain ⟨v, hv, hread⟩ := read_of_optional h
  exact p.valid_of_read (sound_of_lookup hr hv) (lookup_eq_some_iff.1 hv).2 hread

theorem valid_of_required {r : Entries Value} (hr : (Value.map r).Sound) {key : String}
    {default a : α} (hd : p.Valid default ∧ p.Faithful default)
    (h : required r key default p.read = .ok a) : p.Valid a ∧ p.Faithful a := by
  obtain ⟨-, rfl⟩ | ⟨v, hv, hread⟩ := read_of_required h
  · exact hd
  · exact p.valid_of_read (sound_of_lookup hr hv) (lookup_eq_some_iff.1 hv).2 hread

theorem lookup_laid {older changes fields : Entries Value} (h : Laid older changes fields)
    {key : String} {v : Value} (hget : changes.get? key = some v) (hv : v ≠ .null) :
    lookup fields key = some (Value.patchOver (older.get? key) v) := by
  refine lookup_eq_some_iff.2 ⟨?_, Value.patchOver_ne_null _ hv⟩
  rw [h key, hget]

/-- An `optional` field of a record that was written over another (`ReadsOver`). -/
theorem optional_laid {older changes fields : Entries Value} (h : Laid older changes fields)
    {key : String} {a o : Option α} (ho : optional older key p.read = .ok o)
    (hget : changes.get? key = a.map p.write) (hv : ∀ x ∈ a, p.Valid x)
    (hr : p.OptionReplaces a o) :
    ReadsOver p.OptionCovers p.OptionReplaces (fun s => ∀ x ∈ s, p.Faithful x)
      (optional fields key p.read) a fun t => p.OptionCovers t o := by
  rw [optional_eq_readIfSet] at ho
  cases a with
  | none =>
    -- the field is not written, so that the older one stays
    have hkey : fields.get? key = older.get? key := by rw [h key, hget]; rfl
    refine ⟨o, by rw [optional_eq_readIfSet, hkey, ho], fun t => ?_, ?_, fun _ ha => nomatch ha⟩
    · simp [OptionCovers]
    · cases o <;> simp [OptionCovers]
  | some a =>
    -- the field is written over the older one
    have hva := hv a rfl
    obtain ⟨w, hw, hcovers, hiff, hrep⟩ := p.read_over hva ho (hr a rfl)
    refine ⟨some w, ?_, fun t => ?_, ?_, ?_⟩
    · unfold Record.optional
      rw [lookup_laid h hget (p.write_ne_null hva)]
      simp only [hw]
      rfl
    · cases t <;> cases o <;> simp_all [OptionCovers]
    · cases o <;> simp_all [OptionCovers]
    · simpa [OptionReplaces] using hrep

/-- An `optional` field that holds no record: all that counts is whether it is set (`StaysSet`). -/
theorem optional_leaf_laid (hc : ∀ a b, p.Covers a b) {older changes fields : Entries Value}
    (h : Laid older changes fields) {key : String} {a o : Option α}
    (ho : optional older key p.read = .ok o) (hget : changes.get? key = a.map p.write)
    (hv : ∀ x ∈ a, p.Valid x) (hr : p.OptionReplaces a o) :
    ReadsOver (fun t s => StaysSet s t) p.OptionReplaces (fun s => ∀ x ∈ s, p.Faithful x)
      (optional fields key p.read) a fun t => StaysSet o t := by
  have hset : ∀ t s : Option α, p.OptionCovers t s ↔ StaysSet s t := by
    intro t s
    cases t <;> cases s <;> simp [OptionCovers, StaysSet, hc]
  obtain ⟨w, hw, hcovers, hiff, hrep⟩ := p.optional_laid h ho hget hv hr
  refine ⟨w, hw, fun t => ?_, ?_, hrep⟩
  · simpa only [hset] using hcovers t
  · simpa only [hset] using hiff

/-- A `required` field of a record that was written over another (`ReadsOver`). -/
theorem required_laid {older changes fields : Entries Value} (h : Laid older changes fields)
    {key : String} {default a o : α} (hd : ∀ t, p.Covers t default)
    (ho : required older key default p.read = .ok o)
    (hget : changes.get? key = some (p.write a)) (hv : p.Valid a) (hr : p.Replaces a o) :
    ReadsOver p.Covers p.Replaces p.Faithful (required fields key default p.read) a
      fun t => p.Covers t o := by
  -- the default covers nothing, so that an older field that was missing counts for nothing either
  have hre : ∃ b : Option α, readIfSet p.read (older.get? key) = .ok b ∧
      (∀ t, (∀ x ∈ b, p.Covers t x) ↔ p.Covers t o) ∧ ∀ x ∈ b, p.Replaces a x := by
    rw [← optional_eq_readIfSet, Record.optional.eq_def]
    obtain ⟨hl, rfl⟩ | ⟨v, hl, hread⟩ := read_of_required ho
    · exact ⟨none, by rw [hl], fun t => by simp [hd t], fun _ hx => nomatch hx⟩
    · exact ⟨some o, by simp only [hl, hread]; rfl, fun t => by simp, by simpa using hr⟩
  obtain ⟨b, hb, hcov, hrb⟩ := hre
  obtain ⟨w, hw, hcovers, hiff, hrep⟩ := p.read_over hv hb hrb
  refine ⟨w, ?_, fun t => ?_, ?_, hrep⟩
  · rw [required, lookup_laid h hget (p.write_ne_null hv)]
    exact hw
  · exact (hcovers t).trans (and_congr_right' (hcov t))
  · exact hiff.trans (and_congr_right' (hcov a))

end Fields

/-! ## Kinds of pieces -/

theorem patchOver_of_unset {α : Type} {read : Value → Outcome α} {old : Option Value}
    (h : readIfSet read old = .ok none) (v : Value) : Value.patchOver old v = v := by
  cases old with
  | none => rfl
  | some u =>
    cases u with
    | null => cases v <;> simp [Value.patchOver, Value.patch]
    | _ =>
      -- anything else is read, and reading gives something
      simp only [readIfSet, Option.bind_some, Value.nonNull?] at h
      revert h
      generalize read _ = x
      cases x <;> simp [Except.map]

/-- What `readIfSet` gives was read from a value. -/
private theorem read_of_readIfSet {α : Type} {read : Value → Outcome α} {old : Option Value} {a : α}
    (h : readIfSet read old = .ok (some a)) : ∃ v, old = some v ∧ v ≠ .null ∧ read v = .ok a := by
  rw [readIfSet] at h
  split at h
  · simp at h
  · rename_i v hv
    obtain ⟨u, rfl, hu⟩ := Option.bind_eq_some_iff.1 hv
    have hne : u ≠ .null := by
      rintro rfl
      exact nomatch hu
    obtain rfl := Option.some.inj ((Value.nonNull?_of_ne hne).symm.trans hu)
    cases hread : read u with
    | error e => rw [hread] at h; exact nomatch h
    | ok b =>
      rw [hread] at h
      exact ⟨u, rfl, hne, by rw [hread, Option.some.inj (Except.ok.inj h)]⟩

/-- What replaces older data and reads back as one thing or another. -/
private theorem readsOver_leaf {α : Type} {Replaces : α → α → Prop} {Faithful : α → Prop}
    {read : Outcome α} {a w : α} {o : Option α} (h : read = .ok w) (hf : w = a ↔ Faithful a)
    (hr : Replaces a w) :
    ReadsOver (fun _ _ => True) Replaces Faithful read a fun _ => ∀ b ∈ o, True :=
  ⟨w, h, by simp, by simpa using hf, hr⟩

/-- A text. -/
def text : Piece String where
  read := Record.text
  write := .text
  Valid _ := True
  Faithful _ := True
  Covers _ _ := True
  Replaces _ _ := True
  valid_of_read _ _ _ := ⟨trivial, trivial⟩
  write_ne_null := Content.text.write_ne_null
  read_over {s} _ old o _ _ := by
    rw [Value.patchOver_of_not_map _ fun _ => Value.noConfusion]
    exact readsOver_leaf (w := s) rfl (by simp) trivial

/-- A text that is kept as the value that it was reported as. -/
def reported : Piece Value where
  read v := (Record.text v).map .text
  write := id
  Valid v := v ≠ .null
  Faithful v := ∃ s, v = .text s
  Covers _ _ := True
  Replaces _ _ := True
  valid_of_read {v a} _ _ h := by
    rw [← Except.ok.inj h]
    exact ⟨Value.noConfusion, _, rfl⟩
  write_ne_null h := h
  read_over {v} _ old o _ _ := by
    refine readsOver_leaf rfl ⟨fun h => ⟨_, h.symm⟩, ?_⟩ trivial
    rintro ⟨s, rfl⟩
    rw [id, Value.patchOver_of_not_map _ fun _ => Value.noConfusion]
    rfl

/-- What merges with no number that was read does not merge with what that was read from. -/
private theorem patchOver_of_readIfSet {old o : Option Value}
    (h : readIfSet Record.integer old = .ok o) {v : Value} (hr : ∀ u ∈ o, Value.patch u v = v) :
    Value.patchOver old v = v := by
  cases o with
  | none => exact patchOver_of_unset h v
  | some u =>
    obtain ⟨w, rfl, -, hread⟩ := read_of_readIfSet h
    -- a text does not merge, and everything else was read as it is
    rw [Record.integer.eq_def] at hread
    split at hread
    · cases v <;> simp [Value.patchOver, Value.patch]
    · rw [Value.patchOver, Except.ok.inj hread]
      exact hr u rfl

/-- A number, or a value of another kind that was no text. -/
def integer : Piece Value where
  read := Record.integer
  write := id
  Valid := Content.integer.Valid
  Faithful _ := True
  Covers _ _ := True
  Replaces v u := Value.patch u v = v
  valid_of_read hs hne h := ⟨Content.integer.valid_of_read hs hne h, trivial⟩
  write_ne_null h := h.2.1
  read_over {v} hv old o ho hr := by
    refine readsOver_leaf (w := v) ?_ (by simp) (Value.patch_self hv.1)
    rw [id, patchOver_of_readIfSet ho hr]
    exact Content.integer.read_value .kept hv

/-- A member of an enumeration. -/
def member (α : Type) [Enumeration α] [LawfulEnumeration α] : Piece α where
  read := Enumeration.parse
  write := Enumeration.encode
  Valid _ := True
  Faithful _ := True
  Covers _ _ := True
  Replaces _ _ := True
  valid_of_read _ _ _ := ⟨trivial, trivial⟩
  write_ne_null := (Content.member α).write_ne_null
  read_over {a} _ old o _ _ := by
    rw [Value.patchOver_of_not_map _ fun _ => Value.noConfusion]
    exact readsOver_leaf (Enumeration.parse_encode a) (by simp) trivial

theorem valid_int (i : Int) : integer.Valid (.int i) ∧ integer.Faithful (.int i) :=
  ⟨Content.valid_int i, trivial⟩

/-- Nothing merges with an integer. -/
theorem replaces_int (v : Value) (i : Int) : integer.Replaces v (.int i) := by
  cases v <;> simp [integer, Value.patch]

/-- An integer does not merge. -/
theorem int_replaces (i : Int) (v : Value) : integer.Replaces (.int i) v := by
  simp [integer, Value.patch]

/-! ## Fields of a record that is written over another -/

section Laid

variable {older changes fields : Entries Value} {key : String}

theorem optional_text_laid (h : Laid older changes fields) {a o : Option String}
    (ho : optional older key Record.text = .ok o) (hget : changes.get? key = a.map .text) :
    ∃ w, optional fields key Record.text = .ok w ∧
      (∀ t, StaysSet w t ↔ StaysSet a t ∧ StaysSet o t) ∧ (w = a ↔ StaysSet o a) := by
  obtain ⟨w, hw, hc, he, -⟩ := text.optional_leaf_laid (fun _ _ => trivial) h ho hget
    (fun _ _ => trivial) fun _ _ _ _ => trivial
  exact ⟨w, hw, hc, he.trans (and_iff_right fun _ _ => trivial)⟩

theorem optional_reported_laid (h : Laid older changes fields) {a o : Option Value}
    (ho : optional older key reported.read = .ok o) (hget : changes.get? key = a)
    (hv : ∀ v ∈ a, v ≠ .null) :
    ∃ w, optional fields key reported.read = .ok w ∧
      (∀ t, StaysSet w t ↔ StaysSet a t ∧ StaysSet o t) ∧
        (w = a ↔ (∀ v ∈ a, ∃ s, v = .text s) ∧ StaysSet o a) := by
  obtain ⟨w, hw, hc, he, -⟩ := reported.optional_leaf_laid (fun _ _ => trivial) h ho
    (by rw [hget]; exact Option.map_id'.symm) hv fun _ _ _ _ => trivial
  exact ⟨w, hw, hc, he⟩

theorem optional_integer_laid (h : Laid older changes fields) {a o : Option Value}
    (ho : optional older key Record.integer = .ok o) (hget : changes.get? key = a)
    (hv : ∀ v ∈ a, integer.Valid v) (hr : integer.OptionReplaces a o) :
    ∃ w, optional fields key Record.integer = .ok w ∧
      (∀ t, StaysSet w t ↔ StaysSet a t ∧ StaysSet o t) ∧ (w = a ↔ StaysSet o a) ∧
        integer.OptionReplaces a w := by
  obtain ⟨w, hw, hc, he, hrep⟩ := integer.optional_leaf_laid (fun _ _ => trivial) h ho
    (by rw [hget]; exact Option.map_id'.symm) hv hr
  exact ⟨w, hw, hc, he.trans (and_iff_right fun _ _ => trivial), hrep⟩

theorem required_integer_laid (h : Laid older changes fields) {default a o : Value}
    (ho : required older key default Record.integer = .ok o) (hget : changes.get? key = some a)
    (hv : integer.Valid a) (hr : integer.Replaces a o) :
    required fields key default Record.integer = .ok a := by
  obtain ⟨w, hw, -, he, -⟩ := integer.required_laid h (fun _ => trivial) ho hget hv hr
  exact hw.trans (congrArg Except.ok (he.2 ⟨trivial, trivial⟩))

variable {α : Type} [Enumeration α] [LawfulEnumeration α]

theorem optional_member_laid (h : Laid older changes fields) {a o : Option α}
    (ho : optional older key Enumeration.parse = .ok o)
    (hget : changes.get? key = a.map Enumeration.encode) :
    ∃ w, optional fields key Enumeration.parse = .ok w ∧
      (∀ t, StaysSet w t ↔ StaysSet a t ∧ StaysSet o t) ∧ (w = a ↔ StaysSet o a) := by
  obtain ⟨w, hw, hc, he, -⟩ := (member α).optional_leaf_laid (fun _ _ => trivial) h ho hget
    (fun _ _ => trivial) fun _ _ _ _ => trivial
  exact ⟨w, hw, hc, he.trans (and_iff_right fun _ _ => trivial)⟩

theorem required_member_laid (h : Laid older changes fields) {default a o : α}
    (ho : required older key default Enumeration.parse = .ok o)
    (hget : changes.get? key = some (Enumeration.encode a)) :
    required fields key default Enumeration.parse = .ok a := by
  obtain ⟨w, hw, -, he, -⟩ := (member α).required_laid h (fun _ => trivial) ho hget trivial trivial
  exact hw.trans (congrArg Except.ok (he.2 ⟨trivial, trivial⟩))

end Laid

/-! ## Lists -/

section Lists

variable {α : Type} (p : Piece α)

/-- An item of a list as it is read, in which null stays null. -/
private def readItem (item : Value) : Outcome (Option α) :=
  match item with
  | .null => .ok none
  | item => (p.read item).map some

/-- An item of a list as it is written. -/
private def writeItem (item : Option α) : Value :=
  Value.ofOption (item.map p.write)

private theorem listOf_eq_ok {v : Value} {items : List (Option α)} :
    Record.listOf p.read v = .ok items ↔
      ∃ vs, itemsOf v = .ok vs ∧ vs.mapM (readItem p) = .ok items :=
  Outcome.bind_eq_ok

private theorem mapM_cons_eq_ok {β : Type} {f : Value → Outcome β} {v : Value} {vs : List Value}
    {out : List β} :
    (v :: vs).mapM f = .ok out ↔ ∃ b bs, f v = .ok b ∧ vs.mapM f = .ok bs ∧ b :: bs = out := by
  simp [List.mapM_cons, Outcome.bind_eq_ok, Outcome.map_eq_ok]

private theorem sound_itemsOf {v : Value} (hv : v.Sound) {vs : List Value}
    (h : itemsOf v = .ok vs) : ∀ u ∈ vs, u.Sound := by
  cases v with
  | list items => exact Except.ok.inj h ▸ Value.soundList_iff.1 hv
  | map fields =>
    rw [← Except.ok.inj h]
    exact List.forall_mem_map.2 fun _ _ => trivial
  | text s => rw [← Except.ok.inj h]; simp
  | _ => exact nomatch h

private theorem readItem_valid {v : Value} (hs : v.Sound) {item : Option α}
    (h : readItem p v = .ok item) : ∀ a ∈ item, p.Valid a ∧ p.Faithful a := by
  rintro a rfl
  rw [readItem.eq_def] at h
  split at h
  · simp at h
  · rename_i hne
    cases hread : p.read v with
    | error e => rw [hread] at h; exact nomatch h
    | ok b =>
      rw [hread] at h
      exact Option.some.inj (Except.ok.inj h) ▸ p.valid_of_read hs hne hread

private theorem mapM_readItem_valid {vs : List Value} (hs : ∀ v ∈ vs, v.Sound)
    {items : List (Option α)} (h : vs.mapM (readItem p) = .ok items) :
    ∀ item ∈ items, ∀ a ∈ item, p.Valid a ∧ p.Faithful a := by
  induction vs generalizing items with
  | nil =>
    obtain rfl := Except.ok.inj h
    exact fun item hi => nomatch hi
  | cons v vs ih =>
    obtain ⟨b, bs, hb, hbs, rfl⟩ := mapM_cons_eq_ok.1 h
    obtain ⟨hv, hvs⟩ := List.forall_mem_cons.1 hs
    exact List.forall_mem_cons.2 ⟨readItem_valid p hv hb, ih hvs hbs⟩

private theorem readItem_writeItem {item : Option α} (hv : ∀ a ∈ item, p.Valid a) :
    ∃ w, readItem p (writeItem p item) = .ok w ∧ (w = item ↔ ∀ a ∈ item, p.Faithful a) := by
  cases item with
  | none => exact ⟨none, rfl, by simp⟩
  | some a =>
    have hva := hv a rfl
    have hunset : readIfSet p.read none = .ok none := rfl
    obtain ⟨w, hw, -, hiff, -⟩ := p.read_over hva hunset fun _ hb => nomatch hb
    refine ⟨some w, ?_, by simpa using hiff⟩
    have hne : p.write a = .null → False := p.write_ne_null hva
    simp only [writeItem, Option.map_some, Value.ofOption, readItem]
    rw [show p.read (p.write a) = .ok w from hw]
    rfl

private theorem mapM_readItem_writeItem {items : List (Option α)}
    (hv : ∀ item ∈ items, ∀ a ∈ item, p.Valid a) :
    ∃ ws, (items.map (writeItem p)).mapM (readItem p) = .ok ws ∧
      (ws = items ↔ ∀ item ∈ items, ∀ a ∈ item, p.Faithful a) := by
  induction items with
  | nil => exact ⟨[], rfl, by simp⟩
  | cons item items ih =>
    obtain ⟨hitem, hitems⟩ := List.forall_mem_cons.1 hv
    obtain ⟨w, hw, hiff⟩ := readItem_writeItem p hitem
    obtain ⟨ws, hws, hiffs⟩ := ih hitems
    refine ⟨w :: ws, mapM_cons_eq_ok.2 ⟨w, ws, hw, hws, rfl⟩, ?_⟩
    rw [List.cons.injEq, hiff, hiffs, List.forall_mem_cons]

/-- A list of pieces, in which null stays null. A list that is written replaces the one before. -/
def listOf : Piece (List (Option α)) where
  read := Record.listOf p.read
  write items := .list (items.map fun item => Value.ofOption (item.map p.write))
  Valid items := ∀ item ∈ items, ∀ a ∈ item, p.Valid a
  Faithful items := ∀ item ∈ items, ∀ a ∈ item, p.Faithful a
  Covers _ _ := True
  Replaces _ _ := True
  valid_of_read hs _ h := by
    obtain ⟨vs, hitems, hvs⟩ := p.listOf_eq_ok.1 h
    have hitems := mapM_readItem_valid p (sound_itemsOf hs hitems) hvs
    exact ⟨fun item hi a ha => (hitems item hi a ha).1, fun item hi a ha => (hitems item hi a ha).2⟩
  write_ne_null _ := Value.noConfusion
  read_over {items} hv old o _ _ := by
    obtain ⟨ws, hws, hiff⟩ := mapM_readItem_writeItem p hv
    rw [Value.patchOver_of_not_map _ fun _ => Value.noConfusion]
    exact readsOver_leaf (p.listOf_eq_ok.2 ⟨_, rfl, hws⟩) hiff trivial

theorem valid_listOf_nil : p.listOf.Valid [] ∧ p.listOf.Faithful [] :=
  ⟨fun _ h => (nomatch h), fun _ h => (nomatch h)⟩

@[simp] theorem faithful_listOf (items : List (Option α)) :
    p.listOf.Faithful items ↔ ∀ item ∈ items, ∀ a ∈ item, p.Faithful a := .rfl

@[simp] theorem covers_listOf (s t : List (Option α)) : p.listOf.Covers s t ↔ True := .rfl

end Lists

/-! ## Records -/

/-- What `Value.patchOver` writes a record over older data is `Laid` over what these were read
from. -/
theorem readIfSet_eq_ok {α : Type} {read : Value → Outcome α} {old : Option Value}
    {o : Option α} (h : readIfSet read old = .ok o)
    (hmap : ∀ {v a}, v ≠ .null → read v = .ok a → ∃ r, v = .map r) {changes : Entries Value}
    (hc : changes.Distinct) :
    ∃ older fields, Value.patchOver old (.map changes) = .map fields ∧
      Laid older changes fields ∧
        (o = none ∧ older = [] ∨ ∃ b, o = some b ∧ read (.map older) = .ok b) := by
  cases o with
  | none => exact ⟨[], changes, patchOver_of_unset h _, laid_nil changes, .inl ⟨rfl, rfl⟩⟩
  | some b =>
    obtain ⟨v, rfl, hne, hread⟩ := read_of_readIfSet h
    obtain ⟨r, rfl⟩ := hmap hne hread
    exact ⟨r, _, Value.patch_map r changes, laid_patchFields r hc, .inr ⟨_, rfl, hread⟩⟩

/-- A record as a piece, from what is shown of one that is written over another. -/
def ofRecord {α : Type} (decode : Value → Outcome α) (encode : α → Value)
    (Valid Faithful : α → Prop) (Covers Replaces : α → α → Prop) (empty : α)
    (hempty : decode (.map []) = .ok empty) (hcovers : ∀ t, Covers t empty)
    (hreplaces : ∀ t, Replaces t empty)
    (hmap : ∀ {v a}, v ≠ .null → decode v = .ok a → ∃ r, v = .map r)
    (hencode : ∀ a, ∃ changes : Entries Value, encode a = .map changes ∧ changes.Distinct)
    (hvalid : ∀ {r}, (Value.map r).Sound → ∀ {a}, decode (.map r) = .ok a → Valid a ∧ Faithful a)
    (hlaid : ∀ {a b older changes fields}, Valid a → encode a = .map changes →
      decode (.map older) = .ok b → Laid older changes fields → Replaces a b →
        ReadsOver Covers Replaces Faithful (decode (.map fields)) a fun t => Covers t b) :
    Piece α where
  read := decode
  write := encode
  Valid := Valid
  Faithful := Faithful
  Covers := Covers
  Replaces := Replaces
  valid_of_read {v a} hs hne h := by
    obtain ⟨r, rfl⟩ := hmap hne h
    exact hvalid hs h
  write_ne_null {a} _ := by
    obtain ⟨changes, h, -⟩ := hencode a
    rw [h]
    exact Value.noConfusion
  read_over {a} hv old o ho hr := by
    obtain ⟨changes, hchanges, hc⟩ := hencode a
    rw [hchanges]
    -- where nothing was before, the record is written over an empty one, which covers nothing
    obtain ⟨older, fields, hfields, hl, ⟨rfl, rfl⟩ | ⟨b, rfl, hb⟩⟩ := readIfSet_eq_ok ho hmap hc
    · obtain ⟨w, hw, hcov, hiff, hrep⟩ := hlaid hv hchanges hempty hl (hreplaces a)
      refine ⟨w, by rw [hfields, hw], fun t => ?_, ?_, hrep⟩
      · simp [hcov, hcovers]
      · simp [hiff, hcovers]
    · obtain ⟨w, hw, hcov, hiff, hrep⟩ := hlaid hv hchanges hb hl (hr b rfl)
      refine ⟨w, by rw [hfields, hw], fun t => ?_, ?_, hrep⟩
      · simp [hcov]
      · simp [hiff]

end Piece

end FlinkSteward
