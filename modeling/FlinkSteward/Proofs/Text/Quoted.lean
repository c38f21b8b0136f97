import FlinkSteward.Proofs.Json.String
import FlinkSteward.Text.Quoted
import Mathlib.Algebra.Group.Nat.Defs

/-!
# Quoted texts end where their quotes end

A quoted text tells where it ends, whatever follows it, and what it was before it was quoted. A text
with quoted parts is scanned from the front: a character that stands inside quotes does not end
anything, and so the first one outside of them does.

## Key results

- `Spelled`: the forms of one character between quotes
- `quoted_injective`: no two texts are quoted alike
- `Closed`: a text that does not meet a certain character outside quotes, with `Closed.split`
- `closed_quoted`: a quoted text is closed
-/

namespace FlinkSteward.Text

/-! ## Numbers of a fixed width -/

theorem length_padded {base width n : Nat} (hb : 1 < base) (hw : 0 < width) (h : n < base ^ width) :
    (padded base width n).length = width := by
  have hle := (Nat.length_toDigits_le_iff hb hw).2 h
  rw [padded, List.length_append, List.length_replicate, digitsOf]
  omega

private theorem digitChar_inj : ∀ m < 16, ∀ n < 16, Nat.digitChar m = Nat.digitChar n → m = n := by
  decide

/-- `padded` writes no two numbers of one width alike. -/
theorem padded_inj {width m n : Nat} (hm : m < 16 ^ width) (hn : n < 16 ^ width)
    (h : padded 16 width m = padded 16 width n) : m = n := by
  induction width generalizing m n with
  | zero =>
    rw [Nat.pow_zero] at hm hn
    omega
  | succ width ih =>
    cases width with
    | zero =>
      rw [padded_one (by omega), padded_one (by omega)] at h
      exact digitChar_inj m (by omega) n (by omega) (List.singleton_inj.1 h)
    | succ width =>
      rw [padded_succ (by decide) (Nat.succ_ne_zero _) m,
        padded_succ (by decide) (Nat.succ_ne_zero _) n] at h
      obtain ⟨hfront, hlast⟩ := List.append_singleton_inj.1 h
      rw [Nat.pow_succ] at hm hn
      have hdiv : m / 16 = n / 16 := ih (by omega) (by omega) hfront
      have hmod : m % 16 = n % 16 := digitChar_inj _ (by omega) _ (by omega) hlast
      omega

/-- Hexadecimal digits are neither quotes nor backslashes. -/
private theorem digitChar_not_mem : ∀ n < 16, Nat.digitChar n ∉ ['\'', '"', '\\'] := by
  decide

private theorem not_mem_of_mem_padded {width n : Nat} (h : n < 16 ^ width) {c : Char}
    (hc : c ∈ padded 16 width n) : c ∉ ['\'', '"', '\\'] := by
  induction width generalizing n with
  | zero =>
    rw [Nat.pow_zero] at h
    obtain rfl : n = 0 := by omega
    obtain rfl : c = '0' := by simpa [padded, digitsOf] using hc
    decide
  | succ width ih =>
    cases width with
    | zero =>
      rw [padded_one (by omega), List.mem_singleton] at hc
      exact hc ▸ digitChar_not_mem n (by omega)
    | succ width =>
      rw [padded_succ (by decide) (Nat.succ_ne_zero _) n, List.mem_append, List.mem_singleton] at hc
      rw [Nat.pow_succ] at h
      rcases hc with hc | rfl
      · exact ih (by omega) hc
      · exact digitChar_not_mem _ (by omega)

/-! ## One character between quotes -/

/-- The escapes by name. -/
def namedEscapes : List (Char × Char) :=
  [('t', '\t'), ('n', '\n'), ('r', '\r')]

/-- The escapes by number, each with its width. -/
def numberEscapes : List (Char × Nat) :=
  [('x', 2), ('u', 4), ('U', 8)]

/-- What stands behind a backslash between the quotes `q`: a mark, and what follows the mark. -/
inductive Escaped (q : Char) : Char → Char → List Char → Prop where
  /-- The character. -/
  | itself {c : Char} (h : c = q ∨ c = '\\') : Escaped q c c []
  /-- Its name. -/
  | name {c mark : Char} (h : (mark, c) ∈ namedEscapes) : Escaped q c mark []
  /-- Its number. -/
  | number {c mark : Char} {width : Nat} (h : (mark, width) ∈ numberEscapes)
    (hc : c.toNat < 16 ^ width) : Escaped q c mark (padded 16 width c.toNat)

/-- The forms of a character between the quotes `q`. -/
inductive Spelled (q : Char) : Char → List Char → Prop where
  /-- As it is. -/
  | plain {c : Char} (hq : c ≠ q) (hb : c ≠ '\\') : Spelled q c [c]
  /-- Behind a backslash. -/
  | escaped {c mark : Char} {cs : List Char} (h : Escaped q c mark cs) :
    Spelled q c ('\\' :: mark :: cs)

theorem spelled_quotedChar (q c : Char) : Spelled q c (quotedChar q c) := by
  unfold quotedChar
  split
  · exact .escaped (.itself ‹_›)
  rename_i hplain
  rw [not_or] at hplain
  split
  · subst_vars
    exact .escaped (.name (by decide))
  split
  · subst_vars
    exact .escaped (.name (by decide))
  split
  · subst_vars
    exact .escaped (.name (by decide))
  split
  · exact .plain hplain.1 hplain.2
  split
  · exact .escaped (.number (by decide) (by omega))
  split
  · exact .escaped (.number (by decide) (by omega))
  · -- no character has a number beyond the last one
    have hvalid : c.toNat.isValidChar := c.valid
    simp only [Nat.isValidChar] at hvalid
    exact .escaped (.number (by decide) (by omega))

/-- A quote of a text. -/
def IsQuote (q : Char) : Prop :=
  q = '\'' ∨ q = '"'

instance (q : Char) : Decidable (IsQuote q) :=
  inferInstanceAs (Decidable (_ ∨ _))

theorem isQuote_quoteFor (cs : List Char) : IsQuote (quoteFor cs) := by
  unfold quoteFor
  split
  · exact .inr rfl
  · exact .inl rfl

/-- A character that stands behind a backslash for itself is no other mark. -/
private theorem not_mem_of_itself {q c : Char} (hq : IsQuote q) (h : c = q ∨ c = '\\') :
    c ∉ namedEscapes.map Prod.fst ++ numberEscapes.map Prod.fst := by
  rcases h with rfl | rfl
  · rcases hq with rfl | rfl <;> decide
  · decide

private theorem not_mem_of_name : ∀ e ∈ namedEscapes, e.1 ∉ numberEscapes.map Prod.fst := by
  decide

/-- The mark of what is `Escaped` tells the character, with as much of what follows as belongs to
it. -/
theorem Escaped.inj {q c d mark : Char} {cs ds rest rest' : List Char} (hq : IsQuote q)
    (hc : Escaped q c mark cs) (hd : Escaped q d mark ds) (h : cs ++ rest = ds ++ rest') :
    c = d ∧ rest = rest' := by
  -- no mark is one of two kinds
  cases hc with
  | itself hc =>
    have hnot := not_mem_of_itself hq hc
    cases hd with
    | itself => exact ⟨rfl, h⟩
    | name hd => exact absurd (List.mem_append_left _ (List.mem_map_of_mem hd)) hnot
    | number hd => exact absurd (List.mem_append_right _ (List.mem_map_of_mem hd)) hnot
  | name hc =>
    cases hd with
    | itself hd =>
      exact absurd (List.mem_append_left _ (List.mem_map_of_mem hc)) (not_mem_of_itself hq hd)
    | name hd =>
      have hsame : ∀ e ∈ namedEscapes, ∀ e' ∈ namedEscapes, e.1 = e'.1 → e.2 = e'.2 := by decide
      exact ⟨hsame _ hc _ hd rfl, h⟩
    | number hd => exact absurd (List.mem_map_of_mem hd) (not_mem_of_name _ hc)
  | number hc hlt =>
    cases hd with
    | itself hd =>
      exact absurd (List.mem_append_right _ (List.mem_map_of_mem hc)) (not_mem_of_itself hq hd)
    | name hd => exact absurd (List.mem_map_of_mem hc) (not_mem_of_name _ hd)
    | number hd hlt' =>
      -- one mark stands for one width
      have hwidth : ∀ e ∈ numberEscapes, ∀ e' ∈ numberEscapes, e.1 = e'.1 → e.2 = e'.2 := by decide
      obtain rfl := hwidth _ hc _ hd rfl
      have hpos : ∀ e ∈ numberEscapes, 0 < e.2 := by decide
      have hlength : (padded 16 _ c.toNat).length = (padded 16 _ d.toNat).length :=
        (length_padded (by decide) (hpos _ hc) hlt).trans
          (length_padded (by decide) (hpos _ hc) hlt').symm
      obtain ⟨hsame, hrest⟩ := List.append_inj h hlength
      exact ⟨Char.toNat_inj.1 (padded_inj hlt hlt' hsame), hrest⟩

/-- What is `Spelled` tells the character, whatever follows it. -/
theorem Spelled.inj {q c d : Char} {cs ds rest rest' : List Char} (hq : IsQuote q)
    (hc : Spelled q c cs) (hd : Spelled q d ds) (h : cs ++ rest = ds ++ rest') :
    c = d ∧ rest = rest' := by
  cases hc with
  | plain hcq hcb =>
    cases hd with
    | plain => simpa using h
    | escaped => exact absurd (List.cons.inj h).1 hcb
  | escaped hc =>
    cases hd with
    | plain hdq hdb => exact absurd (List.cons.inj h).1.symm hdb
    | escaped hd =>
      obtain ⟨rfl, hrest⟩ := List.cons.inj (List.cons.inj h).2
      exact hc.inj hq hd hrest

/-! ## Quoted texts -/

/-- No character is `Spelled` like the end of the quotes. -/
private theorem Spelled.ne_end {q c : Char} {cs rest : List Char} (hq : IsQuote q)
    (h : Spelled q c cs) : [q] ≠ cs ++ rest := by
  have hb : q ≠ '\\' := by rcases hq with rfl | rfl <;> decide
  intro hend
  cases h with
  | plain hne => exact hne (List.cons.inj hend).1.symm
  | escaped => exact hb (List.cons.inj hend).1

private theorem flatMap_quotedChar_injective {q : Char} (hq : IsQuote q) {cs ds : List Char}
    (h : cs.flatMap (quotedChar q) ++ [q] = ds.flatMap (quotedChar q) ++ [q]) : cs = ds := by
  induction cs generalizing ds with
  | nil =>
    cases ds with
    | nil => rfl
    | cons d ds =>
      rw [List.flatMap_cons, List.append_assoc] at h
      exact absurd h ((spelled_quotedChar q d).ne_end hq)
  | cons c cs ih =>
    cases ds with
    | nil =>
      rw [List.flatMap_cons, List.append_assoc] at h
      exact absurd h.symm ((spelled_quotedChar q c).ne_end hq)
    | cons d ds =>
      rw [List.flatMap_cons, List.flatMap_cons, List.append_assoc, List.append_assoc] at h
      obtain ⟨rfl, hrest⟩ := (spelled_quotedChar q c).inj hq (spelled_quotedChar q d) h
      rw [ih hrest]

/-- No two texts are `quoted` alike. -/
theorem quoted_injective {s t : String} (h : (quoted s).toList = (quoted t).toList) : s = t := by
  simp only [quoted, String.toList_ofList] at h
  obtain ⟨hq, hbody⟩ := List.cons.inj h
  rw [← hq] at hbody
  exact String.toList_inj.1 (flatMap_quotedChar_injective (isQuote_quoteFor _) hbody)

/-! ## Scanning -/

/-- Where a scan of a text stands. -/
inductive Mode where
  /-- Outside of quotes. -/
  | outside
  /-- Between quotes. -/
  | inside (q : Char)
  /-- Between quotes, behind a backslash. -/
  | escaped (q : Char)

/-- One character further, unless it is the one that is looked for, outside of quotes. -/
def Mode.next? (stop : Char) : Mode → Char → Option Mode
  | outside, c =>
    if c = stop then none else if c = '\'' ∨ c = '"' then some (inside c) else some outside
  | inside q, c => if c = '\\' then some (escaped q) else if c = q then some outside else some (inside q)
  | escaped q, _ => some (inside q)

/-- A text in which a character does not stand outside of quotes, and all quotes are closed. -/
def Closed (stop : Char) (cs : List Char) : Prop :=
  cs.foldlM (Mode.next? stop) Mode.outside = some Mode.outside

namespace Closed

variable {stop : Char} {cs ds : List Char}

theorem append (hc : Closed stop cs) (hd : Closed stop ds) : Closed stop (cs ++ ds) := by
  rw [Closed, List.foldlM_append, hc]
  exact hd

/-- Characters that are neither quotes nor looked for are `Closed`. -/
theorem of_plain (h : ∀ c ∈ cs, c ∉ [stop, '\'', '"']) : Closed stop cs := by
  induction cs with
  | nil => rfl
  | cons c cs ih =>
    obtain ⟨hc, hcs⟩ := List.forall_mem_cons.1 h
    simp only [List.mem_cons, List.not_mem_nil, or_false, not_or] at hc
    rw [Closed, List.foldlM_cons, Mode.next?, if_neg hc.1, if_neg (not_or.2 hc.2)]
    exact ih hcs

/-- Nothing that goes on with the character that is looked for is `Closed`. -/
theorem not_append (hc : Closed stop cs) (more : List Char) : ¬ Closed stop (cs ++ stop :: more) := by
  intro h
  rw [Closed, List.foldlM_append, hc] at h
  simp [Mode.next?] at h

/-- A `Closed` text ends where the character stands that is looked for. -/
theorem split {rest rest' : List Char} (hc : Closed stop cs) (hd : Closed stop ds)
    (h : cs ++ stop :: rest = ds ++ stop :: rest') : cs = ds ∧ rest = rest' := by
  rcases List.append_eq_append_iff.1 h with ⟨more, rfl, hmore⟩ | ⟨more, rfl, hmore⟩
  · cases more with
    | nil => exact ⟨(List.append_nil cs).symm, (List.cons.inj hmore).2⟩
    | cons c more =>
      obtain ⟨rfl, -⟩ := List.cons.inj hmore
      exact absurd hd (hc.not_append more)
  · cases more with
    | nil => exact ⟨List.append_nil ds, (List.cons.inj hmore).2.symm⟩
    | cons c more =>
      obtain ⟨rfl, -⟩ := List.cons.inj hmore
      exact absurd hc (hd.not_append more)

end Closed

/-- Characters that neither end the quotes nor escape anything leave `Mode.next?` between the
quotes. -/
private theorem scan_inside {q : Char} (hq : IsQuote q) (stop : Char) {cs : List Char}
    (h : ∀ c ∈ cs, c ∉ ['\'', '"', '\\']) :
    cs.foldlM (Mode.next? stop) (.inside q) = some (.inside q) := by
  induction cs with
  | nil => rfl
  | cons c cs ih =>
    obtain ⟨hc, hcs⟩ := List.forall_mem_cons.1 h
    have hne : c ≠ q := by
      rintro rfl
      rcases hq with rfl | rfl <;> exact hc (by decide)
    have hb : c ≠ '\\' := by
      rintro rfl
      exact hc (by decide)
    rw [List.foldlM_cons, Mode.next?, if_neg hb, if_neg hne]
    exact ih hcs

/-- A character that is `Spelled` between quotes leaves `Mode.next?` there. -/
private theorem Spelled.scan {q c : Char} {cs : List Char} (hq : IsQuote q) (stop : Char)
    (h : Spelled q c cs) : cs.foldlM (Mode.next? stop) (.inside q) = some (.inside q) := by
  cases h with
  | plain hne hb => simp [Mode.next?, hne, hb]
  | escaped h =>
    simp only [List.foldlM_cons, Mode.next?, ↓reduceIte, Option.bind_eq_bind, Option.bind_some]
    -- the mark is skipped, and at most the digits of a number follow
    apply scan_inside hq
    cases h with
    | itself => exact fun d hd => nomatch hd
    | name => exact fun d hd => nomatch hd
    | number _ hlt => exact fun d hd => not_mem_of_mem_padded hlt hd

/-- A `quoted` text is `Closed`, whatever is looked for. -/
theorem closed_quoted {stop : Char} (hstop : ¬ IsQuote stop) (s : String) :
    Closed stop (quoted s).toList := by
  have hq := isQuote_quoteFor s.toList
  simp only [quoted, String.toList_ofList]
  generalize quoteFor s.toList = q at hq
  have hopen : Mode.next? stop .outside q = some (.inside q) := by
    have hne : q ≠ stop := fun h => hstop (h ▸ hq)
    rw [Mode.next?, if_neg hne]
    exact if_pos hq
  have hclose : Mode.next? stop (.inside q) q = some .outside := by
    rcases hq with rfl | rfl <;> rfl
  have hbody : (s.toList.flatMap (quotedChar q)).foldlM (Mode.next? stop) (.inside q) =
      some (.inside q) := by
    -- no spelled character leaves the quotes
    induction s.toList with
    | nil => rfl
    | cons c cs ih =>
      rw [List.flatMap_cons, List.foldlM_append, (spelled_quotedChar q c).scan hq]
      exact ih
  rw [Closed, List.cons_append, List.foldlM_cons, hopen]
  simp only [Option.bind_eq_bind, Option.bind_some, List.foldlM_append, hbody, List.foldlM_cons,
    hclose, List.foldlM_nil, Option.pure_def]

end FlinkSteward.Text
