import FlinkSteward.Proofs.Json.Sorted
import FlinkSteward.Value.Same
import Mathlib.Data.List.Perm.Subperm

/-!
# Sameness

Two values that are the same as a third one are the same as each other, and a value that is the same
as another one is the same as that with its maps sorted. So sameness does not see which of several
values that are the same was written to a text and read again.

## Key results

- `Number.same_iff`: numbers are the same when they have one exact value
- `Value.same_of_same`: values that are the same as a third one
- `Value.same_sorted`: values that went through a text
-/

namespace FlinkSteward

/-! ## Numbers -/

namespace Number

/-- The exact value of a number: an infinity, by its sign, or a whole number of units of doubles.
NaN has none. -/
def exactValue? : Number → Option (Bool ⊕ Int)
  | int i => some (.inr (i * Double.unitsPerOne))
  | real .nan => none
  | real (.infinity negative) => some (.inl negative)
  | real x => some (.inr x.units)

private theorem mul_unitsPerOne_inj {i j : Int} :
    i * (Double.unitsPerOne : Int) = j * Double.unitsPerOne ↔ i = j := by
  have hunits : Double.unitsPerOne ≠ 0 := by decide +kernel
  exact Int.mul_eq_mul_right_iff fun h => hunits (Int.natCast_eq_zero.1 h)

/-- Numbers are the `same` when they have one `exactValue?`. -/
theorem same_iff {a b : Number} :
    a.same b = true ↔ ∃ v, a.exactValue? = some v ∧ b.exactValue? = some v := by
  rw [same, decide_eq_true_iff]
  rcases a with i | _ | p | ⟨m, s, e, h⟩ <;> rcases b with j | _ | q | ⟨m', s', e', h'⟩ <;>
    simp only [compare?, Double.compare?, Double.compareInt?, exactValue?, mul_unitsPerOne_inj,
      Std.LawfulEqCmp.compare_eq_iff_eq, Ordering.swap_eq_eq, Option.map_none, Option.map_some,
      Option.some.injEq, Sum.inl.injEq, Sum.inr.injEq, reduceCtorEq, and_false, false_and, and_self,
      exists_const, exists_eq_left', iff_false]
  -- an infinity is on one side of everything else; other numbers compare by their units
  all_goals first | exact eq_comm | (split <;> nofun)

theorem same_of_same {a b c : Number} (ha : a.same c = true) (hb : b.same c = true) :
    a.same b = true := by
  obtain ⟨v, hav, hcv⟩ := same_iff.1 ha
  obtain ⟨u, hbu, hcu⟩ := same_iff.1 hb
  exact same_iff.2 ⟨v, hav, hbu.trans (hcu.symm.trans hcv)⟩

end Number

/-! ## Values -/

namespace Value

theorem sameFields_iff {as bs : Entries Value} :
    sameFields as bs = true ↔ ∀ e ∈ as, ∃ b, bs.get? e.1 = some b ∧ same e.2 b = true := by
  induction as with
  | nil => simp [sameFields]
  | cons e as ih =>
    rw [sameFields, Bool.and_eq_true, ih, List.forall_mem_cons]
    cases bs.get? e.1 <;> simp

theorem sameNumber_iff {n : Number} {b : Value} :
    sameNumber n b = true ↔ ∃ m, b.number? = some m ∧ n.same m = true := by
  rw [sameNumber]
  cases b.number? <;> simp

/-- Only numbers are the `same` as a number. -/
theorem number?_of_same {b c : Value} {m : Number} (hc : c.number? = some m)
    (h : same b c = true) : ∃ n, b.number? = some n ∧ n.same m = true := by
  have hnumber : ∀ {n}, sameNumber n c = true → n.same m = true := fun hn => by
    obtain ⟨_, hm, hsame⟩ := sameNumber_iff.1 hn
    rwa [Option.some.inj (hc.symm.trans hm)]
  cases b with
  | bool x => exact ⟨_, rfl, hnumber (by simpa only [same] using h)⟩
  | int i => exact ⟨_, rfl, hnumber (by simpa only [same] using h)⟩
  | real x => exact ⟨_, rfl, hnumber (by simpa only [same] using h)⟩
  | null => cases c <;> simp_all [same, number?]
  | text s => cases c <;> simp_all [same, number?]
  | list bs => cases c <;> simp_all [same, number?]
  | map bs => cases c <;> simp_all [same, number?]

private theorem sameNumber_of_same {n : Number} {b c : Value} (hn : sameNumber n c = true)
    (hb : same b c = true) : sameNumber n b = true := by
  obtain ⟨m, hm, hsame⟩ := sameNumber_iff.1 hn
  obtain ⟨k, hk, hsame'⟩ := number?_of_same hm hb
  exact sameNumber_iff.2 ⟨k, hk, Number.same_of_same hsame hsame'⟩

end Value

namespace Entries

variable {β γ : Type}

theorem mem_keys_iff {m : Entries β} {key : String} : key ∈ m.keys ↔ ∃ v, m.get? key = some v := by
  rw [← Option.isSome_iff_exists, Option.isSome_iff_ne_none, ne_eq, get?_eq_none_iff, keys]
  simp

theorem Distinct.nodup_keys {m : Entries β} (h : m.Distinct) : m.keys.Nodup := by
  induction m with
  | nil => exact List.nodup_nil
  | cons e m ih =>
    refine List.nodup_cons.2 ⟨fun he => ?_, ih h.2⟩
    obtain ⟨v, hv⟩ := mem_keys_iff.1 he
    exact nomatch h.1.symm.trans hv

/-- Of `Distinct` maps of one length, the keys of the one are those of the other when none of them is
missing there. -/
theorem Distinct.mem_keys_of_length_eq {m : Entries β} {n : Entries γ} (hm : m.Distinct)
    (hlength : m.length = n.length) (hsub : m.keys ⊆ n.keys) {key : String} (h : key ∈ n.keys) :
    key ∈ m.keys := by
  have hperm := (hm.nodup_keys.subperm hsub).perm_of_length_le (by simp [keys, hlength])
  exact hperm.symm.subset h

end Entries

namespace Value

theorem same_list_iff {as : List Value} {c : Value} :
    same (list as) c = true ↔ ∃ cs, c = list cs ∧ sameItems as cs = true := by
  cases c <;> simp [same]

theorem same_map_iff {as : Entries Value} {c : Value} : same (map as) c = true ↔
    ∃ cs, c = map cs ∧ as.length = cs.length ∧ sameFields as cs = true := by
  cases c <;> simp [same]

theorem same_list_right {b : Value} {cs : List Value} (h : same b (list cs) = true) :
    ∃ bs, b = list bs ∧ sameItems bs cs = true := by
  cases b <;> simp_all [same, sameNumber, number?]

theorem same_map_right {b : Value} {cs : Entries Value} (h : same b (map cs) = true) :
    ∃ bs, b = map bs ∧ bs.length = cs.length ∧ sameFields bs cs = true := by
  cases b <;> simp_all [same, sameNumber, number?]

/-- A key of a map that another one is the `same` as is a key of that one, with the same value. -/
private theorem exists_same_of_get? {bs cs : Entries Value} (hs : SoundFields bs)
    (hlength : bs.length = cs.length) (h : sameFields bs cs = true) {key : String} {c : Value}
    (hc : cs.get? key = some c) : ∃ b, bs.get? key = some b ∧ same b c = true := by
  have hsame := sameFields_iff.1 h
  have hsub : bs.keys ⊆ cs.keys := by
    intro k hk
    obtain ⟨e, he, rfl⟩ := List.mem_map.1 hk
    obtain ⟨d, hd, -⟩ := hsame e he
    exact Entries.mem_keys_iff.2 ⟨d, hd⟩
  obtain ⟨b, hb⟩ := Entries.mem_keys_iff.1 ((soundFields_iff.1 hs).1.mem_keys_of_length_eq hlength
    hsub (Entries.mem_keys_iff.2 ⟨c, hc⟩))
  obtain ⟨d, hd, hbd⟩ := hsame _ (Entries.mem_of_get? hb)
  obtain rfl := Option.some.inj (hc.symm.trans hd)
  exact ⟨b, hb, hbd⟩

mutual

/-- Values that are the `same` as a third one are the same as each other. -/
theorem same_of_same : ∀ {a b c : Value}, b.Sound → same a c = true → same b c = true →
    same a b = true
  | .null, b, c, _, ha, hb => by
    obtain rfl : c = .null := by simpa [same] using ha
    cases b <;> simp_all [same, sameNumber, number?]
  | .text s, b, c, _, ha, hb => by
    obtain rfl : c = .text s := by simpa [same] using ha
    cases b <;> simp_all [same, sameNumber, number?]
  | .bool x, b, c, _, ha, hb => by
    rw [same] at ha ⊢
    exact sameNumber_of_same ha hb
  | .int i, b, c, _, ha, hb => by
    rw [same] at ha ⊢
    exact sameNumber_of_same ha hb
  | .real x, b, c, _, ha, hb => by
    rw [same] at ha ⊢
    exact sameNumber_of_same ha hb
  | .list as, b, c, hs, ha, hb => by
    obtain ⟨cs, rfl, has⟩ := same_list_iff.1 ha
    obtain ⟨bs, rfl, hbs⟩ := same_list_right hb
    exact same_list_iff.2 ⟨bs, rfl, sameItems_of_same hs has hbs⟩
  | .map as, b, c, hs, ha, hb => by
    obtain ⟨cs, rfl, hlength, has⟩ := same_map_iff.1 ha
    obtain ⟨bs, rfl, hlength', hbs⟩ := same_map_right hb
    exact same_map_iff.2 ⟨bs, rfl, hlength.trans hlength'.symm,
      sameFields_of_same hs (fun _ _ hc => exists_same_of_get? hs hlength' hbs hc) has⟩

theorem sameItems_of_same : ∀ {as bs cs : List Value}, SoundList bs → sameItems as cs = true →
    sameItems bs cs = true → sameItems as bs = true
  | [], bs, cs, _, ha, hb => by
    obtain rfl : cs = [] := by simpa [sameItems] using ha
    cases bs <;> simp_all [sameItems]
  | a :: as, bs, cs, hs, ha, hb => by
    cases cs with
    | nil => simp [sameItems] at ha
    | cons c cs =>
      cases bs with
      | nil => simp [sameItems] at hb
      | cons b bs =>
        rw [sameItems, Bool.and_eq_true] at ha hb ⊢
        exact ⟨same_of_same hs.1 ha.1 hb.1, sameItems_of_same hs.2 ha.2 hb.2⟩

theorem sameFields_of_same : ∀ {as bs cs : Entries Value}, SoundFields bs →
    (∀ key c, cs.get? key = some c → ∃ b, bs.get? key = some b ∧ same b c = true) →
    sameFields as cs = true → sameFields as bs = true
  | [], _, _, _, _, _ => by simp only [sameFields]
  | (key, a) :: as, bs, cs, hs, hback, ha => by
    obtain ⟨⟨c, hc, hac⟩, has⟩ := List.forall_mem_cons.1 (sameFields_iff.1 ha)
    obtain ⟨b, hb, hbc⟩ := hback key c hc
    have hab := same_of_same (sound_of_get? (show SoundFields bs from hs) hb) hac hbc
    refine sameFields_iff.2 (List.forall_mem_cons.2 ⟨⟨b, hb, hab⟩, ?_⟩)
    exact sameFields_iff.1 (sameFields_of_same hs hback (sameFields_iff.2 has))

end

mutual

/-- A value that is the `same` as another one is the same as that with its maps sorted. -/
theorem same_sorted : ∀ {a b : Value}, same a b = true → same a (Json.sorted b) = true
  | .null, b, h => by
    obtain rfl : b = .null := by simpa [same] using h
    simp [same, Json.sorted]
  | .text s, b, h => by
    obtain rfl : b = .text s := by simpa [same] using h
    simp [same, Json.sorted]
  | .bool x, b, h => by
    rw [same] at h ⊢
    cases b <;> simp_all [sameNumber, number?, Json.sorted]
  | .int i, b, h => by
    rw [same] at h ⊢
    cases b <;> simp_all [sameNumber, number?, Json.sorted]
  | .real x, b, h => by
    rw [same] at h ⊢
    cases b <;> simp_all [sameNumber, number?, Json.sorted]
  | .list as, b, h => by
    obtain ⟨bs, rfl, hbs⟩ := same_list_iff.1 h
    rw [Json.sorted_list]
    exact same_list_iff.2 ⟨_, rfl, sameItems_sorted hbs⟩
  | .map as, b, h => by
    obtain ⟨bs, rfl, hlength, hbs⟩ := same_map_iff.1 h
    rw [Json.sorted_map]
    refine same_map_iff.2 ⟨_, rfl, ?_, sameFields_sorted hbs⟩
    -- sorting keeps the number of entries
    rw [hlength, (Entries.sorted_perm _).length_eq, Entries.mapValues, List.length_map]

theorem sameItems_sorted : ∀ {as bs : List Value}, sameItems as bs = true →
    sameItems as (bs.map Json.sorted) = true
  | [], bs, h => by simpa [sameItems] using h
  | a :: as, bs, h => by
    cases bs with
    | nil => simp [sameItems] at h
    | cons b bs =>
      rw [sameItems, Bool.and_eq_true] at h
      rw [List.map_cons, sameItems, Bool.and_eq_true]
      exact ⟨same_sorted h.1, sameItems_sorted h.2⟩

theorem sameFields_sorted : ∀ {as bs : Entries Value}, sameFields as bs = true →
    sameFields as (bs.mapValues Json.sorted).sorted = true
  | [], _, _ => by simp only [sameFields]
  | (key, a) :: as, bs, h => by
    obtain ⟨⟨b, hb, hab⟩, has⟩ := List.forall_mem_cons.1 (sameFields_iff.1 h)
    refine sameFields_iff.2 (List.forall_mem_cons.2 ⟨⟨Json.sorted b, ?_, same_sorted hab⟩, ?_⟩)
    · rw [Entries.get?_sorted, Entries.get?_mapValues, hb]
      rfl
    · exact sameFields_iff.1 (sameFields_sorted (sameFields_iff.2 has))

end

end Value

end FlinkSteward
