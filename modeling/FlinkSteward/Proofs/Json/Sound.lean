import FlinkSteward.Json.Read
import FlinkSteward.Proofs.Json.Sorted

/-!
# What JSON texts stand for

A text may have two entries for one key, of which the last counts. So the value of a text never has
a repeated key, whoever wrote the text.

## Key results

- `Entries.Distinct.put`: setting an entry repeats no key
- `Json.sound_of_read`: the value of a text is sound
-/

namespace FlinkSteward

namespace Entries

variable {β : Type}

/-- `put` repeats no key. -/
theorem Distinct.put {m : Entries β} (h : m.Distinct) (key : String) (v : β) :
    (m.put key v).Distinct := by
  induction m with
  | nil => exact ⟨rfl, trivial⟩
  | cons e m ih =>
    rw [Entries.put]
    split
    · -- the value of an entry changes at its place
      rename_i hk
      exact ⟨hk ▸ h.1, h.2⟩
    · rename_i hk
      exact ⟨by rw [get?_put_of_ne m v (Ne.symm hk)]; exact h.1, ih h.2⟩

theorem mem_of_mem_put {m : Entries β} {key : String} {v : β} {e : String × β}
    (h : e ∈ m.put key v) : e = (key, v) ∨ e ∈ m := by
  induction m with
  | nil => exact .inl (List.mem_singleton.1 h)
  | cons d m ih =>
    rw [put] at h
    split at h
    · rename_i hk
      exact hk ▸ (List.mem_cons.1 h).imp id (List.mem_cons_of_mem _)
    · rcases List.mem_cons.1 h with rfl | h
      · exact .inr List.mem_cons_self
      · exact (ih h).imp id (List.mem_cons_of_mem _)

end Entries

namespace Value

theorem sound_map_put {fields : Entries Value} (h : (map fields).Sound) (key : String) {v : Value}
    (hv : v.Sound) : (map (fields.put key v)).Sound := by
  obtain ⟨hd, hs⟩ := sound_map_iff.1 h
  refine sound_map_iff.2 ⟨hd.put key v, fun e he => ?_⟩
  rcases Entries.mem_of_mem_put he with rfl | he
  · exact hv
  · exact hs e he

end Value

namespace Json

/-- What `unsignedNumber?` reads has no entries. -/
private theorem sound_unsignedNumber? {negative : Bool} {cs rest : List Char} {v : Value}
    (h : unsignedNumber? negative cs = some (v, rest)) : v.Sound := by
  simp only [unsignedNumber?] at h
  split at h
  · exact nomatch h
  split at h
  · cases h; trivial
  · split at h <;> cases h <;> trivial

private theorem sound_scalar {cs rest : List Char} {v : Value} (h : scalar cs = .ok (v, rest)) :
    v.Sound := by
  simp only [scalar] at h
  split at h
  · cases h; trivial
  · cases h; trivial
  · cases h; trivial
  split at h
  · cases h; trivial
  · cases h; trivial
  · cases h; trivial
  split at h
  · rename_i hnumber
    cases h
    split at hnumber
    · exact sound_unsignedNumber? hnumber
    · exact sound_unsignedNumber? hnumber
  · exact nomatch h

private theorem sound_string {r : Reading String} {rest : List Char} {v : Value}
    (h : (r.map fun s => (Value.text s.1, s.2)) = .ok (v, rest)) : v.Sound := by
  cases r with
  | error e => exact nomatch h
  | ok s => cases h; trivial

mutual

/-- What `Json.value` reads at the start of characters is `Sound`. By induction on the fuel. -/
theorem sound_value : ∀ {fuel : Nat} {cs rest : List Char} {v : Value},
    value fuel cs = .ok (v, rest) → v.Sound
  | 0, _, _, _, h => nomatch h
  | fuel + 1, cs, rest, v, h => by
    rw [value.eq_def] at h
    dsimp only at h
    split at h
    · exact sound_string h
    · split at h
      · cases h; trivial
      · exact sound_items (show Value.SoundList [] from trivial) h
    · split at h
      · cases h; trivial
      · exact sound_fields (show (Value.map []).Sound from trivial) h
    · exact sound_scalar h

theorem sound_items : ∀ {fuel : Nat} {before : List Value} {cs rest : List Char} {v : Value},
    Value.SoundList before → items fuel before cs = .ok (v, rest) → v.Sound
  | 0, _, _, _, _, _, h => nomatch h
  | fuel + 1, before, cs, rest, v, hb, h => by
    rw [items.eq_def] at h
    dsimp only at h
    split at h
    · exact nomatch h
    · rename_i w _ hw
      have hnext : Value.SoundList (w :: before) := ⟨sound_value hw, hb⟩
      split at h
      · cases h
        rw [Value.Sound, Value.soundList_iff]
        exact fun u hu => Value.soundList_iff.1 hnext u (List.mem_reverse.1 hu)
      · exact sound_items hnext h
      · exact nomatch h

theorem sound_fields : ∀ {fuel : Nat} {before : Entries Value} {cs rest : List Char} {v : Value},
    (Value.map before).Sound → fields fuel before cs = .ok (v, rest) → v.Sound
  | 0, _, _, _, _, _, h => nomatch h
  | fuel + 1, before, cs, rest, v, hb, h => by
    rw [fields.eq_def] at h
    dsimp only at h
    split at h
    · split at h
      · exact nomatch h
      split at h
      · split at h
        · exact nomatch h
        · rename_i w _ hw
          have hnext := fun key => Value.sound_map_put hb key (sound_value hw)
          split at h
          · cases h
            exact hnext _
          · exact sound_fields (hnext _) h
          · exact nomatch h
      · exact nomatch h
    · exact nomatch h

end

/-- What `Json.read` reads is `Sound`. -/
theorem sound_of_read {s : String} {v : Value} (h : read s = .ok v) : v.Sound := by
  have hwhole : whole s.toList = .ok v := by
    simp only [read] at h
    rcases hw : whole s.toList with _ | w <;> rw [hw] at h <;> cases h
    rfl
  rw [whole] at hwhole
  split at hwhole
  · exact nomatch hwhole
  split at hwhole
  · exact nomatch hwhole
  · rename_i hv
    split at hwhole
    · cases hwhole
      exact sound_value hv
    · exact nomatch hwhole

end Json

end FlinkSteward
