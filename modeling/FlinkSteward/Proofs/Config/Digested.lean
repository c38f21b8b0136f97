import FlinkSteward.Config.Files
import FlinkSteward.Proofs.Entries
import FlinkSteward.Proofs.Value.Literal

/-!
# Names of generated files

A generated file is named for the digest of a text: that of its content, or for a logging configuration
the text of all its entries. The name gives the digest back, and the text of a logging configuration gives
back what the entries have for the files that are written.

## Key results

- `Files.length_digestOf`: digests have one length
- `Files.loggingPath_inj`: a file of a logging configuration by its name
- `Files.loggingText_inj`: logging configurations with one text
-/

namespace FlinkSteward.Files

open FlinkSteward.Text

/-! ## Names -/

/-- `digestOf` gives 16 characters. -/
theorem length_digestOf (content : String) : (digestOf content).toList.length = 16 := by
  have hword (n : Nat) : 8 ≤ (padded 16 8 n).length := by
    rw [padded, List.length_append, List.length_replicate]
    omega
  have hall : 16 ≤ (Sha1.hexDigest content).toList.length := by
    simp only [Sha1.hexDigest, String.toList_ofList, List.flatMap_cons, List.length_append]
    have h := hword (Sha1.digest content.toUTF8.toList).a.toNat
    have h' := hword (Sha1.digest content.toUTF8.toList).b.toNat
    omega
  rw [digestOf, String.toList_ofList, List.length_take]
  omega

theorem podTemplateName_inj {t u : Object} (h : podTemplateName t = podTemplateName u) :
    digestOf (Yaml.write t) = digestOf (Yaml.write u) := by
  simp only [podTemplateName] at h
  exact String.append_right_inj _ |>.1 (String.append_left_inj _ |>.1 h)

/-- The text that a logging configuration is named for. -/
def loggingText (entries : Entries Value) : String :=
  String.ofList ('[' :: pairsText entries.sorted ++ [']'])

/-- The path of a file of a logging configuration. -/
def loggingPath (entries : Entries Value) (file : String) : String :=
  loggingName entries ++ "/" ++ file

/-- `loggingPath` tells the digest and the file. -/
theorem loggingPath_inj {m n : Entries Value} {file other : String}
    (h : loggingPath m file = loggingPath n other) :
    digestOf (loggingText m) = digestOf (loggingText n) ∧ file = other := by
  have hpath (entries : Entries Value) (file : String) : (loggingPath entries file).toList =
      "conf_".toList ++ ((digestOf (loggingText entries)).toList ++ '/' :: file.toList) := by
    simp [loggingPath, loggingName, loggingText, String.toList_append]
  have hlist := congrArg String.toList h
  rw [hpath, hpath] at hlist
  -- digests have one length, so that the rest begins at the same place
  have hlength : (digestOf (loggingText m)).toList.length = (digestOf (loggingText n)).toList.length :=
    (length_digestOf _).trans (length_digestOf _).symm
  obtain ⟨hdigest, hfile⟩ := List.append_inj (List.append_cancel_left hlist) hlength
  exact ⟨String.toList_inj.1 hdigest, String.toList_inj.1 (List.cons.inj hfile).2⟩

theorem podTemplateName_ne_loggingPath (t : Object) (entries : Entries Value) (file : String) :
    podTemplateName t ≠ loggingPath entries file := by
  intro h
  have hfirst := congrArg (fun s => s.toList.head?) h
  simp [podTemplateName, loggingPath, loggingName] at hfirst

/-! ## Texts of logging configurations -/

private theorem pairText_append_inj {d e : String × Value} {rest rest' : List Char}
    (h : pairText d ++ rest = pairText e ++ rest') :
    d.1 = e.1 ∧ d.2.literal = e.2.literal ∧ rest = rest' := by
  have hpair (e : String × Value) (rest : List Char) : pairText e ++ rest =
      '(' :: (((quoted e.1).toList ++ ([',', ' '] ++ e.2.literal)) ++ ')' :: rest) := by
    simp [pairText]
  have hclosed (e : String × Value) :
      Closed ')' ((quoted e.1).toList ++ ([',', ' '] ++ e.2.literal)) :=
    (closed_quoted (by decide) e.1).append ((Closed.of_plain (by simp)).append e.2.closed_literal)
  rw [hpair, hpair] at h
  -- the pair ends with its bracket, and the key with its quote
  obtain ⟨hinner, hrest⟩ := (hclosed d).split (hclosed e) (List.cons.inj h).2
  have hend (key : String) : Closed ',' (quoted key).toList := closed_quoted (by decide) key
  obtain ⟨hkey, hvalue⟩ := (hend d.1).split (hend e.1) hinner
  exact ⟨quoted_injective hkey, (List.cons.inj hvalue).2, hrest⟩

private theorem pairsText_inj {m n : Entries Value}
    (h : pairsText m ++ [']'] = pairsText n ++ [']']) :
    m.mapValues Value.literal = n.mapValues Value.literal := by
  induction m generalizing n with
  | nil =>
    cases n with
    | nil => rfl
    | cons e n => simp [pairsText, pairText] at h
  | cons d m ih =>
    cases n with
    | nil => simp [pairsText, pairText] at h
    | cons e n =>
      simp only [pairsText, List.append_assoc] at h
      obtain ⟨hkey, hvalue, hrest⟩ := pairText_append_inj h
      -- both go on with a comma, or neither does
      have htail : pairsText m ++ [']'] = pairsText n ++ [']'] := by
        cases m with
        | nil =>
          cases n with
          | nil => rfl
          | cons e n => simp [pairsText] at hrest
        | cons d m =>
          cases n with
          | nil => simp [pairsText] at hrest
          | cons e n => simpa using hrest
      rw [Entries.mapValues, Entries.mapValues, List.map_cons, List.map_cons, hkey, hvalue]
      exact congrArg _ (ih htail)

/-- Logging configurations with one `loggingText` have the same content for every file. -/
theorem loggingText_inj {m n : Entries Value} (h : loggingText m = loggingText n) {file s : String}
    (hm : m.get? file = some (.text s)) : n.get? file = some (.text s) := by
  have hpairs : m.sorted.mapValues Value.literal = n.sorted.mapValues Value.literal := by
    have hlist := congrArg String.toList h
    simp only [loggingText, String.toList_ofList, List.cons_append] at hlist
    exact pairsText_inj (List.cons.inj hlist).2
  have hsame : (m.get? file).map Value.literal = (n.get? file).map Value.literal := by
    rw [← Entries.get?_sorted m, ← Entries.get?_sorted n, ← Entries.get?_mapValues, hpairs,
      Entries.get?_mapValues]
  rw [hm, Option.map_some] at hsame
  obtain ⟨v, hv, hliteral⟩ := Option.map_eq_some_iff.1 hsame.symm
  rw [hv, Value.eq_of_literal_text hliteral]

end FlinkSteward.Files
