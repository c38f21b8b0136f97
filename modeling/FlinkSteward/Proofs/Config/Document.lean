import FlinkSteward.Config.Document
import FlinkSteward.Config.Operator
import FlinkSteward.Proofs.Validation.Order

/-!
# Entries of the default configuration and of manifests

The same mapping can be the file of the default configuration, or the configuration of a manifest.
Its keys and its truth values, numbers and texts become the same texts in both. An entry that holds
nothing is the text `None` in the file, and stays nothing in a manifest; so that what reads it takes
it for a value, or fails, in the one, and takes it for unset in the other.

## Key results

- `Yaml.Data.dataAt?`: what a mapping has for a key
- `Config.get?_ofDocument`, `Config.get?_ofRecord`: the options of a file and of a manifest
- `Config.savepointDirectory_of_none`, `Config.duration_of_none`: what the text of nothing is read as
- `OperatorConfig.read_eq_ok`: the settings of a configuration, one by one
- `document_and_manifest_agree_iff`: which readers tell the two apart
-/

namespace FlinkSteward

open Text Yaml

theorem Entries.get?_foldl_put {β γ : Type} (name : γ → String) (f : γ → β) (items : List γ)
    (m : Entries β) (key : String) :
    (items.foldl (fun m x => m.put (name x) (f x)) m).get? key =
      ((items.reverse.find? fun x => name x = key).map f).or (m.get? key) := by
  induction items generalizing m with
  | nil => rfl
  | cons x rest ih =>
    rw [List.foldl_cons, ih, get?_put, List.reverse_cons, List.find?_append]
    -- a later item of that name counts, and only without one does this one
    cases rest.reverse.find? fun y => name y = key with
    | some y => rfl
    | none => by_cases h : name x = key <;> simp [h]

/-! ## Data of mappings -/

namespace Yaml.Data

/-- Data of the kinds that entries of a configuration have: nothing, truth values, numbers and texts. -/
def isPlain : Data → Bool
  | null | bool _ | int _ | real _ | text _ => true
  | _ => false

/-- What a mapping has for a key by its text. Keys of several kinds may have the same text, and then
the last one counts. -/
def dataAt? (entries : List (Data × Data)) (key : String) : Option Data :=
  (entries.reverse.find? fun e => e.1.shown = key).map Prod.snd

/-- Data as an entry of a manifest, where nothing stays nothing. -/
def setting (d : Data) : Option String :=
  match d with
  | null => none
  | d => some d.asEntry

theorem dataAt?_isPlain {entries : List (Data × Data)} {key : String} {d : Data}
    (hplain : ∀ e ∈ entries, e.2.isPlain = true) (h : dataAt? entries key = some d) :
    d.isPlain = true := by
  obtain ⟨e, hfind, rfl⟩ := Option.map_eq_some_iff.1 h
  exact hplain e (List.mem_reverse.1 (List.mem_of_find?_eq_some hfind))

theorem textOrNull_toRecord {d : Data} (h : d.isPlain = true) :
    Record.textOrNull d.toRecord = d.setting := by
  cases d with
  | null | bool _ | int _ | real _ | text _ => rfl
  | _ => exact nomatch h

theorem toFields_eq_foldl (key : Data → String) (fields : Entries Value)
    (entries : List (Data × Data)) :
    toFields key fields entries =
      entries.foldl (fun m e => m.put (key e.1) (e.2.toValueBy key)) fields := by
  induction entries generalizing fields with
  | nil => rw [toFields, List.foldl_nil]
  | cons e rest ih => rw [toFields, ih, List.foldl_cons]

/-- The configuration of a mapping as the only entry of a specification. -/
def specOf (entries : List (Data × Data)) : Data :=
  map [(text "flinkConfiguration", map entries)]

end Yaml.Data

open Yaml.Data

namespace Config

/-- `Config.ofDocument` makes texts of all entries of a mapping. -/
theorem get?_ofDocument (entries : List (Data × Data)) :
    ∃ c, ofDocument (.map entries) = .ok c ∧
      ∀ key, c.get? key = (dataAt? entries key).map fun d => .text d.asEntry := by
  refine ⟨entries.foldl (fun c e => c.put e.1.shown (.text e.2.asEntry)) [], ?_, fun key => ?_⟩
  · cases entries <;> rfl
  · rw [Entries.get?_foldl_put, dataAt?, Option.map_map, Entries.get?_nil, Option.or_none]
    rfl

/-- `Config.ofTexts` has the same for whatever is not null in a manifest. -/
theorem get?_ofRecord {entries : List (Data × Data)} (hplain : ∀ e ∈ entries, e.2.isPlain = true) :
    ∃ texts, Record.texts (Data.map entries).toRecord = .ok texts ∧
      ∀ key, (ofTexts texts).get? key =
        (dataAt? entries key).map fun d => Value.ofText? d.setting := by
  refine ⟨_, rfl, fun key => ?_⟩
  rw [ofTexts, Entries.get?_mapValues, Entries.get?_mapValues, toFields_eq_foldl,
    Entries.get?_foldl_put, Entries.get?_nil, Option.or_none]
  -- the two forms of an entry agree for plain data, which the one that counts is
  have hentry (d : Data) : dataAt? entries key = some d → d.isPlain = true := dataAt?_isPlain hplain
  revert hentry
  unfold dataAt?
  cases entries.reverse.find? fun e => e.1.shown = key with
  | none => exact fun _ => rfl
  | some e =>
    intro hentry
    simp only [Option.map_some, Option.some.injEq]
    exact congrArg Value.ofText? (textOrNull_toRecord (hentry e.2 rfl))

/-- The configuration of a file and that of a manifest, of one mapping. -/
structure OfMapping (entries : List (Data × Data)) (file own : Config) : Prop where
  file : ∀ key, file.get? key = (dataAt? entries key).map fun d => .text d.asEntry
  own : ∀ key, own.get? key = (dataAt? entries key).map fun d => Value.ofText? d.setting

/-! ## What options mean -/

theorem duration_congr {c d : Config} {key : String} (h : c.get? key = d.get? key)
    (default : Duration) : c.duration key default = d.duration key default := by
  rw [duration, duration, value_congr h]

theorem value_of_get? {c : Config} {key : String} {v : Value} (h : c.get? key = some v) :
    c.value key = v := by
  rw [value, h, Option.getD_some]

section Unset

variable {c : Config} {key : String}

theorem isHighlyAvailable_of_null (h : c.get? highAvailabilityKey = some .null) :
    c.isHighlyAvailable = .ok false := by
  rw [isHighlyAvailable, value_of_get? h]
  rfl

theorem savepointDirectory_of_null (h : c.get? savepointDirectoryKey = some .null) :
    c.savepointDirectory = .ok none := by
  rw [savepointDirectory, value_of_get? h]

theorem duration_of_null (h : c.get? key = some .null) (default : Duration) :
    c.duration key default = .ok default := by
  rw [duration, value_of_get? h]

/-- The text of null is no mode of high availability. -/
theorem isHighlyAvailable_of_none (h : c.get? highAvailabilityKey = some (.text "None")) :
    c.isHighlyAvailable = .ok false := by
  rw [isHighlyAvailable, value_of_get? h]
  decide +kernel

/-- The text of null is a `savepointDirectory`. -/
theorem savepointDirectory_of_none (h : c.get? savepointDirectoryKey = some (.text "None")) :
    c.savepointDirectory = .ok (some "None") := by
  rw [savepointDirectory, value_of_get? h]
  decide +kernel

/-- The text of null is no `duration`. -/
theorem duration_of_none (h : c.get? key = some (.text "None")) (default : Duration) :
    c.duration key default = .error (.duration (.unreadable "None")) := by
  have hblank : isBlankText (Value.text "None").shown = false := by decide +kernel
  have hunread : Duration.ofValue (.text "None") = .error (.unreadable "None") := by decide +kernel
  rw [duration, value_of_get? h]
  simp only [hblank, hunread, Bool.false_eq_true, if_false]
  rfl

end Unset

namespace OfMapping

variable {entries : List (Data × Data)} {file own : Config} {key : String}
  (h : OfMapping entries file own)

include h

/-- An entry that is not null is the same in both. -/
theorem get?_eq (hset : dataAt? entries key ≠ some .null) : file.get? key = own.get? key := by
  rw [h.file, h.own]
  cases hentry : dataAt? entries key with
  | none => rfl
  | some d =>
    cases d with
    | null => exact absurd hentry hset
    | _ => rfl

/-- An entry that is null is a text in the file, and null in the manifest. -/
theorem get?_unset (hunset : dataAt? entries key = some .null) :
    file.get? key = some (.text "None") ∧ own.get? key = some .null := by
  rw [h.file, h.own, hunset]
  exact ⟨by decide +kernel, rfl⟩

theorem get?_eq_iff : file.get? key = own.get? key ↔ dataAt? entries key ≠ some .null := by
  refine ⟨fun heq hunset => ?_, h.get?_eq⟩
  obtain ⟨hfile, hown⟩ := h.get?_unset hunset
  rw [hfile, hown] at heq
  exact absurd heq (by decide)

theorem isHighlyAvailable_eq : file.isHighlyAvailable = own.isHighlyAvailable := by
  by_cases hunset : dataAt? entries highAvailabilityKey = some .null
  · obtain ⟨hfile, hown⟩ := h.get?_unset hunset
    rw [isHighlyAvailable_of_none hfile, isHighlyAvailable_of_null hown]
  · exact isHighlyAvailable_congr (h.get?_eq hunset)

theorem savepointDirectory_eq_iff :
    file.savepointDirectory = own.savepointDirectory ↔
      dataAt? entries savepointDirectoryKey ≠ some .null := by
  refine ⟨fun heq hunset => ?_, fun hset => savepointDirectory_congr (h.get?_eq hset)⟩
  obtain ⟨hfile, hown⟩ := h.get?_unset hunset
  rw [savepointDirectory_of_none hfile, savepointDirectory_of_null hown] at heq
  exact nomatch Except.ok.inj heq

theorem duration_eq_iff {default : Duration} :
    file.duration key default = own.duration key default ↔ dataAt? entries key ≠ some .null := by
  refine ⟨fun heq hunset => ?_, fun hset => duration_congr (h.get?_eq hset) default⟩
  obtain ⟨hfile, hown⟩ := h.get?_unset hunset
  rw [duration_of_none hfile, duration_of_null hown] at heq
  exact nomatch heq

end OfMapping

end Config

/-! ## The settings of the operator -/

namespace OperatorConfig

/-- The options that settings are read from. -/
def keys : List String :=
  [Config.reconcileIntervalKey, Config.clientTimeoutKey, Config.cancelTimeoutKey,
    Config.savepointTimeoutKey, Config.savepointHistoryKey, Config.savepointIntervalKey]

/-- How many savepoints a configuration says are remembered. -/
def historyOf (c : Config) : Outcome Int :=
  match c.get? Config.savepointHistoryKey with
  | none => .ok ({} : OperatorConfig).historyLimit
  | some v => v.toInteger

theorem read_eq (c : Config) : read c = (do
    let reconcile ← c.duration Config.reconcileIntervalKey ({} : OperatorConfig).reconcileInterval
    let client ← c.duration Config.clientTimeoutKey ({} : OperatorConfig).clientTimeout
    let cancel ← c.duration Config.cancelTimeoutKey ({} : OperatorConfig).cancelTimeout
    let savepoint ← c.duration Config.savepointTimeoutKey ({} : OperatorConfig).savepointTimeout
    let history ← historyOf c
    let interval ← c.duration Config.savepointIntervalKey ({} : OperatorConfig).savepointInterval
    .ok ⟨reconcile, client, cancel, savepoint, history, interval⟩) := by
  rw [read, historyOf]
  cases c.get? Config.savepointHistoryKey <;> rfl

/-- `OperatorConfig.read` reads its settings one by one. -/
theorem read_eq_ok {c : Config} {s : OperatorConfig} :
    read c = .ok s ↔
      c.duration Config.reconcileIntervalKey ({} : OperatorConfig).reconcileInterval =
        .ok s.reconcileInterval ∧
      c.duration Config.clientTimeoutKey ({} : OperatorConfig).clientTimeout = .ok s.clientTimeout ∧
      c.duration Config.cancelTimeoutKey ({} : OperatorConfig).cancelTimeout = .ok s.cancelTimeout ∧
      c.duration Config.savepointTimeoutKey ({} : OperatorConfig).savepointTimeout =
        .ok s.savepointTimeout ∧
      historyOf c = .ok s.historyLimit ∧
      c.duration Config.savepointIntervalKey ({} : OperatorConfig).savepointInterval =
        .ok s.savepointInterval := by
  rw [read_eq]
  simp only [Outcome.bind_eq_ok]
  constructor
  · rintro ⟨_, hreconcile, _, hclient, _, hcancel, _, hsavepoint, _, hhistory, _, hinterval, ⟨⟩⟩
    exact ⟨hreconcile, hclient, hcancel, hsavepoint, hhistory, hinterval⟩
  · rintro ⟨hreconcile, hclient, hcancel, hsavepoint, hhistory, hinterval⟩
    exact ⟨_, hreconcile, _, hclient, _, hcancel, _, hsavepoint, _, hhistory, _, hinterval, rfl⟩

/-- `OperatorConfig.read` depends on the options in `keys` only. -/
theorem read_congr {c d : Config} (h : ∀ key ∈ keys, c.get? key = d.get? key) :
    read c = read d := by
  have hduration (key : String) (hkey : key ∈ keys) (default : Duration) :
      c.duration key default = d.duration key default := Config.duration_congr (h key hkey) default
  rw [read, read, hduration _ (by simp [keys]), hduration _ (by simp [keys]),
    hduration _ (by simp [keys]), hduration _ (by simp [keys]), hduration _ (by simp [keys]),
    h _ (by simp [keys])]

end OperatorConfig

namespace Config.OfMapping

open OperatorConfig

variable {entries : List (Data × Data)} {file own : Config} (h : OfMapping entries file own)

include h

theorem duration_eq_ok_iff {key : String} {default x : Duration} :
    file.duration key default = .ok x ↔
      own.duration key default = .ok x ∧ dataAt? entries key ≠ some .null := by
  by_cases hunset : dataAt? entries key = some .null
  · rw [duration_of_none (h.get?_unset hunset).1]
    simp [hunset]
  · rw [h.duration_eq_iff.2 hunset]
    simp [hunset]

/-- `historyOf` reads neither the text of null nor null itself. -/
theorem historyOf_eq_ok_iff {n : Int} :
    historyOf file = .ok n ↔
      historyOf own = .ok n ∧ dataAt? entries savepointHistoryKey ≠ some .null := by
  by_cases hunset : dataAt? entries savepointHistoryKey = some .null
  · have hfile : historyOf file = .error (.notAnInteger "None") := by
      rw [historyOf, (h.get?_unset hunset).1]
      decide +kernel
    rw [hfile]
    simp [hunset]
  · rw [historyOf, historyOf, h.get?_eq hunset]
    simp [hunset]

/-- `OperatorConfig.read` gives the settings of the manifest for the file, if none of its entries is
null. -/
theorem read_eq_ok_iff {s : OperatorConfig} :
    OperatorConfig.read file = .ok s ↔
      OperatorConfig.read own = .ok s ∧ ∀ key ∈ keys, dataAt? entries key ≠ some .null := by
  rw [OperatorConfig.read_eq_ok, OperatorConfig.read_eq_ok]
  -- each option has its own condition, and all of them together are the one on `keys`
  simp only [h.duration_eq_ok_iff, h.historyOf_eq_ok_iff, keys, List.forall_mem_cons,
    List.not_mem_nil, false_implies, implies_true, and_true]
  tauto

end Config.OfMapping

/-! ## Files and manifests -/

theorem toRecord_specOf (entries : List (Data × Data)) :
    (specOf entries).toRecord = .map [("flinkConfiguration", (Data.map entries).toRecord)] := rfl

section Decode

variable {entries : List (Data × Data)} {texts : Entries (Option String)}
  (h : Record.texts (Data.map entries).toRecord = .ok texts)

/-- `Record.optional` finds no other field in a record with a configuration alone. -/
theorem optional_configuration {α : Type} {v : Value} {key : String} {read : Value → Outcome α}
    (hkey : "flinkConfiguration" ≠ key) :
    Record.optional [("flinkConfiguration", v)] key read = .ok none := by
  have hlookup : Record.lookup [("flinkConfiguration", v)] key = none :=
    Record.lookup_eq_none_iff.2 (.inl (if_neg hkey))
  rw [Record.optional, hlookup]

include h

theorem required_configuration :
    Record.required [("flinkConfiguration", (Data.map entries).toRecord)] "flinkConfiguration" []
      Record.texts = .ok texts := by
  have hlookup : Record.lookup [("flinkConfiguration", (Data.map entries).toRecord)]
      "flinkConfiguration" = some (Data.map entries).toRecord :=
    Record.lookup_eq_some_iff.2 ⟨if_pos rfl, by rintro ⟨⟩⟩
  rw [Record.required, hlookup]
  exact h

/-- `DeploymentSpec.decode` reads a record with a configuration alone. -/
theorem DeploymentSpec.decode_specOf :
    decode (specOf entries).toRecord = .ok { flinkConfiguration := texts } := by
  refine (decode_eq_ok (by rintro ⟨⟩)).2 ⟨_, toRecord_specOf entries, ?_⟩
  simp only [required_configuration h, optional_configuration, ne_eq, String.reduceEq,
    not_false_eq_true, and_self]

/-- `SessionJobSpec.decode` reads it, too. -/
theorem SessionJobSpec.decode_specOf :
    decode (specOf entries).toRecord = .ok { flinkConfiguration := texts } := by
  refine (decode_eq_ok (by rintro ⟨⟩)).2 ⟨_, toRecord_specOf entries, ?_⟩
  simp only [required_configuration h, optional_configuration, ne_eq, String.reduceEq,
    not_false_eq_true, and_self]

end Decode

open Config in
/-- A mapping with plain values, read by `Config.ofFile` as the file of the default configuration and
by `DeploymentSpec.decode` or `SessionJobSpec.decode` as the configuration of a manifest. An option is
the same in both exactly when its entry is not null, and `isHighlyAvailable` always is. The
`savepointDirectory`, and any `duration`, is the same exactly when its entry is not null.
`OperatorConfig.read` succeeds on the file exactly when it does on the manifest and none of its
entries is null, and then it gives the same settings. -/
theorem document_and_manifest_agree_iff {name content : String} {entries : List (Data × Data)}
    (hread : Yaml.read name content = .ok (.map entries))
    (hplain : ∀ e ∈ entries, e.2.isPlain = true) :
    ∃ file texts, ofFile name (some content) = .ok file ∧
      DeploymentSpec.decode (specOf entries).toRecord = .ok { flinkConfiguration := texts } ∧
      SessionJobSpec.decode (specOf entries).toRecord = .ok { flinkConfiguration := texts } ∧
      (∀ key, file.get? key = (ofTexts texts).get? key ↔ dataAt? entries key ≠ some .null) ∧
      file.isHighlyAvailable = (ofTexts texts).isHighlyAvailable ∧
      (file.savepointDirectory = (ofTexts texts).savepointDirectory ↔
        dataAt? entries savepointDirectoryKey ≠ some .null) ∧
      (∀ key default, file.duration key default = (ofTexts texts).duration key default ↔
        dataAt? entries key ≠ some .null) ∧
      (∀ s, OperatorConfig.read file = .ok s ↔ OperatorConfig.read (ofTexts texts) = .ok s ∧
        ∀ key ∈ OperatorConfig.keys, dataAt? entries key ≠ some .null) ∧
      ((∀ key ∈ OperatorConfig.keys, dataAt? entries key ≠ some .null) →
        OperatorConfig.read file = OperatorConfig.read (ofTexts texts)) := by
  obtain ⟨file, hfile, hfileEntries⟩ := get?_ofDocument entries
  obtain ⟨texts, htexts, htextsEntries⟩ := get?_ofRecord hplain
  have h : OfMapping entries file (ofTexts texts) := ⟨hfileEntries, htextsEntries⟩
  refine ⟨file, texts, ?_, DeploymentSpec.decode_specOf htexts, SessionJobSpec.decode_specOf htexts,
    fun key => h.get?_eq_iff, h.isHighlyAvailable_eq, h.savepointDirectory_eq_iff,
    fun key default => h.duration_eq_iff, fun s => h.read_eq_ok_iff, fun hset => ?_⟩
  · rw [ofFile, hread]
    exact hfile
  · exact OperatorConfig.read_congr fun key hkey => h.get?_eq (hset key hkey)

/-- A mapping whose only entry says that savepoints go nowhere. -/
def blankEntries : List (Data × Data) :=
  [(.text Config.savepointDirectoryKey, .null)]

/-- Its file. -/
def blankContent : String :=
  "state.savepoints.dir:\n"

/-- The data of that file, compared by its parts. -/
def isBlankDirectory : Outcome Data → Bool
  | .ok (.map [(.text key, .null)]) => key = Config.savepointDirectoryKey
  | _ => false

theorem read_blankContent : Yaml.read Config.fileName blankContent = .ok (.map blankEntries) := by
  have hread : isBlankDirectory (Yaml.read Config.fileName blankContent) = true := by
    decide +kernel
  revert hread
  generalize Yaml.read Config.fileName blankContent = found
  intro hread
  unfold isBlankDirectory at hread
  split at hread
  · rw [of_decide_eq_true hread, blankEntries]
  · exact nomatch hread

/-- The `savepointDirectory` of the file is a place of this name, and that of the manifest is none. -/
theorem blank_directory_read_apart :
    Yaml.read Config.fileName blankContent = .ok (.map blankEntries) ∧
      (∀ e ∈ blankEntries, e.2.isPlain = true) ∧
      (Config.ofFile Config.fileName (some blankContent) >>= Config.savepointDirectory) =
        .ok (some "None") ∧
      ∃ file texts, Config.ofFile Config.fileName (some blankContent) = .ok file ∧
        DeploymentSpec.decode (specOf blankEntries).toRecord =
          .ok { flinkConfiguration := texts } ∧
        file.isHighlyAvailable = (Config.ofTexts texts).isHighlyAvailable ∧
        file.savepointDirectory ≠ (Config.ofTexts texts).savepointDirectory := by
  have hplain : ∀ e ∈ blankEntries, e.2.isPlain = true := by
    rintro _ (_ | ⟨_, ⟨⟩⟩)
    rfl
  obtain ⟨file, texts, hfile, hspec, -, -, havailable, hdirectory, -⟩ :=
    document_and_manifest_agree_iff read_blankContent hplain
  refine ⟨read_blankContent, hplain, by decide +kernel, file, texts, hfile, hspec, havailable,
    fun hsame => ?_⟩
  exact hdirectory.1 hsame rfl

end FlinkSteward
