import FlinkSteward.Proofs.Action
import FlinkSteward.Proofs.Config.Digested
import Mathlib.Data.List.Induction

/-!
# Files of artifacts

Files are generated for pod templates and logging configurations. A pod template is not written when its
file is there, while the files of a logging configuration are written again, up to the first one that
fails. Either way a file that is written holds what it held before, as long as no two different texts have
one digest. So the files after any artifacts are those that the artifacts put, whatever their order.

## Key results

- `Files.Artifact`: a pod template or a logging configuration, with the files it puts
- `Files.get?_write`: what one artifact changes
- `Files.get?_store`: what is there after artifacts one after the other
- `Files.finds_template`, `Files.finds_logging`: what is found at the path of an artifact
-/

namespace FlinkSteward

namespace Files

/-! ## Artifacts -/

/-- What files are generated for. -/
inductive Artifact where
  /-- A pod template, as it is in memory. -/
  | template (t : Object)
  /-- A logging configuration. -/
  | logging (entries : Entries Value)

/-- The files of a logging configuration that are written, up to the first one with a content that is
no text. -/
def logPuts (entries : Entries Value) : List String → Entries String
  | [] => []
  | file :: rest =>
    match (entries.get? file).getD .null with
    | .null => logPuts entries rest
    | .text s => (loggingPath entries file, s) :: logPuts entries rest
    | _ => []

namespace Artifact

/-- Writes the files, and gives the path of the file or of the directory. -/
def write : Artifact → Action Files String
  | template t => writePodTemplate t
  | logging entries => writeLogging entries

/-- The text whose digest is in the name. -/
def digested : Artifact → String
  | template t => Yaml.write t
  | logging entries => loggingText entries

/-- The name of the file or of the directory. -/
def name : Artifact → String
  | template t => podTemplateName t
  | logging entries => loggingName entries

/-- The files that are written. -/
def puts : Artifact → Entries String
  | template t => [(podTemplateName t, Yaml.write t)]
  | logging entries => logPuts entries Config.logFiles

end Artifact

/-! ## What one artifact changes -/

/-- Files with others put on top. -/
def putAll (files : Files) (puts : Entries String) : Files :=
  { files with contents := files.contents.update puts }

theorem mem_logPuts {entries : Entries Value} {fs : List String} {e : String × String}
    (h : e ∈ logPuts entries fs) :
    ∃ file ∈ fs, e.1 = loggingPath entries file ∧ entries.get? file = some (.text e.2) := by
  induction fs with
  | nil => exact nomatch h
  | cons file fs ih =>
    have hrest : e ∈ logPuts entries fs → ∃ file' ∈ file :: fs,
        e.1 = loggingPath entries file' ∧ entries.get? file' = some (.text e.2) := by
      intro he
      obtain ⟨file', hmem, hfile⟩ := ih he
      exact ⟨file', List.mem_cons_of_mem _ hmem, hfile⟩
    rw [logPuts] at h
    split at h
    · exact hrest h
    · rename_i s hs
      rcases List.mem_cons.1 h with rfl | h
      · refine ⟨file, List.mem_cons_self, rfl, ?_⟩
        cases hv : entries.get? file with
        | none => rw [hv] at hs; exact nomatch hs
        | some v => rw [hv] at hs; exact congrArg some hs
      · exact hrest h
    · exact nomatch h

/-- `logPuts` writes no file twice. -/
theorem distinct_logPuts (entries : Entries Value) {fs : List String} (h : fs.Nodup) :
    (logPuts entries fs).Distinct := by
  induction fs with
  | nil => trivial
  | cons file fs ih =>
    obtain ⟨hfile, hrest⟩ := List.nodup_cons.1 h
    rw [logPuts]
    split
    · exact ih hrest
    · refine ⟨?_, ih hrest⟩
      rw [Entries.get?_eq_none_iff]
      intro e he hpath
      obtain ⟨other, hother, hname, -⟩ := mem_logPuts he
      rw [hname] at hpath
      exact hfile ((loggingPath_inj hpath).2 ▸ hother)
    · trivial

private theorem forM_cons (entries : Entries Value) (file : String) (fs : List String) :
    (file :: fs).forM (writeLogFile entries) =
      writeLogFile entries file >>= fun _ => fs.forM (writeLogFile entries) := rfl

/-- `writeLogFile` puts the files of a logging configuration up to the first one that fails. -/
theorem runOn_writeLogFiles (entries : Entries Value) (fs : List String) (files : Files) :
    ((fs.forM (writeLogFile entries)).runOn files).2 = files.putAll (logPuts entries fs) := by
  induction fs generalizing files with
  | nil => rfl
  | cons file fs ih =>
    rw [forM_cons, logPuts, writeLogFile]
    cases (entries.get? file).getD .null with
    | null => exact ih files
    | text s => exact ih _
    | _ => rfl

/-- When no `writeLogFile` fails, every content is in `logPuts`. -/
theorem mem_logPuts_of_ok {entries : Entries Value} {fs : List String} {files after : Files}
    (h : (fs.forM (writeLogFile entries)).runOn files = (.ok (), after)) {file s : String}
    (hfile : file ∈ fs) (hs : entries.get? file = some (.text s)) :
    (loggingPath entries file, s) ∈ logPuts entries fs := by
  induction fs generalizing files with
  | nil => exact nomatch hfile
  | cons first fs ih =>
    rw [forM_cons] at h
    obtain ⟨_, between, hfirst, hrest⟩ := Action.runOn_bind_eq_ok.1 h
    rw [logPuts]
    rcases List.mem_cons.1 hfile with rfl | hfile
    · simp [hs]
    · rw [writeLogFile] at hfirst
      revert hfirst
      cases (entries.get? first).getD .null with
      | null => exact fun _ => ih hrest hfile
      | text t => exact fun _ => List.mem_cons_of_mem _ (ih hrest hfile)
      | _ => exact fun h => nomatch h

theorem runOn_write_template (t : Object) (files : Files) :
    (Artifact.template t).write.runOn files = (.ok (files.pathOf (podTemplateName t)),
      { files with contents := files.contents.putNew (podTemplateName t) (Yaml.write t) }) := rfl

theorem runOn_write_logging (entries : Entries Value) (files : Files) :
    ((Artifact.logging entries).write.runOn files).2 =
      files.putAll (logPuts entries Config.logFiles) := by
  have hfiles := runOn_writeLogFiles entries Config.logFiles files
  rw [Artifact.write, writeLogging, Action.runOn_bind]
  rcases hrun : (Config.logFiles.forM (writeLogFile entries)).runOn files with ⟨_ | _, t⟩ <;>
    rw [hrun] at hfiles <;> exact hfiles

@[simp] theorem root_write (a : Artifact) (files : Files) :
    (a.write.runOn files).2.root = files.root := by
  cases a with
  | template t => rfl
  | logging entries => rw [runOn_write_logging]; rfl

/-- `Artifact.write` returns the path of the artifact's `name`. -/
theorem path_of_write {a : Artifact} {files after : Files} {path : String}
    (h : a.write.runOn files = (.ok path, after)) : path = files.pathOf a.name := by
  cases a with
  | template t =>
    rw [runOn_write_template, Prod.mk.injEq, Except.ok.injEq] at h
    exact h.1.symm
  | logging entries =>
    have hroot := root_write (.logging entries) files
    rw [h] at hroot
    obtain ⟨_, _, -, hread⟩ := Action.runOn_bind_eq_ok.1 h
    rw [Action.runOn_read, Prod.mk.injEq, Except.ok.injEq] at hread
    obtain ⟨rfl, rfl⟩ := hread
    rw [pathOf, hroot]
    rfl

/-- `Artifact.write` adds what the artifact `puts`, if what is there already agrees with that. -/
theorem get?_write {a : Artifact} {files : Files}
    (hagree : ∀ name s s', (name, s) ∈ a.puts → files.contents.get? name = some s' → s = s')
    (name s : String) : (a.write.runOn files).2.contents.get? name = some s ↔
      files.contents.get? name = some s ∨ (name, s) ∈ a.puts := by
  cases a with
  | template t =>
    rw [runOn_write_template, Artifact.puts, List.mem_singleton, Prod.mk.injEq]
    dsimp only
    rw [Entries.putNew, Entries.has]
    cases hold : files.contents.get? (podTemplateName t) with
    | some s' =>
      -- the file is there, and holds what would be written
      obtain rfl := hagree _ _ s' List.mem_cons_self hold
      rw [Option.isSome_some, if_pos rfl]
      constructor
      · exact .inl
      · rintro (h | ⟨rfl, rfl⟩)
        · exact h
        · exact hold
    | none =>
      rw [Option.isSome_none, if_neg Bool.noConfusion, Entries.get?_put]
      split
      · subst_vars
        simp [hold, eq_comm]
      · rename_i hne
        simp [Ne.symm hne]
  | logging entries =>
    have hdistinct : (logPuts entries Config.logFiles).Distinct :=
      distinct_logPuts entries (by decide)
    rw [runOn_write_logging, putAll, Artifact.puts]
    dsimp only
    rw [Entries.get?_update_of_distinct _ hdistinct]
    cases hput : (logPuts entries Config.logFiles).get? name with
    | none =>
      have hnot : (name, s) ∉ logPuts entries Config.logFiles := fun hmem => by
        have h := hdistinct.get?_of_mem hmem
        rw [hput] at h
        exact nomatch h
      simp [hnot]
    | some s' =>
      have hmem := Entries.mem_of_get? hput
      rw [Option.some_or, Option.some.injEq]
      constructor
      · rintro rfl
        exact .inr hmem
      · rintro (h | h)
        · exact hagree name s' s hmem h
        · have hs := hdistinct.get?_of_mem h
          exact Option.some.inj (hput.symm.trans hs)

/-! ## Artifacts one after the other -/

/-- The files after artifacts were written, whether or not that failed. -/
def store (files : Files) (written : List Artifact) : Files :=
  written.foldl (fun files a => (a.write.runOn files).2) files

theorem store_append (files : Files) (written more : List Artifact) :
    files.store (written ++ more) = (files.store written).store more :=
  List.foldl_append

@[simp] theorem root_store (files : Files) (written : List Artifact) :
    (files.store written).root = files.root := by
  induction written generalizing files with
  | nil => rfl
  | cons a written ih => exact (ih _).trans (root_write a files)

/-- No two different texts that artifacts are named for have one `digestOf`. -/
def Unmistaken (written : List Artifact) : Prop :=
  ∀ a ∈ written, ∀ b ∈ written, digestOf a.digested = digestOf b.digested → a.digested = b.digested

/-- Artifacts whose `digested` texts have different digests, unless they are the same, agree on the
files that they put. -/
theorem eq_of_puts {a b : Artifact}
    (hdigest : digestOf a.digested = digestOf b.digested → a.digested = b.digested)
    {name s s' : String} (ha : (name, s) ∈ a.puts) (hb : (name, s') ∈ b.puts) : s = s' := by
  cases a with
  | template t =>
    obtain ⟨rfl, rfl⟩ := Prod.mk.inj (List.mem_singleton.1 ha)
    cases b with
    | template u =>
      obtain ⟨hname, rfl⟩ := Prod.mk.inj (List.mem_singleton.1 hb)
      exact hdigest (podTemplateName_inj hname)
    | logging entries =>
      obtain ⟨file, -, hname, -⟩ := mem_logPuts hb
      exact absurd hname (podTemplateName_ne_loggingPath t entries file)
  | logging entries =>
    obtain ⟨file, -, hname, hs⟩ := mem_logPuts ha
    cases b with
    | template u =>
      obtain ⟨rfl, -⟩ := Prod.mk.inj (List.mem_singleton.1 hb)
      exact absurd hname (podTemplateName_ne_loggingPath u entries file)
    -- two configurations with one digest have the same entries, and so the same file
    | logging others =>
      obtain ⟨other, -, hname', hs'⟩ := mem_logPuts hb
      obtain ⟨hpath, rfl⟩ := loggingPath_inj (hname.symm.trans hname')
      have h := loggingText_inj (hdigest hpath) hs
      rw [hs'] at h
      exact (Value.text.inj (Option.some.inj h)).symm

/-- What `store` leaves in a new directory is what the artifacts `puts` there. -/
theorem get?_store {root : String} {written : List Artifact} (h : Unmistaken written)
    (name s : String) : (store { root } written).contents.get? name = some s ↔
      ∃ a ∈ written, (name, s) ∈ a.puts := by
  induction written using List.reverseRecOn generalizing name s with
  | nil => simp [store]
  | append_singleton written a ih =>
    have hbefore : Unmistaken written := fun b hb c hc =>
      h b (List.mem_append_left _ hb) c (List.mem_append_left _ hc)
    -- what is there is what earlier artifacts have put, which this one agrees with
    have hagree : ∀ name s s', (name, s) ∈ a.puts →
        (store { root } written).contents.get? name = some s' → s = s' := by
      intro name s s' ha hs'
      obtain ⟨b, hb, hput⟩ := (ih hbefore name s').1 hs'
      exact eq_of_puts (h a (by simp) b (List.mem_append_left _ hb)) ha hput
    rw [store_append, show (store { root } written).store [a] =
      (a.write.runOn (store { root } written)).2 from rfl, get?_write hagree, ih hbefore]
    simp [or_and_right, exists_or]

/-! ## What is found -/

/-- A file of the directory with a content, by its whole path. -/
def Has (files : Files) (path content : String) : Prop :=
  ∃ name, path = files.pathOf name ∧ files.contents.get? name = some content

/-- What is found at the path of an artifact: the sorted YAML of a pod template, or exactly the files of a
logging configuration for which it has a text. -/
def Finds (files : Files) (path : String) : Artifact → Prop
  | .template t => ∀ content, files.Has path content ↔ content = Yaml.write t
  | .logging entries => ∀ file content, files.Has (path ++ "/" ++ file) content ↔
      file ∈ Config.logFiles ∧ entries.get? file = some (.text content)

theorem has_pathOf {files : Files} {name content : String} :
    files.Has (files.pathOf name) content ↔ files.contents.get? name = some content := by
  constructor
  · rintro ⟨other, hpath, h⟩
    rw [String.append_right_inj _ |>.1 hpath]
    exact h
  · exact fun h => ⟨name, rfl, h⟩

/-- After `store`, the file of a pod template holds the template (`Finds`). -/
theorem finds_template {root : String} {written : List Artifact} {t : Object}
    (hdigest : Unmistaken written) (ht : .template t ∈ written) :
    (store { root } written).Finds ((store { root } written).pathOf (podTemplateName t))
      (.template t) := by
  intro content
  rw [has_pathOf, get?_store hdigest]
  have hput : (podTemplateName t, Yaml.write t) ∈ (Artifact.template t).puts := List.mem_cons_self
  constructor
  · rintro ⟨b, hb, hmem⟩
    exact eq_of_puts (hdigest b hb _ ht) hmem hput
  · rintro rfl
    exact ⟨_, ht, hput⟩

/-- After `store`, the directory of a logging configuration holds its texts, and nothing else
(`Finds`). -/
theorem finds_logging {root : String} {written : List Artifact} {entries : Entries Value}
    (hdigest : Unmistaken written) (hentries : .logging entries ∈ written)
    (hwhole : ∃ files path left, (Artifact.logging entries).write.runOn files = (.ok path, left)) :
    (store { root } written).Finds ((store { root } written).pathOf (loggingName entries))
      (.logging entries) := by
  intro file content
  have hpath : (store { root } written).pathOf (loggingName entries) ++ "/" ++ file =
      (store { root } written).pathOf (loggingPath entries file) := by
    simp only [pathOf, loggingPath, String.append_assoc]
  rw [hpath, has_pathOf, get?_store hdigest]
  constructor
  · rintro ⟨b, hb, hmem⟩
    cases b with
    | template t =>
      obtain ⟨hname, -⟩ := Prod.mk.inj (List.mem_singleton.1 hmem)
      exact absurd hname.symm (podTemplateName_ne_loggingPath t entries file)
    | logging m =>
      -- another logging configuration of the same name has the same texts
      obtain ⟨other, hother, hname, hm⟩ := mem_logPuts hmem
      obtain ⟨hsame, rfl⟩ := loggingPath_inj hname
      exact ⟨hother, loggingText_inj (hdigest _ hb _ hentries hsame.symm) hm⟩
  · rintro ⟨hfile, hcontent⟩
    obtain ⟨files, path, left, hrun⟩ := hwhole
    obtain ⟨_, _, hfiles, -⟩ := Action.runOn_bind_eq_ok.1 hrun
    exact ⟨_, hentries, mem_logPuts_of_ok hfiles hfile hcontent⟩

end Files

end FlinkSteward
