import FlinkSteward.Action
import FlinkSteward.Config.Basic
import FlinkSteward.Digest.Sha1
import FlinkSteward.Yaml.Write

/-!
# Generated files

Pod templates and logging configurations are handed to processes as files. A file or directory is
named for the digest of its content: equal contents share one, and one that is there is kept.

- `Files.writePodTemplate`: the file of a pod template
- `Files.writeLogging`: the directory of a logging configuration
-/

namespace FlinkSteward

/-- A directory of generated files, by path inside it. -/
structure Files where
  /-- The path of the directory. -/
  root : String
  /-- The contents of its files. -/
  contents : Entries String := []
deriving DecidableEq, Inhabited

namespace Files

/-- The path of a file of the directory. -/
def pathOf (files : Files) (name : String) : String :=
  files.root ++ "/" ++ name

/-- The first digits of the digest of a content. -/
def digestOf (content : String) : String :=
  String.ofList ((Sha1.hexDigest content).toList.take 16)

/-- The name of the file of a pod template. -/
def podTemplateName (template : Object) : String :=
  "podTemplate_" ++ digestOf (Yaml.write template) ++ ".yaml"

/-- Writes a pod template, unless its file is there, and gives the path of the file. -/
def writePodTemplate (template : Object) : Action Files String :=
  .ofRun fun files =>
    let name := podTemplateName template
    (.ok (files.pathOf name), { files with
      contents := files.contents.putNew name (Yaml.write template) })

/-- A pair of a file name and its content, as the digest of a logging configuration takes it. -/
def pairText (e : String × Value) : List Char :=
  '(' :: (Text.quoted e.1).toList ++ ',' :: ' ' :: Value.literal e.2 ++ [')']

/-- Pairs with a comma and a blank between two. -/
def pairsText : Entries Value → List Char
  | [] => []
  | e :: rest => pairText e ++ (if rest.isEmpty then [] else [',', ' ']) ++ pairsText rest

/-- The name of the directory of a logging configuration. -/
def loggingName (entries : Entries Value) : String :=
  "conf_" ++ digestOf (String.ofList ('[' :: pairsText entries.sorted ++ [']']))

/-- Writes one file of a logging configuration, if the configuration has it. -/
def writeLogFile (entries : Entries Value) (file : String) : Action Files Unit :=
  match (entries.get? file).getD .null with
  | .null => pure ()
  | .text content => .change fun files => { files with
      contents := files.contents.put (loggingName entries ++ "/" ++ file) content }
  | v => .fail (.mismatch (.notContent v.kind))

/-- Writes the files of a logging configuration, and gives the path of their directory. -/
def writeLogging (entries : Entries Value) : Action Files String := do
  Config.logFiles.forM (writeLogFile entries)
  .read fun files => files.pathOf (loggingName entries)

end Files

end FlinkSteward
