import FlinkSteward.Config.Document
import FlinkSteward.Manage.Manifest

/-!
# Folders

The files that commands read, by path. A path may name a file in several ways.

- `Folder.content`, `Folder.manifest`, `Folder.resource`: what is in a file
- `Folder.defaults`: the default configuration in a directory
-/

namespace FlinkSteward

open FlinkSteward.Text

/-- Files by path, with their contents. -/
abbrev Folder := Entries String

namespace Folder

/-- The parts of a path that count. -/
def partsOf (path : String) : List String :=
  ((splitAt '/' path.toList).map String.ofList).filter fun p => p ≠ "" ∧ p ≠ "."

/-- Whether a path starts at the root. -/
def isAbsolute (path : String) : Bool :=
  path.toList.head? = some '/'

/-- A path with only the parts that count. -/
def normal (path : String) : String :=
  (if isAbsolute path then "/" else "") ++ String.intercalate "/" (partsOf path)

/-- The content of a file, if there is one at a path. -/
def content? (folder : Folder) (path : String) : Option String :=
  if path = "" then none else folder.get? (normal path)

/-- Whether there are files below a path. -/
def isDirectory (folder : Folder) (path : String) : Bool :=
  path ≠ "" && !isAbsolute path && (partsOf path = [] ||
    folder.any fun e => (partsOf path).isPrefixOf (partsOf e.1))

/-- The content of a file. -/
def content (folder : Folder) (path : String) : Outcome String :=
  match folder.content? path with
  | some text => .ok text
  | none => .error (if folder.isDirectory path then .isDirectory path else .noSuchFile path)

/-- The manifest in a file. -/
def manifest (folder : Folder) (path : String) : Outcome Manifest := do
  return .ofRoot (← Yaml.root path (← folder.content path))

/-- The manifest of a resource in a file, which has to have entries. -/
def resource (folder : Folder) (path : String) : Outcome Value := do
  match ← Yaml.read path (← folder.content path) with
  | .map entries => return (Yaml.Data.map entries).toRecord
  | d => .error (.mismatch (.lacks d.kind "get"))

/-- The path of the default configuration in a directory. -/
def defaultsPath (directory : String) : String :=
  let base := normal directory
  if base = "" ∨ base = "/" then base ++ Config.fileName else base ++ "/" ++ Config.fileName

/-- The default configuration in a directory, of which there may be none. -/
def defaults (folder : Folder) (directory : Option String) : Outcome Config :=
  match directory.filter (· ≠ "") with
  | none => .ok []
  | some d => Config.ofFile (defaultsPath d) (folder.content? (defaultsPath d))

example : normal "./a//b/" = "a/b" := by decide

end Folder

end FlinkSteward
