import FlinkSteward.Config.Basic
import FlinkSteward.Yaml.Read

/-!
# The default configuration

The file from which the operator takes the defaults of all configurations: a YAML mapping, whose keys
and values are texts in the configuration.

- `Config.ofDocument`: the configuration of a document
- `Config.ofFile`: the configuration of a file that may be missing
-/

namespace FlinkSteward.Config

open FlinkSteward.Yaml

/-- The name of the file in its directory. -/
def fileName : String := "flink-conf.yaml"

/-- The configuration of a document; an empty one has no entries. -/
def ofDocument (d : Data) : Outcome Config :=
  if !d.isTruthy then .ok []
  else match d with
    | .map entries =>
      .ok (entries.foldl (fun c e => c.put e.1.shown (.text e.2.asEntry)) [])
    | d => .error (.mismatch (.lacks d.kind "items"))

/-- The configuration of a file with this name and content; without one there are no defaults. -/
def ofFile (name : String) (content : Option String) : Outcome Config :=
  match content with
  | none => .ok []
  | some text => read name text >>= ofDocument

end FlinkSteward.Config
