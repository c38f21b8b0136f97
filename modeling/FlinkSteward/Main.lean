import FlinkSteward.Command.Run

/-!
# The program

Reads the files that a command line names, runs it, and prints what it wrote. Manifests are validated as
everywhere; there is no network, so that commands on clusters find Kubernetes unavailable.
-/

namespace FlinkSteward.Command

/-- What users see when they ask for help. -/
def usage : List String := [
  "usage: [--namespace NAME] [--conf-dir DIR] COMMAND",
  "",
  "list                                    all clusters",
  "status NAME [--verbose]                 what was observed of a cluster",
  "validate FILE [--session-file FILE]     whether a manifest is accepted",
  "suspend NAME [--wait] [--timeout SECS]  suspends the job of a cluster",
  "resume NAME [--wait] [--timeout SECS]   resumes the job of a cluster",
  "savepoint NAME                          takes a savepoint of the job of a cluster"]

/-- The file at a path, if it can be read. -/
def fileAt? (path : String) : IO (Option (String × String)) := do
  try
    return some (Folder.normal path, ← IO.FS.readFile path)
  catch _ => return none

/-- The files that a command may need. -/
def folderOf (words : List String) (directory : Option String) : IO Folder := do
  let named := match Invocation.ofWords words with
    | .ok i => i.files ++ i.directory.toList.map Folder.defaultsPath
    | .error _ => []
  (named ++ directory.toList.map Folder.defaultsPath).filterMapM fileAt?

end FlinkSteward.Command

open FlinkSteward FlinkSteward.Command

/-- Runs a command line. -/
def main (words : List String) : IO UInt32 := do
  match Invocation.ofWords words with
  | .error .help => usage.forM IO.println
  | .error (.refused f) => IO.eprintln f.message
  | .ok _ => pure ()
  let directory ← IO.getEnv "FLINK_CONF_DIR"
  let setting : Setting Unit := {
    folder := ← folderOf words directory
    directory
    connect := fun space => Kubernetes.offline (.text space)
    clock := ⟨pure 0, fun _ => pure ()⟩ }
  let (exit, written, _) := setting.run words ()
  IO.print written
  return exit.code.toUInt32
