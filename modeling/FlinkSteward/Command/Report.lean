import FlinkSteward.Resource.Basic

/-!
# Reports

The lines that users see.

- `Colour.paint`: coloured text
- `tableRow`: a cluster in the table of all clusters
- `statusLines`: what was observed of a cluster
-/

namespace FlinkSteward.Command

/-- The colours of lines. -/
inductive Colour where
  | green
  | yellow
  | blue
  | red
deriving DecidableEq, Inhabited

namespace Colour

/-- The code that terminals know a colour by. -/
def code : Colour → String
  | green => "0;32"
  | yellow => "1;33"
  | blue => "0;34"
  | red => "0;31"

/-- A text in a colour. -/
def paint (c : Colour) (text : String) : String :=
  "\x1b[" ++ c.code ++ "m" ++ text ++ "\x1b[0m"

end Colour

/-- A line of good news. -/
def success (text : String) : String :=
  Colour.green.paint ("✓ " ++ text)

/-- A line of bad news. -/
def setback (text : String) : String :=
  Colour.red.paint ("✗ " ++ text)

/-! ## Tables -/

/-- A text with blanks behind it that fill a column. -/
def column (width : Nat) (text : String) : String :=
  text ++ String.ofList (List.replicate (width - text.length) ' ')

/-- A row of the table of all clusters. -/
def row (name manager job : String) : String :=
  column 25 name ++ " " ++ column 20 manager ++ " " ++ column 15 job

/-- The lines above the rows. -/
def tableHead : List String :=
  [row "NAME" "JOBMANAGER" "JOB STATE", String.ofList (List.replicate 60 '-')]

/-- The state of a job as users see it. -/
def jobState (s : JobStatus) : String :=
  match s.state with
  | some state => if state.isTruthy then state.shown else "UNKNOWN"
  | none => "UNKNOWN"

/-- The row of a cluster, which has to have a name. -/
def tableRow (d : Deployment) : Outcome String :=
  match d.metadata.name with
  | some name => .ok (row name (Enumeration.written d.status.manager) (jobState d.status.job))
  | none => .error (.mismatch (.notAlignable (Value.kind .null)))

/-! ## Statuses -/

/-- A line with a label. -/
def labelled (label text : String) : String :=
  column 16 label ++ text

/-- The line of a text, unless it is missing or empty. -/
def labelledIfThere (label : String) (text : Option String) : List String :=
  ((text.filter (· ≠ "")).map (labelled label)).toList

/-- The lines on the savepoints of a job. -/
def savepointLines (s : SavepointInfo) : List String :=
  (s.lastSavepoint.map fun p => labelled "Savepoint:" (Value.ofOption p.location).shown).toList ++
    if s.isPending then
      [labelled "Pending:" (Enumeration.written (s.triggerType.getD .unknown) ++ " savepoint " ++
        (Value.ofOption s.triggerId).shown)]
    else []

/-- The lines on what was observed of a cluster. -/
def statusLines (d : Deployment) (isVerbose : Bool) : List String :=
  let job := d.status.job
  [Colour.blue.paint "=== FlinkDeployment Status ===",
    labelled "Name:" (Value.ofText? d.metadata.name).shown,
    labelled "JobManager:" (Enumeration.written d.status.manager),
    labelled "Job State:" (jobState job)] ++
  labelledIfThere "Started:" job.startTime ++
  savepointLines job.savepoints ++
  (labelledIfThere "Error:" d.status.error).map Colour.red.paint ++
  if isVerbose then
    [Colour.blue.paint "\n=== Full Status ===", Json.writeIndented d.status.encode]
  else []

end FlinkSteward.Command
