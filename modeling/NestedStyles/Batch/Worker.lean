import NestedStyles.Files.Conversion

/-!
A worker converts one file of a batch. It keeps its records to itself, and its failures become part
of its report.
-/

set_option autoImplicit false

namespace NestedStyles

namespace Batch

/-- What a worker reports: the file, the path it wrote, its records as text, and why it failed. -/
structure Report where
  path : Path
  written : Option Path := none
  log : Text := []
  failure : Option Fault := none

namespace Worker

def startRecord (path : Path) : Record where
  level := .info
  origin := .batch
  message := "Converting: ".toList ++ path.name

def endRecord (path : Path) : Record where
  level := .info
  origin := .batch
  message := "Finished conversion for: ".toList ++ path.name

def failureRecord (path : Path) (fault : Fault) : Record where
  level := .error
  origin := .batch
  message := "Failed conversion for: ".toList ++ path.name
  cause := some fault.cause

/-- The records a worker makes around those of its conversion. -/
def records (path : Path) (outcome : DiskOutcome (Option Path)) : List Record :=
  startRecord path :: outcome.log ++
    match outcome.result with
    | .ok _ => [endRecord path]
    | .error fault => [failureRecord path fault]

def report (path : Path) (outcome : DiskOutcome (Option Path)) : Report :=
  let log := ((records path outcome).map Record.fileText).flatten
  match outcome.result with
  | .ok written => { path, written, log }
  | .error fault => { path, log, failure := some fault.report }

variable [Romanization]

/-- Converts a file of a batch: the disk afterwards, and the report. -/
def run (settings : Settings) (disk : Disk) (path output : Path) : Disk × Report :=
  let outcome := disk.convertFile settings path output
  (outcome.disk, report path outcome)

end Worker

end Batch

end NestedStyles
