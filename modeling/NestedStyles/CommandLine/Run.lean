import NestedStyles.Batch.Run
import NestedStyles.CommandLine.Arguments
import NestedStyles.CommandLine.Help
import NestedStyles.CommandLine.Inputs
import NestedStyles.CommandLine.Logbook
import NestedStyles.CommandLine.Romanized

/-!
A run of the program: from its command line, its standard input and the disk to what it shows, the
disk it leaves, and its exit code. In `runWith` the workers of a batch may fail to start, its jobs may
turn out in any way and complete in any order, and texts may be spelled in ASCII in any way; `run` converts
the files one after the other and spells as `NestedStyles.CommandLine.Romanized` says.
-/

set_option autoImplicit false

namespace NestedStyles

namespace CommandLine

/-- What a run finds around it: the number of processors, zero if it is not known, and the stamp
that names its log file. -/
structure Surroundings where
  processors : Nat := 0
  stamp : Text

structure Finished where
  exit : Nat
  disk : Disk
  output : Text := []
  errors : Text := []

/-- A part of a run: the disk it left, what happened, and the exit code or why it failed. -/
structure Part where
  disk : Disk
  events : List Batch.Event := []
  exit : Except Fault Nat

def standardInput : Text := ['-']

def Arguments.readsInput (a : Arguments) : Bool :=
  a.inputs == [standardInput]

def line (text : Text) : Batch.Event :=
  .printed (text ++ ['\n'])

section Romanized

variable [Romanization]

def convertInput (settings : Settings) (input : Text) (disk : Disk) : Part :=
  let converted := Conversion.run settings input
  let events := converted.log.map Batch.Event.record
  match converted.result with
  | .error fault => { disk, events, exit := .error (.conversion fault) }
  | .ok none =>
    let warning := note .warning "No stylesheet produced from stdin.".toList
    { disk, events := events ++ [.record warning], exit := .ok 1 }
  | .ok (some stylesheet) => { disk, events := events ++ [line stylesheet], exit := .ok 0 }

/-- How many files of a batch are done, and how many of them failed. -/
structure Tally where
  completed : Nat := 0
  failed : Nat := 0
  deriving DecidableEq, Repr

/-- A number with blanks in front of it, as wide as the largest number of a count. -/
def aligned (count n : Nat) : Text :=
  let width := (Text.ofNat count).length
  let digits := Text.ofNat n
  List.replicate (width - digits.length) ' ' ++ digits

/-- The place of a file in a batch, in brackets. -/
def place (count n : Nat) : Text :=
  '[' :: aligned count n ++ '/' :: Text.ofNat count ++ "] ".toList

/-- What is shown of a file of a batch. -/
def noticeEvents (count n : Nat) (notice : Batch.Notice) : List Batch.Event :=
  let place := place count n
  match notice.failure, notice.written with
  | some fault, _ =>
    [line (place ++ "Error: ".toList ++ notice.path.name),
      line ("  └─ ".toList ++ fault.message),
      .record (note .error
        ("Failed to convert ".toList ++ notice.path.name ++ ": ".toList ++ fault.message))]
  | none, none => [line (place ++ "Skipped (no styles): ".toList ++ notice.path.name)]
  | none, some written =>
    [line (place ++ "Done: ".toList ++ notice.path.name ++ " -> ".toList ++ written.toText)]

/-- Shows each file of a batch as it is done. -/
def watch (count : Nat) : Batch.Observer Tally :=
  fun tally notice =>
    let completed := tally.completed + 1
    { state := { completed, failed := tally.failed + if notice.failure.isSome then 1 else 0 }
      events := noticeEvents count completed notice }

/-- How the jobs of a batch are carried out: which pools of workers can be started, the crew for given
settings, and the order in which a number of jobs complete. -/
structure Labour where
  pool : Batch.Pool
  crew : Settings → Batch.Crew
  order : Nat → List Nat

/-- Files are converted, and complete in their order. -/
def Labour.converting : Labour where
  pool := .queued
  crew := Batch.Crew.converting
  order := List.range

def Arguments.batch (a : Arguments) : Batch :=
  { settings := a.settings, output := a.output, threads := a.threads }

def convertFiles (labour : Labour) (processors : Nat) (a : Arguments) (files : List Path)
    (disk : Disk) : Part :=
  let found := note .info
    ("Found ".toList ++ Text.ofNat files.length ++ " files. Starting conversion...".toList)
  let finished := a.batch.runWith labour.pool processors (labour.crew a.settings)
    (labour.order files.length) disk files (watch files.length) {}
  let events := .record found :: finished.events
  match finished.results with
  | .error fault => { disk := finished.disk, events, exit := .error fault }
  | .ok _ =>
    { disk := finished.disk
      events := events ++ [line "\nBatch conversion finished.".toList]
      exit := .ok (if finished.state.failed = 0 then 0 else 1) }

def convertInputs (labour : Labour) (processors : Nat) (a : Arguments) (disk : Disk) : Part :=
  let collected := collect disk a.inputs
  let events := collected.log.map Batch.Event.record
  match collected.result with
  | .error fault => { disk, events, exit := .error fault }
  | .ok [] =>
    let warning := note .warning "No .html files found to process.".toList
    { disk, events := events ++ [.record warning], exit := .ok 1 }
  | .ok files =>
    let part := convertFiles labour processors a files disk
    { part with events := events ++ part.events }

def fatalRecord (fault : Fault) : Record where
  level := .error
  origin := .program
  message := "A critical error occurred while running the CLI.".toList
  cause := some fault.cause

/-- The exit code of a part of a run, and what happened; a fault is recorded. -/
def settle (part : Part) : Nat × List Batch.Event :=
  match part.exit with
  | .ok exit => (exit, part.events)
  | .error fault => (1, part.events ++ [.record (fatalRecord fault)])

/-- The least level of the records that are shown. -/
def Arguments.console (a : Arguments) : Level :=
  if a.verbose then .info else .error

/-- What is converted in a run. -/
def convertRequested (labour : Labour) (processors : Nat) (a : Arguments) (input : Text)
    (disk : Disk) : Part :=
  if a.readsInput then convertInput a.settings input disk
  else convertInputs labour processors a disk

/-- The whole of a run after its command line was read. -/
def perform (labour : Labour) (s : Surroundings) (a : Arguments) (input : Text) (disk : Disk) :
    Finished :=
  let (disk, started) := Logbook.start s.stamp disk
  let part := convertRequested labour s.processors a input disk
  let (exit, events) := settle part
  let shown (events : List Batch.Event) : Text :=
    events.flatMap (Batch.Event.consoleText a.console)
  match started with
  | .error fault =>
    { exit, disk := part.disk, output := shown (.record (Logbook.failureRecord fault) :: events) }
  | .ok () =>
    let events := .record (Logbook.startRecord a.console s.stamp) :: events
    let log := events.flatMap Batch.Event.fileText
    { exit
      disk := (Logbook.append s.stamp log part.disk).toOption.getD part.disk
      output := shown events }

def refusal (fault : ArgumentFault) : Text :=
  "twcss-to-sass: error: ".toList ++ fault.message ++ ['\n']

/-- A run of the program whose batch is carried out as given. -/
def runWith (labour : Labour) (s : Surroundings) (arguments : List Text) (input : Text)
    (disk : Disk) : Finished :=
  match Arguments.parse arguments with
  | .error .help => { exit := 0, disk, output := help }
  | .error (.refused fault) => { exit := 2, disk, errors := refusal fault }
  | .ok a => perform labour s a input disk

end Romanized

def run (s : Surroundings) (arguments : List Text) (input : Text) (disk : Disk) : Finished :=
  runWith .converting s arguments input disk

end CommandLine

end NestedStyles
