import NestedStyles.Batch.Output
import NestedStyles.Batch.Progress

/-!
Running a batch on a disk: every file is handed to a crew in turn, and then the jobs complete in some
order. The crew of a real batch converts the files, and its jobs complete in the order of the files.
-/

set_option autoImplicit false

namespace NestedStyles

structure Batch where
  settings : Settings := {}
  output : Option Path := none
  /-- The number of workers that is asked for; unless it is positive, each processor gets one. -/
  threads : Int := 0

namespace Batch

variable {σ : Type}

/-- The number of workers, on a machine with a number of processors, zero if that is not known. -/
def workers (batch : Batch) (processors : Nat) : Int :=
  if 0 < batch.threads then batch.threads else max processors 1

def startRecord (workers : Int) : Record where
  level := .info
  origin := .batch
  message :=
    "Starting batch processing with up to ".toList ++ Text.ofInt workers ++ " workers.".toList

/-- Why a pool of a number of workers cannot be started; none if it can. -/
abbrev Pool := Int → Option Fault

/-- The pool whose jobs wait in a queue with one place more than there are workers. The places are
counted in a word of 32 bits, one of them for the sign. -/
def Pool.queued : Pool :=
  fun workers => if workers + 1 < 0x80000000 then none else some (.crowded workers)

/-- What carries out jobs: from the position of a job, the disk, a file and the path for its
stylesheet to the disk afterwards and what becomes of the job. -/
abbrev Crew := Nat → Disk → Path → Path → Disk × JobOutcome

def Crew.converting [Romanization] (settings : Settings) : Crew :=
  fun _ disk path output =>
    let (disk, report) := Worker.run settings disk path output
    (disk, .reported report)

/-- Hands files to a crew one after the other, from a position on. A file whose output has no path
ends the batch. -/
def submitFrom (crew : Crew) (output : Option Path) (single : Bool) :
    Nat → Disk → List Path → Disk × Except Fault (List (Path × JobOutcome))
  | _, disk, [] => (disk, .ok [])
  | position, disk, path :: rest =>
    match outputPath disk output single path with
    | .error fault => (disk, .error fault)
    | .ok target =>
      let (disk, outcome) := crew position disk path target
      let (disk, others) := submitFrom crew output single (position + 1) disk rest
      (disk, others.map ((path, outcome) :: ·))

def submit (crew : Crew) (output : Option Path) (disk : Disk) (files : List Path) :
    Disk × Except Fault (List (Path × JobOutcome)) :=
  submitFrom crew output (files.length == 1) 0 disk files

/-- What a batch leaves: the disk, what happened, the observer's state, and the path of each file's
stylesheet or why the batch failed. -/
structure Finished (σ : Type) where
  disk : Disk
  events : List Event
  state : σ
  results : Except Fault (List (Option Path))

/-- Runs a batch with a crew whose jobs complete in the given order. Nothing is handed to the crew
unless the pool of its workers starts. -/
def runWith (batch : Batch) (pool : Pool) (processors : Nat) (crew : Crew) (order : List Nat)
    (disk : Disk) (files : List Path) (observer : Observer σ) (state : σ) : Finished σ :=
  let started := Event.record (startRecord (batch.workers processors))
  match pool (batch.workers processors) with
  | some fault => { disk, events := [started], state, results := .error fault }
  | none =>
    match submit crew batch.output disk files with
    | (disk, .error fault) => { disk, events := [started], state, results := .error fault }
    | (disk, .ok jobs) =>
      let progress := Progress.run observer jobs order state
      { disk
        events := started :: progress.events
        state := progress.state
        results := match progress.stopped with
          | some fault => .error fault
          | none => .ok progress.results }

def run [Romanization] (batch : Batch) (processors : Nat) (disk : Disk) (files : List Path)
    (observer : Observer σ) (state : σ) : Finished σ :=
  batch.runWith .queued processors (.converting batch.settings) (List.range files.length) disk files
    observer state

end Batch

end NestedStyles
