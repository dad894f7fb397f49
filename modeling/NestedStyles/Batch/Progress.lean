import NestedStyles.Batch.Worker

/-!
A batch of jobs, one for each file, as its jobs complete.

Jobs complete in any order. What a job reports is kept in the slot of its position, and an observer
is told of it; when the observer fails, the job counts as failed and the observer is told once more.
The results and the workers' records come out in the order of the files.
-/

set_option autoImplicit false

namespace NestedStyles

namespace Batch

/-- What becomes of a job: the worker's report, or the failure of the worker itself. -/
inductive JobOutcome where
  | reported (report : Report)
  | crashed (fault : Fault)

/-- What an observer is told of a job. -/
structure Notice where
  path : Path
  written : Option Path
  failure : Option Fault

/-- What happens during a batch that others can see. -/
inductive Event where
  | record (record : Record)
  | printed (text : Text)
  /-- The records of the worker on a file of the given name. -/
  | workerLog (name log : Text)

/-- How an observer takes a notice: its next state, what it does, and its failure. -/
structure Reaction (σ : Type) where
  state : σ
  events : List Event := []
  failure : Option Fault := none

/-- Someone who is told of each job that completes. -/
abbrev Observer (σ : Type) := σ → Notice → Reaction σ

def Observer.idle : Observer Unit :=
  fun _ _ => ⟨(), [], none⟩

/-- How far a batch has come. Once it is `stopped`, nothing more happens. -/
structure Progress (σ : Type) where
  slots : List (Option Report)
  state : σ
  events : List Event := []
  stopped : Option Fault := none

namespace Progress

variable {σ : Type}

def start (count : Nat) (state : σ) : Progress σ where
  slots := List.replicate count none
  state := state

def fill (position : Nat) (report : Report) (p : Progress σ) : Progress σ :=
  { p with slots := p.slots.set position (some report) }

def happen (event : Event) (p : Progress σ) : Progress σ :=
  { p with events := p.events ++ [event] }

/-- Tells the observer. The second component is the observer's failure. -/
def tell (observer : Observer σ) (notice : Notice) (p : Progress σ) :
    Progress σ × Option Fault :=
  let reaction := observer p.state notice
  ({ p with state := reaction.state, events := p.events ++ reaction.events }, reaction.failure)

/-- The record of a job that failed outside its worker. -/
def failureRecord (path : Path) (fault : Fault) : Record where
  level := .error
  origin := .batch
  message := "Critical worker failure for ".toList ++ path.name ++ ": ".toList ++ fault.message
  cause := some fault.cause

/-- What stands in the slot of a job that failed outside its worker. -/
def failureReport (path : Path) (fault : Fault) : Report where
  path := path
  log := "CRITICAL FAILURE: ".toList ++ fault.message ++ ['\n']
  failure := some fault

/-- Counts a job as failed. A failure of the observer stops the batch. -/
def fail (observer : Observer σ) (position : Nat) (path : Path) (fault : Fault)
    (p : Progress σ) : Progress σ :=
  let p := (p.happen (.record (failureRecord path fault))).fill position (failureReport path fault)
  let (p, failure) := p.tell observer ⟨path, none, some fault⟩
  { p with stopped := failure }

def completeJob (observer : Observer σ) (position : Nat) (path : Path) (outcome : JobOutcome)
    (p : Progress σ) : Progress σ :=
  match outcome with
  | .crashed fault => p.fail observer position path fault
  | .reported report =>
    match (p.fill position report).tell observer ⟨path, report.written, report.failure⟩ with
    | (p, none) => p
    | (p, some fault) => p.fail observer position path fault

/-- Completes the job at a position, unless the batch is stopped. -/
def complete (observer : Observer σ) (jobs : List (Path × JobOutcome)) (p : Progress σ)
    (position : Nat) : Progress σ :=
  match p.stopped, jobs[position]? with
  | none, some (path, outcome) => p.completeJob observer position path outcome
  | _, _ => p

theorem length_slots_tell (observer : Observer σ) (notice : Notice) (p : Progress σ) :
    (p.tell observer notice).1.slots.length = p.slots.length := rfl

theorem length_slots_fail (observer : Observer σ) (position : Nat) (path : Path) (fault : Fault)
    (p : Progress σ) : (p.fail observer position path fault).slots.length = p.slots.length := by
  simp [fail, tell, fill, happen]

theorem length_slots_completeJob (observer : Observer σ) (position : Nat) (path : Path)
    (outcome : JobOutcome) (p : Progress σ) :
    (p.completeJob observer position path outcome).slots.length = p.slots.length := by
  cases outcome with
  | crashed fault => exact length_slots_fail ..
  | reported report =>
    simp only [completeJob]
    split
    · next told =>
      have := congrArg (fun r => r.1.slots.length) told
      simpa [length_slots_tell, fill] using this.symm
    · next told =>
      have := congrArg (fun r => r.1.slots.length) told
      rw [length_slots_fail]
      simpa [length_slots_tell, fill] using this.symm

/-- No job that completes adds or removes a slot. -/
theorem length_slots_complete (observer : Observer σ) (jobs : List (Path × JobOutcome))
    (p : Progress σ) (position : Nat) :
    (p.complete observer jobs position).slots.length = p.slots.length := by
  simp only [complete]
  split
  · exact length_slots_completeJob ..
  · rfl

def endRecord : Record where
  level := .info
  origin := .batch
  message := "Batch processing complete. Writing ordered logs...".toList

def emptyRecord : Record where
  level := .error
  origin := .batch
  message := "Missing result in ordered list.".toList

/-- What is kept of the workers' records, slot by slot. -/
def slotEvents : Option Report → List Event
  | none => [.record emptyRecord]
  | some report => if report.log.isEmpty then [] else [.workerLog report.path.name report.log]

/-- Ends a batch: the workers' records are kept in the order of the files, unless the batch was
stopped. -/
def finish (p : Progress σ) : Progress σ :=
  match p.stopped with
  | some _ => p
  | none => { p with events := p.events ++ .record endRecord :: p.slots.flatMap slotEvents }

/-- The path each file's stylesheet was written to, in the order of the files. -/
def results (p : Progress σ) : List (Option Path) :=
  p.slots.map (fun slot => slot.bind Report.written)

/-- The whole course of a batch whose jobs complete in the given order. -/
def run (observer : Observer σ) (jobs : List (Path × JobOutcome)) (order : List Nat)
    (state : σ) : Progress σ :=
  (order.foldl (complete observer jobs) (start jobs.length state)).finish

end Progress

end Batch

end NestedStyles
