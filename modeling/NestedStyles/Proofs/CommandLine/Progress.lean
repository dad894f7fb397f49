import NestedStyles.CommandLine.Run
import NestedStyles.Proofs.Batch.Completion
import NestedStyles.Proofs.Batch.Outputs

/-!
What a run over files shows of its progress, and its exit code, whatever becomes of the jobs and in
whatever order they complete.

Each job is shown by one line with a running number, and the exit code tells whether one of them
failed.
-/

set_option autoImplicit false

namespace NestedStyles

namespace Batch

/-- A line that is shown of the progress of a batch. Such lines begin with a bracket. -/
def Event.progressLine? : Event → Option Text
  | .printed text => if text.head? = some '[' then some text else none
  | _ => none

@[simp] theorem Event.progressLine?_record (record : Record) :
    (Event.record record).progressLine? = none := rfl

/-- Whether a job failed, in its worker or outside. -/
def JobOutcome.failed : JobOutcome → Bool
  | .reported report => report.failure.isSome
  | .crashed _ => true

end Batch

open Batch (Event JobOutcome Notice Progress below)

namespace CommandLine

/-- What is said of a file that is done: its conversion failed, it left nothing to write, or its
stylesheet was written. -/
def verdict (notice : Notice) : Text :=
  match notice.failure, notice.written with
  | some _, _ => "Error: ".toList ++ notice.path.name
  | none, none => "Skipped (no styles): ".toList ++ notice.path.name
  | none, some written => "Done: ".toList ++ notice.path.name ++ " -> ".toList ++ written.toText

/-- The line about the `n`th of `count` files to be done. -/
def progressLine (count n : Nat) (notice : Notice) : Text :=
  place count n ++ verdict notice ++ ['\n']

/-- The details of a failure are no line of progress. -/
theorem progressLines_noticeEvents (count n : Nat) (notice : Notice) :
    (noticeEvents count n notice).filterMap Event.progressLine? =
      [progressLine count n notice] := by
  obtain ⟨path, written, failure⟩ := notice
  cases failure with
  | some fault =>
      simp [noticeEvents, line, place, progressLine, verdict, Event.progressLine?]
  | none =>
      cases written <;> simp [noticeEvents, line, place, progressLine, verdict, Event.progressLine?]

section Watching

variable {files : List Path} {outcome : Nat → JobOutcome}

/-- What is shown when the jobs at some positions are done one after the other. -/
def progressLines (files : List Path) (outcome : Nat → JobOutcome) (done : List Nat) : List Text :=
  done.mapIdx fun k i =>
    progressLine files.length (k + 1) ((outcome i).notice (files[i]?.getD {}))

theorem progressLines_concat (done : List Nat) (i : Nat) :
    progressLines files outcome (done ++ [i]) = progressLines files outcome done ++
      [progressLine files.length (done.length + 1) ((outcome i).notice (files[i]?.getD {}))] := by
  rw [progressLines, List.mapIdx_concat, progressLines]

/-- Where a watched batch stands once the jobs at some positions are done. -/
structure Watched (files : List Path) (outcome : Nat → JobOutcome) (done : List Nat)
    (p : Progress Tally) : Prop where
  running : p.stopped = none
  completed : p.state.completed = done.length
  failed : p.state.failed = done.countP fun i => (outcome i).failed
  shown : p.events.filterMap Event.progressLine? = progressLines files outcome done

theorem watched_start (files : List Path) (outcome : Nat → JobOutcome) (count : Nat) :
    Watched files outcome [] (Progress.start count {}) :=
  ⟨rfl, rfl, rfl, rfl⟩

/-- A job that completes is told of once, whether its worker reported or crashed. -/
theorem completeJob_watch (count i : Nat) (path : Path) (outcome : JobOutcome) {p : Progress Tally}
    (running : p.stopped = none) :
    let q := p.completeJob (watch count) i path outcome
    q.stopped = none ∧
      q.state = ⟨p.state.completed + 1, p.state.failed + if outcome.failed then 1 else 0⟩ ∧
      q.events.filterMap Event.progressLine? = p.events.filterMap Event.progressLine? ++
        [progressLine count (p.state.completed + 1) (outcome.notice path)] := by
  cases outcome with
  | reported report =>
      refine ⟨running, rfl, ?_⟩
      rw [← progressLines_noticeEvents, ← List.filterMap_append]
      rfl
  | crashed fault =>
      -- The record of the crash stands in front of what the observer shows.
      refine ⟨rfl, rfl, ?_⟩
      have recorded : (p.events ++ [Event.record (Progress.failureRecord path fault)]).filterMap
          Event.progressLine? = p.events.filterMap Event.progressLine? := by
        simp
      rw [← progressLines_noticeEvents, ← recorded, ← List.filterMap_append]
      rfl

theorem Watched.complete {done : List Nat} {p : Progress Tally} {i : Nat}
    (watched : Watched files outcome done p) (inside : i < files.length) :
    Watched files outcome (done ++ [i])
      (p.complete (watch files.length) (Batch.jobsFrom outcome 0 files) i) := by
  have file : files[i]? = some files[i] := List.getElem?_eq_getElem inside
  have job : (Batch.jobsFrom outcome 0 files)[i]? = some (files[i], outcome i) := by
    rw [Batch.getElem?_jobsFrom, file]
    rfl
  obtain ⟨running, state, events⟩ :=
    completeJob_watch files.length i files[i] (outcome i) watched.running
  simp only [Progress.complete, watched.running, job]
  refine ⟨running, ?_, ?_, ?_⟩
  · rw [state, watched.completed, List.length_append, List.length_singleton]
  · rw [state, watched.failed, List.countP_append, List.countP_singleton]
  · rw [events, watched.shown, watched.completed, progressLines_concat, file, Option.getD_some]

/-- The jobs complete in any order. -/
theorem Watched.foldl {order : List Nat} (inside : ∀ i ∈ order, i < files.length) :
    ∀ {done : List Nat} {p : Progress Tally}, Watched files outcome done p →
      Watched files outcome (done ++ order)
        (order.foldl (Progress.complete (watch files.length) (Batch.jobsFrom outcome 0 files))
          p) := by
  induction order with
  | nil =>
      intro done p watched
      rwa [List.append_nil]
  | cons i rest ih =>
      intro done p watched
      rw [List.forall_mem_cons] at inside
      have next := ih inside.2 (watched.complete inside.1)
      rwa [List.append_assoc] at next

theorem progressLines_slotEvents (slot : Option Batch.Report) :
    (Progress.slotEvents slot).filterMap Event.progressLine? = [] := by
  cases slot with
  | none => rfl
  | some report =>
      rw [Progress.slotEvents]
      split <;> rfl

/-- The records that end a batch are no lines of progress. -/
theorem progressLines_finish (p : Progress Tally) :
    p.finish.events.filterMap Event.progressLine? = p.events.filterMap Event.progressLine? := by
  cases stopped : p.stopped with
  | some fault => rw [Progress.finish_of_stopped stopped]
  | none =>
      have quiet : (p.slots.flatMap Progress.slotEvents).filterMap Event.progressLine? = [] := by
        simp only [List.filterMap_flatMap, progressLines_slotEvents, List.flatMap_eq_nil_iff,
          implies_true]
      rw [Progress.finish_of_running stopped, List.filterMap_append,
        List.filterMap_cons_none (Event.progressLine?_record _), quiet, List.append_nil]

/-- A batch that is watched until all its jobs are done. -/
theorem watched_run (outcome : Nat → JobOutcome) {order : List Nat}
    (complete : order.Perm (List.range files.length)) :
    let p := Progress.run (watch files.length) (Batch.jobsFrom outcome 0 files) order {}
    p.stopped = none ∧
      p.state.failed = (List.range files.length).countP (fun i => (outcome i).failed) ∧
      p.events.filterMap Event.progressLine? = progressLines files outcome order := by
  have inside : ∀ i ∈ order, i < files.length :=
    fun i member => (Batch.mem_order_iff complete).mp member
  have watched := Watched.foldl inside
    (watched_start files outcome (Batch.jobsFrom outcome 0 files).length)
  rw [List.nil_append] at watched
  refine ⟨?_, ?_, ?_⟩
  · rw [Progress.run, Progress.finish_of_running watched.running]
    exact watched.running
  · rw [Progress.run, Progress.state_finish, watched.failed, complete.countP_eq]
  · rw [Progress.run, progressLines_finish, watched.shown]

end Watching

section Runs

variable {labour : Labour} {a : Arguments} {disk after : Disk} {files : List Path}
  {outcome : Nat → JobOutcome}

/-- A batch of files all of which are handed to the crew. -/
theorem convertFiles_of_submit {processors : Nat}
    (starts : labour.pool (a.batch.workers processors) = none)
    (submitted : Batch.submit (labour.crew a.settings) a.output disk files =
      (after, .ok (Batch.jobsFrom outcome 0 files)))
    (complete : (labour.order files.length).Perm (List.range files.length)) :
    let part := convertFiles labour processors a files disk
    part.events.filterMap Event.progressLine? =
        progressLines files outcome (labour.order files.length) ∧
      part.exit =
        .ok (if (List.range files.length).any fun i => (outcome i).failed then 1 else 0) := by
  obtain ⟨running, failed, shown⟩ := watched_run outcome complete
  have last : (line "\nBatch conversion finished.".toList).progressLine? = none := by
    simp [line, Event.progressLine?]
  simp only [convertFiles]
  rw [Batch.runWith_of_submit _ _ starts submitted]
  simp only [running, Option.elim_none]
  refine ⟨?_, ?_⟩
  · rw [List.cons_append, List.filterMap_cons_none (Event.progressLine?_record _),
      List.filterMap_append, List.filterMap_cons_none (Event.progressLine?_record _), shown,
      List.filterMap_cons_none last, List.filterMap_nil, List.append_nil]
  · rw [failed]
    cases any : (List.range files.length).any fun i => (outcome i).failed with
    | false =>
        have none : (List.range files.length).countP (fun i => (outcome i).failed) = 0 := by
          simpa using any
        rw [none]
        rfl
    | true =>
        have some : (List.range files.length).countP (fun i => (outcome i).failed) ≠ 0 := by
          simpa using any
        rw [if_neg some]
        rfl

theorem progressLines_records (records : List Record) (events : List Event) :
    (records.map Event.record ++ events).filterMap Event.progressLine? =
      events.filterMap Event.progressLine? := by
  have none : (records.map Event.record).filterMap Event.progressLine? = [] := by
    simp [List.filterMap_eq_nil_iff]
  rw [List.filterMap_append, none, List.nil_append]

/-- The files that were collected are converted. -/
theorem convertRequested_of_collect [Romanization] (labour : Labour) (processors : Nat)
    {a : Arguments}
    (input : Text) {disk : Disk} {files : List Path} (onFiles : a.readsInput = false)
    (collected : (collect disk a.inputs).result = .ok files) (some : files ≠ []) :
    convertRequested labour processors a input disk =
      { convertFiles labour processors a files disk with
        events := (collect disk a.inputs).log.map Event.record ++
          (convertFiles labour processors a files disk).events } := by
  obtain ⟨path, rest, rfl⟩ := List.exists_cons_of_ne_nil some
  simp only [convertRequested, onFiles, convertInputs, collected, Bool.false_eq_true, if_false]

/-- What a run leaves whose part does not fail. -/
theorem perform_of_exit [Romanization] (labour : Labour) (s : Surroundings) (a : Arguments)
    (input : Text) (disk : Disk) {part : Part} {exit : Nat}
    (converted : convertRequested labour s.processors a input (Logbook.start s.stamp disk).1 = part)
    (exited : part.exit = .ok exit) :
    (perform labour s a input disk).exit = exit ∧
      ∃ first, (perform labour s a input disk).output =
        (.record first :: part.events).flatMap (Event.consoleText a.console) := by
  have settled : settle part = (exit, part.events) := by rw [settle, exited]
  simp only [perform, converted, settled]
  cases (Logbook.start s.stamp disk).2 with
  | error fault => exact ⟨rfl, _, rfl⟩
  | ok => exact ⟨rfl, _, rfl⟩

/-- A run over files shows a line for each of them, in the order in which their jobs complete, and
fails if one of the jobs did. It does so whatever becomes of the jobs, as long as the pool of workers
starts and the disk answers whether the output of a single file is a folder. -/
theorem progressLines_runWith [Romanization] (labour : Labour) (s : Surroundings) (input : Text)
    {disk : Disk} {arguments : List Text} {a : Arguments} {files : List Path}
    (parsed : Arguments.parse arguments = .ok a) (onFiles : a.readsInput = false)
    (collected : (collect (Logbook.start s.stamp disk).1 a.inputs).result = .ok files)
    (some : files ≠ [])
    (starts : labour.pool (a.batch.workers s.processors) = none)
    (known : files.length = 1 → Batch.Known (Logbook.start s.stamp disk).1 a.output)
    (complete : (labour.order files.length).Perm (List.range files.length)) :
    let started := (Logbook.start s.stamp disk).1
    let events := (convertRequested labour s.processors a input started).events
    let finished := runWith labour s arguments input disk
    ∃ after outcome,
      Batch.submit (labour.crew a.settings) a.output started files =
          (after, .ok (Batch.jobsFrom outcome 0 files)) ∧
        events.filterMap Event.progressLine? =
          progressLines files outcome (labour.order files.length) ∧
        (∃ first, finished.output =
          (.record first :: events).flatMap (Event.consoleText a.console)) ∧
        finished.exit =
          if (List.range files.length).any fun i => (outcome i).failed then 1 else 0 := by
  have named : ∀ path ∈ files, path.name ≠ [] := fun path member =>
    (Batch.namesMarkup_of_collect collected path member).named
  obtain ⟨after, outcome, submitted, -⟩ :=
    Batch.exists_jobs_submit (labour.crew a.settings) named known
  obtain ⟨shown, exited⟩ := convertFiles_of_submit starts submitted complete
  have converted := convertRequested_of_collect labour s.processors input onFiles collected some
  have lines := progressLines_records (collect (Logbook.start s.stamp disk).1 a.inputs).log
    (convertFiles labour s.processors a files (Logbook.start s.stamp disk).1).events
  obtain ⟨exit, output⟩ := perform_of_exit labour s a input disk converted exited
  refine ⟨after, outcome, submitted, ?_, ?_, ?_⟩
  · rw [converted, lines, shown]
  · rw [converted, runWith, parsed]
    exact output
  · rw [runWith, parsed]
    exact exit

end Runs

def twoPages : Disk where
  items := [(["a.html".toList], Batch.styled), (["b.html".toList], Batch.styled)]

/-- The disk once the log file of a run was started. -/
def loggedPages : Disk where
  items := twoPages.items ++ [(["logs".toList], .folder),
    (["logs".toList, "sass_1.log".toList], .file [] 0)]

theorem start_twoPages : (Logbook.start "1".toList twoPages).1 = loggedPages := by
  decide +kernel

def pageArguments : List Text := ["a.html".toList, "b.html".toList]

/-- Jobs that turn out as given and complete from the last to the first. -/
def backwards (outcome : Nat → JobOutcome) : Labour where
  pool := .queued
  crew := fun _ => .idle outcome
  order := fun count => (List.range count).reverse

/-- The first of two files is done last, and the failure of the other one sets the exit code. -/
theorem progressLines_runWith_twoPages :
    let s : Surroundings := { stamp := "1".toList }
    let a : Arguments := { inputs := pageArguments }
    let started := (Logbook.start s.stamp twoPages).1
    let events := (convertRequested (backwards Batch.firstWrites) s.processors a [] started).events
    events.filterMap Event.progressLine? =
        ["[1/2] Error: b.html\n".toList, "[2/2] Done: a.html -> page.scss\n".toList] ∧
      (runWith (backwards Batch.firstWrites) s pageArguments [] twoPages).exit = 1 := by
  have parsed : Arguments.parse pageArguments = .ok { inputs := pageArguments } := rfl
  have collected : (collect (Logbook.start "1".toList twoPages).1 pageArguments).result =
      .ok [below ["a.html"], below ["b.html"]] := by
    rw [start_twoPages]
    rfl
  have several : [below ["a.html"], below ["b.html"]].length = 1 →
      Batch.Known (Logbook.start "1".toList twoPages).1 none := fun one => absurd one (by decide)
  have named : ∀ path ∈ [below ["a.html"], below ["b.html"]], path.name ≠ [] := by decide
  have settled : ∀ position disk path target,
      (Batch.Crew.idle Batch.firstWrites position disk path target).2 =
        Batch.firstWrites position := fun _ _ _ _ => rfl
  obtain ⟨after, outcome, submitted, shown, -, exit⟩ :=
    progressLines_runWith (backwards Batch.firstWrites) { stamp := "1".toList } [] parsed rfl
      collected (List.cons_ne_nil _ _) rfl several (List.reverse_perm _)
  obtain ⟨other, known⟩ := Batch.exists_submit settled named several
  have jobs := Except.ok.inj (congrArg Prod.snd (submitted.symm.trans known))
  obtain ⟨first, second⟩ : outcome 0 = Batch.firstWrites 0 ∧ outcome 1 = Batch.firstWrites 1 := by
    simpa [Batch.jobsFrom] using jobs
  refine ⟨shown.trans ?_, exit.trans ?_⟩
  · have order : (backwards Batch.firstWrites).order [below ["a.html"], below ["b.html"]].length =
        [1, 0] := rfl
    rw [order]
    simp only [progressLines, List.mapIdx_cons, List.mapIdx_nil, first, second]
    decide +kernel
  · exact if_pos (List.any_eq_true.mpr ⟨1, List.mem_range.mpr (by decide), by rw [second]; rfl⟩)

/-- A run over files whose batch ends before any of its jobs shows nothing of its progress. -/
theorem convertRequested_of_hindered [Romanization] {labour : Labour} {processors : Nat}
    {a : Arguments} (input : Text) {disk : Disk} {files : List Path} {fault : Fault}
    (onFiles : a.readsInput = false) (collected : (collect disk a.inputs).result = .ok files)
    (some : files ≠ [])
    (ended : a.batch.runWith labour.pool processors (labour.crew a.settings)
      (labour.order files.length) disk files (watch files.length) {} =
        a.batch.hindered processors disk {} fault) :
    (convertRequested labour processors a input disk).exit = .error fault ∧
      (convertRequested labour processors a input disk).events.filterMap Event.progressLine? =
        [] := by
  rw [convertRequested_of_collect labour processors input onFiles collected some]
  refine ⟨?_, ?_⟩
  · simp only [convertFiles, ended, Batch.hindered]
  · simp only [progressLines_records, convertFiles, ended, Batch.hindered]
    rfl

/-- A command line with an output whose name is longer than the disk allows. -/
def longArguments : List Text :=
  ["a.html".toList, "-o".toList, List.replicate 256 'x' ++ ".scss".toList]

def longRequest : Arguments where
  inputs := ["a.html".toList]
  output := some Batch.longOutput

/-- A command line that asks for more workers than the queue of the pool has places. -/
def crowdedArguments : List Text :=
  ["a.html".toList, "--threads".toList, "2147483647".toList]

def crowdedRequest : Arguments where
  inputs := ["a.html".toList]
  threads := 2147483647

set_option maxRecDepth 4096 in
/-- Both command lines are read and a file is collected, but no progress of it is shown. -/
theorem progressLines_hindered :
    let started := (Logbook.start "1".toList twoPages).1
    Arguments.parse longArguments = .ok longRequest ∧ longRequest.readsInput = false ∧
      Arguments.parse crowdedArguments = .ok crowdedRequest ∧ crowdedRequest.readsInput = false ∧
      (collect started ["a.html".toList]).result = .ok [below ["a.html"]] ∧
      ∀ a ∈ [longRequest, crowdedRequest],
        (convertRequested .converting 0 a [] started).events.filterMap Event.progressLine? = [] := by
  have collected : (collect (Logbook.start "1".toList twoPages).1 ["a.html".toList]).result =
      .ok [below ["a.html"]] := by
    rw [start_twoPages]
    rfl
  have ended : Batch.longOutput.ending ≠ [] := by decide +kernel
  have refused : (Logbook.start "1".toList twoPages).1.isFolder Batch.longOutput =
      .error ⟨.nameTooLong, Batch.longOutput⟩ := by
    rw [start_twoPages]
    decide +kernel
  have crowded : Labour.converting.pool (crowdedRequest.batch.workers 0) =
      some (.crowded 2147483647) := rfl
  refine ⟨rfl, rfl, rfl, rfl, collected, ?_⟩
  rw [List.forall_mem_cons, List.forall_mem_singleton]
  exact ⟨(convertRequested_of_hindered [] rfl collected (List.cons_ne_nil _ _)
      (Batch.runWith_of_refused _ _ _ rfl rfl ended refused)).2,
    (convertRequested_of_hindered [] rfl collected (List.cons_ne_nil _ _)
      (Batch.runWith_of_crowded _ _ crowded)).2⟩

end CommandLine

end NestedStyles
