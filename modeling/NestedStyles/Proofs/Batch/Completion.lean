import NestedStyles.Proofs.Batch.Ending

/-!
What a batch comes to, for any outcomes of its jobs, any order in which they complete and any observer.

Each job ends in the place of its own file. An observer that fails when it is told of a job costs the
results of that job, and of no other; one that fails again ends the batch.
-/

set_option autoImplicit false

namespace NestedStyles

namespace Batch

variable {σ : Type}

/-- Whether the disk answers if an output that could name a file is a folder. -/
def Known (disk : Disk) (output : Option Path) : Prop :=
  ∀ given, output = some given → given.ending ≠ [] → ∀ fault, disk.isFolder given ≠ .error fault

/-- A file with a name has a path for its stylesheet, unless the disk refuses to look for the output. -/
theorem exists_outputPath {disk : Disk} {output : Option Path} {single : Bool} {path : Path}
    (named : path.name ≠ []) (known : single = true → Known disk output) :
    ∃ target, outputPath disk output single path = .ok target := by
  have beside : ∃ target, stylesheetPath path = .ok target := by
    have some : path.name.isEmpty = false := by rwa [List.isEmpty_eq_false_iff]
    exact ⟨_, by rw [stylesheetPath, Path.withEnding?, some]; rfl⟩
  obtain ⟨target, beside⟩ := beside
  cases output with
  | none => exact ⟨target, beside⟩
  | some given =>
      cases asked : single && !given.ending.isEmpty with
      | false =>
          refine ⟨given.child target.name, ?_⟩
          simp only [outputPath, asked, beside]
          rfl
      | true =>
          obtain ⟨alone, ending⟩ := Bool.and_eq_true_iff.mp asked
          have ended : given.ending ≠ [] := by
            rintro empty
            rw [empty] at ending
            cases ending
          cases looked : disk.isFolder given with
          | error fault => exact absurd looked (known alone given rfl ended fault)
          | ok folder =>
              cases folder with
              | false =>
                  refine ⟨given, ?_⟩
                  simp only [outputPath, asked, looked]
                  rfl
              | true =>
                  refine ⟨given.child target.name, ?_⟩
                  simp only [outputPath, asked, looked, beside]
                  rfl

/-- The jobs of files, given what becomes of them. -/
def jobsFrom (outcome : Nat → JobOutcome) (position : Nat) (files : List Path) :
    List (Path × JobOutcome) :=
  files.mapIdx fun index path => (path, outcome (position + index))

theorem jobsFrom_cons (outcome : Nat → JobOutcome) (position : Nat) (path : Path)
    (rest : List Path) :
    jobsFrom outcome position (path :: rest) =
      (path, outcome position) :: jobsFrom outcome (position + 1) rest := by
  simp only [jobsFrom, List.mapIdx_cons, Nat.add_zero, Nat.add_assoc, Nat.add_comm 1]

@[simp] theorem length_jobsFrom (outcome : Nat → JobOutcome) (position : Nat)
    (files : List Path) : (jobsFrom outcome position files).length = files.length :=
  List.length_mapIdx

theorem jobsFrom_congr {outcome other : Nat → JobOutcome} {position : Nat} {files : List Path}
    (same : ∀ i < files.length, outcome (position + i) = other (position + i)) :
    jobsFrom outcome position files = jobsFrom other position files := by
  rw [jobsFrom, jobsFrom, List.mapIdx_eq_mapIdx_iff]
  exact fun i inside => congrArg _ (same i inside)

section Submission

variable {output : Option Path}

/-- Files with names are all handed to the crew, and each job turns out as the crew leaves it. The disk
is only asked about the output of a single file, and so only before the first job. -/
theorem exists_submitFrom (crew : Crew) (single : Bool) {files : List Path}
    (named : ∀ path ∈ files, path.name ≠ []) :
    ∀ position disk,
      (single = true → files.length ≤ 1 ∧ (files ≠ [] → Known disk output)) →
      ∃ after outcome, submitFrom crew output single position disk files =
          (after, .ok (jobsFrom outcome position files)) ∧
        ∀ i path, files[i]? = some path →
          ∃ before target, outcome (position + i) = (crew (position + i) before path target).2 := by
  induction files with
  | nil => exact fun position disk _ => ⟨disk, fun _ => .reported { path := {} }, rfl, by simp⟩
  | cons path rest ih =>
      intro position disk known
      rw [List.forall_mem_cons] at named
      obtain ⟨target, found⟩ :=
        exists_outputPath named.1 fun alone => (known alone).2 (List.cons_ne_nil path rest)
      obtain ⟨after, others, submitted, made⟩ :=
        ih named.2 (position + 1) (crew position disk path target).1 fun alone => by
          have last : rest = [] := by simpa using (known alone).1
          exact ⟨by simp [last], fun more => absurd last more⟩
      refine ⟨after, Function.update others position (crew position disk path target).2, ?_, ?_⟩
      · have later : jobsFrom (Function.update others position (crew position disk path target).2)
            (position + 1) rest = jobsFrom others (position + 1) rest :=
          jobsFrom_congr fun i _ => Function.update_of_ne (by omega) _ _
        simp only [submitFrom, found, submitted, jobsFrom_cons, Function.update_self, later]
        rfl
      · intro i file here
        cases i with
        | zero =>
            cases here
            exact ⟨disk, target, Function.update_self _ _ _⟩
        | succ i =>
            obtain ⟨before, place, came⟩ := made i file here
            rw [Function.update_of_ne (by omega), ← Nat.add_assoc, Nat.add_right_comm]
            exact ⟨before, place, came⟩

/-- All files with names are handed to the crew. -/
theorem exists_jobs_submit (crew : Crew) {disk : Disk} {files : List Path}
    (named : ∀ path ∈ files, path.name ≠ [])
    (known : files.length = 1 → Known disk output) :
    ∃ after outcome, submit crew output disk files = (after, .ok (jobsFrom outcome 0 files)) ∧
      ∀ i path, files[i]? = some path →
        ∃ before target, outcome i = (crew i before path target).2 := by
  have unlooked : (files.length == 1) = true →
      files.length ≤ 1 ∧ (files ≠ [] → Known disk output) := by
    intro alone
    have one : files.length = 1 := beq_iff_eq.mp alone
    exact ⟨Nat.le_of_eq one, fun _ => known one⟩
  simpa only [submit, Nat.zero_add] using exists_submitFrom crew _ named 0 disk unlooked

/-- The jobs of a crew that knows what becomes of them. -/
theorem exists_submit {crew : Crew} {outcome : Nat → JobOutcome}
    (settled : ∀ position disk path target, (crew position disk path target).2 = outcome position)
    {disk : Disk} {files : List Path} (named : ∀ path ∈ files, path.name ≠ [])
    (known : files.length = 1 → Known disk output) :
    ∃ after, submit crew output disk files = (after, .ok (jobsFrom outcome 0 files)) := by
  obtain ⟨after, other, submitted, made⟩ := exists_jobs_submit crew named known
  refine ⟨after, submitted.trans ?_⟩
  rw [jobsFrom_congr]
  intro i inside
  obtain ⟨before, target, came⟩ := made i _ (List.getElem?_eq_getElem inside)
  rw [Nat.zero_add, came, settled]

/-- A single file is not handed to the crew if the disk refuses to look for its output. -/
theorem submit_of_refused {crew : Crew} {disk : Disk} {given path : Path} {fault : DiskFault}
    (ending : given.ending ≠ []) (refused : disk.isFolder given = .error fault) :
    submit crew (some given) disk [path] = (disk, .error (.disk fault)) := by
  have asked : (true && !given.ending.isEmpty) = true := by
    rw [Bool.true_and, Bool.not_eq_true', List.isEmpty_eq_false_iff]
    exact ending
  have lost : outputPath disk (some given) true path = .error (.disk fault) := by
    simp only [outputPath, asked, refused]
    rfl
  simp only [submit, submitFrom, List.length_singleton, beq_self_eq_true, lost]

end Submission

/-- Each job that completes is that of a file. -/
theorem exists_file_of_mem {order : List Nat} {files : List Path} {i : Nat}
    (complete : order.Perm (List.range files.length)) (member : i ∈ order) :
    ∃ path, files[i]? = some path :=
  ⟨_, List.getElem?_eq_getElem ((mem_order_iff complete).mp member)⟩

theorem getElem?_jobsFrom (outcome : Nat → JobOutcome) (files : List Path) (position : Nat) :
    (jobsFrom outcome 0 files)[position]? = files[position]?.map (·, outcome position) := by
  simp only [jobsFrom, List.getElem?_mapIdx, Nat.zero_add]

theorem callsAt_jobsFrom {outcome : Nat → JobOutcome} {files : List Path} {position : Nat}
    {path : Path} (file : files[position]? = some path) (raised : Nat → Option Fault)
    (last : Option Fault) :
    Progress.callsAt (jobsFrom outcome 0 files) raised last position =
      (outcome position).calls path (raised position) last := by
  rw [Progress.callsAt, getElem?_jobsFrom, file]
  rfl

theorem kept_reports_jobsFrom {outcome : Nat → JobOutcome} {files : List Path} {position : Nat}
    {path : Path} (file : files[position]? = some path) (raised : Nat → Option Fault) :
    (reports (jobsFrom outcome 0 files) raised)[position]? =
      some ((outcome position).kept path (raised position)) := by
  rw [reports, List.getElem?_mapIdx, getElem?_jobsFrom, file]
  rfl

theorem map_written_reports (outcome : Nat → JobOutcome) (files : List Path) :
    (reports (jobsFrom outcome 0 files) fun _ => none).map Report.written =
      (List.range files.length).map fun i => (outcome i).written := by
  apply List.ext_getElem?
  intro i
  rw [List.getElem?_map, List.getElem?_map]
  by_cases inside : i < files.length
  · rw [kept_reports_jobsFrom (List.getElem?_eq_getElem inside), List.getElem?_range inside]
    exact congrArg some (JobOutcome.written_kept _ _)
  · rw [List.getElem?_eq_none (by simpa [reports, jobsFrom] using inside),
      List.getElem?_eq_none (by simpa using inside)]
    rfl

section Completion

variable (batch : Batch) {pool : Pool} {processors : Nat} {crew : Crew} {outcome : Nat → JobOutcome}
  {order : List Nat} {disk : Disk} {files : List Path} (observer : Observer σ) (state : σ)
  (starts : pool (batch.workers processors) = none)

include starts

/-- A batch of one file ends at once if the disk refuses to look for its output. -/
theorem runWith_of_refused {given path : Path} {fault : DiskFault}
    (output : batch.output = some given) (ending : given.ending ≠ [])
    (refused : disk.isFolder given = .error fault) :
    batch.runWith pool processors crew order disk [path] observer state =
      batch.hindered processors disk state (.disk fault) := by
  refine runWith_of_unsubmitted observer state starts ?_
  rw [output, submit_of_refused ending refused]

/-- How a batch ends whose files have names and whose jobs turn out as given. -/
theorem exists_ends_of_settled (named : ∀ path ∈ files, path.name ≠ [])
    (known : files.length = 1 → Known disk batch.output)
    (settled : ∀ position disk path target, (crew position disk path target).2 = outcome position)
    (complete : order.Perm (List.range files.length)) :
    ∃ raised, Ends (jobsFrom outcome 0 files) order raised
      (batch.runWith pool processors crew order disk files observer state)
      (batch.calls pool processors crew order disk files observer state) := by
  obtain ⟨after, submitted⟩ := exists_submit settled named known
  rw [← length_jobsFrom outcome 0 files] at complete
  exact exists_ends_runWith observer state starts submitted complete

/-- An observer that never fails is told of each job once, in the order in which the jobs complete, and
the results and the workers' records come out in the order of the files. -/
theorem runWith_of_willing (named : ∀ path ∈ files, path.name ≠ [])
    (known : files.length = 1 → Known disk batch.output)
    (settled : ∀ position disk path target, (crew position disk path target).2 = outcome position)
    (complete : order.Perm (List.range files.length))
    (willing : ∀ state notice, (observer state notice).failure = none) :
    (batch.runWith pool processors crew order disk files observer state).results =
        .ok ((List.range files.length).map fun i => (outcome i).written) ∧
      batch.calls pool processors crew order disk files observer state =
        order.map (fun i => ⟨(outcome i).notice (files[i]?.getD {}), none⟩) ∧
      ∃ happened, (batch.runWith pool processors crew order disk files observer state).events =
        happened ++ .record Progress.endRecord ::
          sections (reports (jobsFrom outcome 0 files) fun _ => none) := by
  obtain ⟨raised, ends⟩ :=
    exists_ends_of_settled batch observer state starts named known settled complete
  have quiet : ∀ call ∈ batch.calls pool processors crew order disk files observer state,
      call.raised = none :=
    forall_raised_calls observer state willing
  cases ends with
  | halted done later position fault split failed results told =>
      -- The last call would have raised the fault.
      have member : position ∈ order := by rw [split]; exact List.mem_append_right _ List.mem_cons_self
      obtain ⟨path, here⟩ := exists_file_of_mem complete member
      rw [told, callsAt_jobsFrom here] at quiet
      rw [getElem?_jobsFrom, here] at failed
      have last := (JobOutcome.calls_of_quiet fun call member =>
        quiet call (List.mem_append_right _ member)).2.2 failed
      cases last
  | normally happened results told events =>
      rw [told] at quiet
      have alone : ∀ i ∈ order, ∀ path, files[i]? = some path →
          ∀ call ∈ (outcome i).calls path (raised i) none, call.raised = none := by
        intro i member path here call called
        refine quiet call (List.mem_flatMap.mpr ⟨i, member, ?_⟩)
        rwa [callsAt_jobsFrom here]
      have kept : reports (jobsFrom outcome 0 files) raised =
          reports (jobsFrom outcome 0 files) fun _ => none := by
        rw [reports, reports, List.mapIdx_eq_mapIdx_iff]
        intro i inside
        rw [length_jobsFrom] at inside
        have member : i ∈ order := (mem_order_iff complete).mpr inside
        simpa [jobsFrom] using (JobOutcome.calls_of_quiet
          (alone i member _ (List.getElem?_eq_getElem inside))).2.1
      refine ⟨?_, ?_, ?_⟩
      · rw [results, kept, map_written_reports]
      · rw [told, List.map_eq_flatMap]
        refine List.flatMap_congr fun i member => ?_
        obtain ⟨path, here⟩ := exists_file_of_mem complete member
        rw [callsAt_jobsFrom here, (JobOutcome.calls_of_quiet (alone i member path here)).1, here]
        rfl
      · rw [← kept]
        exact ⟨happened, events⟩

end Completion

/-- A crew that leaves the disk as it is, and whose jobs turn out as given. -/
def Crew.idle (outcome : Nat → JobOutcome) : Crew :=
  fun position disk _ _ => (disk, outcome position)

def page : Path := ⟨[], ["page.html".toList]⟩

/-- The first job writes a stylesheet, the others crash. -/
def firstWrites : Nat → JobOutcome
  | 0 => .reported { path := page, written := some ⟨[], ["page.scss".toList]⟩, log := "a".toList }
  | _ => .crashed (.reported "b".toList)

/-- A file named twice, whose jobs complete from the last to the first. -/
theorem runWith_of_willing_twice :
    (({} : Batch).runWith .queued 1 (.idle firstWrites) [1, 0] {} [page, page] Observer.idle
        ()).results = .ok [some ⟨[], ["page.scss".toList]⟩, none] ∧
      ({} : Batch).calls .queued 1 (.idle firstWrites) [1, 0] {} [page, page] Observer.idle () =
        [⟨(firstWrites 1).notice page, none⟩, ⟨(firstWrites 0).notice page, none⟩] ∧
      ∃ happened, (({} : Batch).runWith .queued 1 (.idle firstWrites) [1, 0] {} [page, page]
        Observer.idle ()).events = happened ++ .record Progress.endRecord ::
          sections (reports (jobsFrom firstWrites 0 [page, page]) fun _ => none) := by
  have starts : Pool.queued (({} : Batch).workers 1) = none := rfl
  have named : ∀ path ∈ [page, page], path.name ≠ [] := by decide
  have several : [page, page].length = 1 → Known {} none := fun one => absurd one (by decide)
  have settled : ∀ position disk path target,
      (Crew.idle firstWrites position disk path target).2 = firstWrites position :=
    fun _ _ _ _ => rfl
  have complete : [1, 0].Perm (List.range [page, page].length) := by decide
  exact runWith_of_willing {} Observer.idle () starts named several settled complete fun _ _ => rfl

def longOutput : Path := ⟨[], [List.replicate 256 'x' ++ ".scss".toList]⟩

/-- The disk refuses to look for an output with too long a name, and the queue of the pool has no places
for the jobs of so many workers. A batch of one file then has no results. -/
theorem results_runWith_of_hindered :
    (∀ path ∈ [page], path.name ≠ []) ∧ [0].Perm (List.range [page].length) ∧
      (({ output := some longOutput } : Batch).runWith .queued 1 (.idle firstWrites) [0] {} [page]
        Observer.idle ()).results = .error (.disk ⟨.nameTooLong, longOutput⟩) ∧
      (({ threads := 2147483647 } : Batch).runWith .queued 1 (.idle firstWrites) [0] {} [page]
        Observer.idle ()).results = .error (.crowded 2147483647) := by
  have refused : ({} : Disk).isFolder longOutput = .error ⟨.nameTooLong, longOutput⟩ := by
    decide +kernel
  have ended : longOutput.ending ≠ [] := by
    decide +kernel
  have crowded : Pool.queued (({ threads := 2147483647 } : Batch).workers 1) =
      some (.crowded 2147483647) := rfl
  refine ⟨by decide, by decide, ?_, ?_⟩
  · rw [runWith_of_refused _ _ _ rfl rfl ended refused, hindered]
  · rw [runWith_of_crowded _ _ crowded, hindered]

section Completion

variable (batch : Batch) {pool : Pool} {processors : Nat} {crew : Crew} {outcome : Nat → JobOutcome}
  {order : List Nat} {disk : Disk} {files : List Path} (observer : Observer σ) (state : σ)
  (starts : pool (batch.workers processors) = none)

include starts

/-- Whatever the observer fails on, a job whose own call does not fail keeps its report in its own
place. A job whose call fails loses its report and is told of again as failed, and a job that crashed is
kept as failed with what crashed it. If the call about a failed job fails, the batch ends with the fault of
the call. -/
theorem runWith_of_failing (named : ∀ path ∈ files, path.name ≠ [])
    (known : files.length = 1 → Known disk batch.output)
    (settled : ∀ position disk path target, (crew position disk path target).2 = outcome position)
    (complete : order.Perm (List.range files.length)) :
    (∃ before path reason fault,
        (batch.runWith pool processors crew order disk files observer state).results = .error fault ∧
        batch.calls pool processors crew order disk files observer state =
          before ++ [⟨⟨path, none, some reason⟩, some fault⟩]) ∨
      ∃ raised : Nat → Option Fault, ∃ kept : List Report, ∃ happened : List Event,
        (batch.runWith pool processors crew order disk files observer state).results =
          .ok (kept.map Report.written) ∧
        (batch.runWith pool processors crew order disk files observer state).events =
          happened ++ .record Progress.endRecord :: sections kept ∧
        batch.calls pool processors crew order disk files observer state =
          order.flatMap (fun i => (outcome i).calls (files[i]?.getD {}) (raised i) none) ∧
        kept.length = files.length ∧
        (∀ i path report, files[i]? = some path → outcome i = .reported report →
          kept[i]? = some ((raised i).elim report (Progress.failureReport path))) ∧
        ∀ i path fault, files[i]? = some path → outcome i = .crashed fault →
          kept[i]? = some (Progress.failureReport path fault) := by
  obtain ⟨raised, ends⟩ :=
    exists_ends_of_settled batch observer state starts named known settled complete
  cases ends with
  | halted done later position fault split failed results told =>
      have member : position ∈ order := by rw [split]; exact List.mem_append_right _ List.mem_cons_self
      obtain ⟨path, here⟩ := exists_file_of_mem complete member
      rw [getElem?_jobsFrom, here] at failed
      obtain ⟨reason, failed⟩ := Option.ne_none_iff_exists'.mp failed
      obtain ⟨first, last⟩ := JobOutcome.exists_calls_append path (some fault) failed
      refine Or.inl ⟨done.flatMap (Progress.callsAt (jobsFrom outcome 0 files) raised none) ++ first,
        path, reason, fault, results, ?_⟩
      rw [told, callsAt_jobsFrom here, last, List.append_assoc]
  | normally happened results told events =>
      refine Or.inr ⟨raised, reports (jobsFrom outcome 0 files) raised, happened, results, events,
        ?_, ?_, ?_, ?_⟩
      · rw [told]
        refine List.flatMap_congr fun i member => ?_
        obtain ⟨path, here⟩ := exists_file_of_mem complete member
        rw [callsAt_jobsFrom here, here]
        rfl
      · rw [reports, List.length_mapIdx, length_jobsFrom]
      · intro i path report here reported
        rw [kept_reports_jobsFrom here, reported]
        rfl
      · intro i path fault here crashed
        rw [kept_reports_jobsFrom here, crashed]
        rfl

end Completion

/-- An observer that fails when it is called for the first time. -/
def failingOnce : Observer Nat :=
  fun count _ =>
    { state := count + 1, failure := if count = 0 then some (.reported "c".toList) else none }

/-- The batch of a file named twice, with an observer that fails when it is told of the first job. The
second job crashes. -/
def mishap : Finished Nat :=
  ({} : Batch).runWith .queued 1 (.idle firstWrites) [0, 1] {} [page, page] failingOnce 0

def mishapCalls : List Call :=
  ({} : Batch).calls .queued 1 (.idle firstWrites) [0, 1] {} [page, page] failingOnce 0

/-- Neither job has a result: the first is kept as failed with the observer's fault, the second with its
own. -/
theorem runWith_of_failing_once :
    mishap.results = .ok [none, none] ∧
      ((∃ before path reason fault, mishap.results = .error fault ∧
          mishapCalls = before ++ [⟨⟨path, none, some reason⟩, some fault⟩]) ∨
      ∃ raised : Nat → Option Fault, ∃ kept : List Report, ∃ happened : List Event,
        mishap.results = .ok (kept.map Report.written) ∧
        mishap.events = happened ++ .record Progress.endRecord :: sections kept ∧
        mishapCalls = [0, 1].flatMap (fun i =>
          (firstWrites i).calls ([page, page][i]?.getD {}) (raised i) none) ∧
        kept.length = [page, page].length ∧
        (∀ i path report, [page, page][i]? = some path → firstWrites i = .reported report →
          kept[i]? = some ((raised i).elim report (Progress.failureReport path))) ∧
        ∀ i path fault, [page, page][i]? = some path → firstWrites i = .crashed fault →
          kept[i]? = some (Progress.failureReport path fault)) := by
  have starts : Pool.queued (({} : Batch).workers 1) = none := rfl
  have named : ∀ path ∈ [page, page], path.name ≠ [] := by decide
  have several : [page, page].length = 1 → Known {} none := fun one => absurd one (by decide)
  have settled : ∀ position disk path target,
      (Crew.idle firstWrites position disk path target).2 = firstWrites position :=
    fun _ _ _ _ => rfl
  have complete : [0, 1].Perm (List.range [page, page].length) := by decide
  exact ⟨rfl, runWith_of_failing {} failingOnce 0 starts named several settled complete⟩

end Batch

end NestedStyles
