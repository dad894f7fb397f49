import NestedStyles.Batch.Run
import NestedStyles.Proofs.Batch.Calls

/-!
How a batch ends: before any of its jobs, or with all its files handed to its crew, in whatever order
the jobs complete and whatever its observer does.
-/

set_option autoImplicit false

namespace NestedStyles

namespace Batch

variable {σ : Type}

/-- The calls that a run makes of its observer. -/
def calls (batch : Batch) (pool : Pool) (processors : Nat) (crew : Crew) (order : List Nat) (disk : Disk)
    (files : List Path) (observer : Observer σ) (state : σ) : List Call :=
  (batch.runWith pool processors crew order disk files observer.recorded (state, [])).state.2

/-- What stands in the slots of jobs in the end. -/
def reports (jobs : List (Path × JobOutcome)) (raised : Nat → Option Fault) : List Report :=
  jobs.mapIdx fun i job => job.2.kept job.1 (raised i)

/-- The records of workers as they are kept at the end of a batch. -/
def sections (reports : List Report) : List Event :=
  reports.flatMap fun report => Progress.slotEvents (some report)

/-- How a batch ends. `raised` says with which fault the call about the report at a position fails. -/
inductive Ends (jobs : List (Path × JobOutcome)) (order : List Nat) (raised : Nat → Option Fault)
    (finished : Finished σ) (calls : List Call) : Prop
  | normally (happened : List Event)
      (results : finished.results = .ok ((reports jobs raised).map Report.written))
      (told : calls = order.flatMap (Progress.callsAt jobs raised none))
      (events : finished.events = happened ++ .record Progress.endRecord ::
        sections (reports jobs raised))
  | halted (done later : List Nat) (position : Nat) (fault : Fault)
      (split : order = done ++ position :: later)
      (failed : jobs[position]?.bind (fun job => job.2.failure? (raised position)) ≠ none)
      (results : finished.results = .error fault)
      (told : calls = done.flatMap (Progress.callsAt jobs raised none) ++
        Progress.callsAt jobs raised (some fault) position)

/-- The jobs that complete are those of the batch. -/
theorem mem_order_iff {order : List Nat} {count i : Nat}
    (complete : order.Perm (List.range count)) : i ∈ order ↔ i < count :=
  complete.mem_iff.trans List.mem_range

/-- The slots of a batch all of whose jobs are complete. -/
theorem slots_eq_of_forall {jobs : List (Path × JobOutcome)} {order : List Nat}
    {slots : List (Option Report)} {raised : Nat → Option Fault}
    (complete : order.Perm (List.range jobs.length))
    (empty : ∀ i, jobs.length ≤ i → slots[i]? = none)
    (filled : ∀ i ∈ order, slots[i]? = Progress.keptAt jobs raised i) :
    slots = (reports jobs raised).map some := by
  apply List.ext_getElem?
  intro i
  rw [List.getElem?_map, reports, List.getElem?_mapIdx, Option.map_map]
  by_cases inside : i < jobs.length
  · have member : i ∈ order := (mem_order_iff complete).mpr inside
    rw [filled i member]
    rfl
  · rw [empty i (by omega), List.getElem?_eq_none (by omega)]
    rfl

/-- What a batch leaves that ends before any of its jobs. -/
def hindered (batch : Batch) (processors : Nat) (disk : Disk) (state : σ) (fault : Fault) :
    Finished σ where
  disk := disk
  events := [.record (startRecord (batch.workers processors))]
  state := state
  results := .error fault

section Ending

variable {batch : Batch} {pool : Pool} {processors : Nat} {crew : Crew} {disk after : Disk}
  {files : List Path} {order : List Nat} (observer : Observer σ) (state : σ) {fault : Fault}

theorem runWith_of_crowded (crowded : pool (batch.workers processors) = some fault) :
    batch.runWith pool processors crew order disk files observer state =
      batch.hindered processors disk state fault := by
  rw [runWith, crowded, hindered]

theorem runWith_of_unsubmitted (starts : pool (batch.workers processors) = none)
    (lost : submit crew batch.output disk files = (after, .error fault)) :
    batch.runWith pool processors crew order disk files observer state =
      batch.hindered processors after state fault := by
  rw [runWith, starts, lost, hindered]

/-- A batch is hindered, or its pool starts and all its files are handed to the crew. -/
theorem hindered_or_submitted :
    (∃ after fault, batch.runWith pool processors crew order disk files observer state =
        batch.hindered processors after state fault) ∨
      pool (batch.workers processors) = none ∧
        ∃ after jobs, submit crew batch.output disk files = (after, .ok jobs) := by
  cases started : pool (batch.workers processors) with
  | some fault => exact Or.inl ⟨disk, fault, runWith_of_crowded observer state started⟩
  | none =>
      rcases submitted : submit crew batch.output disk files with ⟨after, fault | jobs⟩
      · exact Or.inl ⟨after, fault, runWith_of_unsubmitted observer state started submitted⟩
      · exact Or.inr ⟨rfl, after, jobs, rfl⟩

section Submitted

variable {jobs : List (Path × JobOutcome)} (starts : pool (batch.workers processors) = none)
  (submitted : submit crew batch.output disk files = (after, .ok jobs))

include starts submitted

theorem runWith_of_submit :
    batch.runWith pool processors crew order disk files observer state =
      { disk := after
        events := .record (startRecord (batch.workers processors)) ::
          (Progress.run observer jobs order state).events
        state := (Progress.run observer jobs order state).state
        results := (Progress.run observer jobs order state).stopped.elim
          (.ok (Progress.run observer jobs order state).results) .error } := by
  rw [runWith, starts, submitted]
  cases ended : (Progress.run observer jobs order state).stopped <;> simp only [ended, Option.elim]

/-- How a batch ends whose jobs complete in any order. -/
theorem exists_ends_runWith (complete : order.Perm (List.range jobs.length)) :
    ∃ raised, Ends jobs order raised
      (batch.runWith pool processors crew order disk files observer state)
      (batch.calls pool processors crew order disk files observer state) := by
  have distinct : order.Nodup := complete.nodup_iff.mpr List.nodup_range
  have inside : ∀ position ∈ order, position < jobs.length := by
    intro position member
    exact (mem_order_iff complete).mp member
  obtain ⟨raised, course⟩ := Progress.exists_course observer distinct inside
    (Progress.start jobs.length (state, [])) rfl List.length_replicate
  have recorded := Progress.unrecorded_run observer jobs order state []
  refine ⟨raised, ?_⟩
  rw [calls, runWith_of_submit _ _ starts submitted, runWith_of_submit _ _ starts submitted,
    ← recorded, Progress.run]
  generalize order.foldl (Progress.complete observer.recorded jobs)
    (Progress.start jobs.length (state, [])) = p at course
  cases course with
  | finished running slots told =>
      have kept : p.slots = (reports jobs raised).map some := by
        refine slots_eq_of_forall complete ?_ ?_
        · intro i outside
          have absent : i ∉ order := by
            intro member
            have := inside i member
            omega
          rw [slots, if_neg absent]
          exact List.getElem?_eq_none (by simpa [Progress.start] using outside)
        · intro i member
          rw [slots, if_pos member]
      rw [Progress.finish_of_running running]
      simp only [Progress.unrecorded, running, Progress.results, kept]
      refine .normally (.record (startRecord (batch.workers processors)) :: p.events) ?_ told ?_
      · rw [List.map_map]
        rfl
      · rw [sections, List.flatMap_map, ← List.cons_append]
  | halted done later position fault split failed stopped told =>
      rw [Progress.finish_of_stopped stopped]
      refine .halted done later position fault split failed ?_ told
      simp only [Progress.unrecorded, stopped, Option.elim_some]

end Submitted

/-- No call of an observer that never fails raises anything. -/
theorem forall_raised_calls (willing : ∀ state notice, (observer state notice).failure = none) :
    ∀ call ∈ batch.calls pool processors crew order disk files observer state, call.raised = none := by
  rw [calls]
  obtain ⟨after, fault, hindered⟩ | ⟨starts, after, jobs, submitted⟩ :=
    hindered_or_submitted observer.recorded (state, [])
  · rw [hindered]
    exact fun call absent => absurd absent List.not_mem_nil
  · rw [runWith_of_submit _ _ starts submitted, Progress.run, Progress.state_finish]
    exact Progress.forall_raised_foldl_complete observer willing order _ fun call absent =>
      absurd absent List.not_mem_nil

end Ending

end Batch

end NestedStyles
