import Mathlib.Data.List.Basic
import NestedStyles.Batch.Progress

/-!
The course of a batch, whatever its observer does and in whatever order its jobs complete.

An observer is told of each job; if it fails then, it is told once more, now of its own failure, and a
failure of that call ends the batch. `Progress.exists_course` gives the calls that are made, the slots
and whether the batch is stopped.
-/

set_option autoImplicit false

namespace NestedStyles

namespace Batch

structure Call where
  notice : Notice
  raised : Option Fault := none

namespace JobOutcome

/-- The fault that a job counts as failed with outside its worker, if its report makes the observer
fail as given. -/
def failure? (raised : Option Fault) : JobOutcome → Option Fault
  | .reported _ => raised
  | .crashed fault => some fault

/-- What stands in the slot of a job in the end. -/
def kept (path : Path) (raised : Option Fault) : JobOutcome → Report
  | .reported report => raised.elim report (Progress.failureReport path)
  | .crashed fault => Progress.failureReport path fault

/-- The calls that are made for a job. The call about its report fails with `raised`, the one about a
failure outside its worker with `last`. -/
def calls (path : Path) (raised last : Option Fault) : JobOutcome → List Call
  | .reported report =>
    ⟨⟨path, report.written, report.failure⟩, raised⟩ ::
      raised.elim [] fun fault => [⟨⟨path, none, some fault⟩, last⟩]
  | .crashed fault => [⟨⟨path, none, some fault⟩, last⟩]

/-- What an observer is told first of a job. -/
def notice (path : Path) : JobOutcome → Notice
  | .reported report => ⟨path, report.written, report.failure⟩
  | .crashed fault => ⟨path, none, some fault⟩

/-- Where no call raises anything there is one call, and the slot holds what became of the job. -/
theorem calls_of_quiet {path : Path} {raised last : Option Fault} {outcome : JobOutcome}
    (quiet : ∀ call ∈ outcome.calls path raised last, call.raised = none) :
    outcome.calls path raised last = [⟨outcome.notice path, none⟩] ∧
      outcome.kept path raised = outcome.kept path none ∧
      (outcome.failure? raised ≠ none → last = none) := by
  cases outcome with
  | crashed fault =>
      have ended : last = none := quiet _ List.mem_cons_self
      rw [ended]
      exact ⟨rfl, rfl, fun _ => rfl⟩
  | reported report =>
      have heard : raised = none := quiet _ List.mem_cons_self
      rw [heard]
      exact ⟨rfl, rfl, fun failed => absurd rfl failed⟩

/-- The last call for a job that counts as failed is about that failure. -/
theorem exists_calls_append (path : Path) {raised : Option Fault} (last : Option Fault)
    {outcome : JobOutcome} {fault : Fault} (failed : outcome.failure? raised = some fault) :
    ∃ first, outcome.calls path raised last = first ++ [⟨⟨path, none, some fault⟩, last⟩] := by
  cases outcome with
  | crashed reason =>
      cases failed
      exact ⟨[], rfl⟩
  | reported report =>
      have heard : raised = some fault := failed
      rw [heard]
      exact ⟨[_], rfl⟩

def written : JobOutcome → Option Path
  | .reported report => report.written
  | .crashed _ => none

theorem written_kept (path : Path) (outcome : JobOutcome) :
    (outcome.kept path none).written = outcome.written := by
  cases outcome <;> rfl

/-- A path in a slot is the one that the job reports. -/
theorem written_of_kept {path target : Path} {raised : Option Fault} {outcome : JobOutcome}
    (kept : (outcome.kept path raised).written = some target) : outcome.written = some target := by
  cases outcome with
  | crashed fault => cases kept
  | reported report =>
      cases raised with
      | none => exact kept
      | some fault => cases kept

end JobOutcome

variable {σ : Type}

/-- The observer, with a list of the calls that are made of it. -/
def Observer.recorded (observer : Observer σ) : Observer (σ × List Call) :=
  fun state notice =>
    let reaction := observer state.1 notice
    { state := (reaction.state, state.2 ++ [⟨notice, reaction.failure⟩])
      events := reaction.events
      failure := reaction.failure }

namespace Progress

/-- The progress without the list of calls. -/
def unrecorded (p : Progress (σ × List Call)) : Progress σ :=
  { slots := p.slots, state := p.state.1, events := p.events, stopped := p.stopped }

theorem finish_of_running {p : Progress σ} (running : p.stopped = none) :
    p.finish = { p with events := p.events ++ .record endRecord :: p.slots.flatMap slotEvents } := by
  rw [finish, running]

theorem finish_of_stopped {p : Progress σ} {fault : Fault} (stopped : p.stopped = some fault) :
    p.finish = p := by
  rw [finish, stopped]

@[simp] theorem state_finish (p : Progress σ) : p.finish.state = p.state := by
  rw [finish]
  split <;> rfl

section Recorded

variable (observer : Observer σ) (jobs : List (Path × JobOutcome))

theorem unrecorded_fail (position : Nat) (path : Path) (fault : Fault)
    (p : Progress (σ × List Call)) :
    (p.fail observer.recorded position path fault).unrecorded =
      p.unrecorded.fail observer position path fault := rfl

theorem unrecorded_completeJob (position : Nat) (path : Path) (outcome : JobOutcome)
    (p : Progress (σ × List Call)) :
    (p.completeJob observer.recorded position path outcome).unrecorded =
      p.unrecorded.completeJob observer position path outcome := by
  cases outcome with
  | crashed fault => exact unrecorded_fail observer position path fault p
  | reported report =>
      simp only [completeJob, tell, Observer.recorded, fill, unrecorded]
      cases (observer p.state.1 ⟨path, report.written, report.failure⟩).failure with
      | none => rfl
      | some fault => rfl

theorem unrecorded_complete (position : Nat) (p : Progress (σ × List Call)) :
    (p.complete observer.recorded jobs position).unrecorded =
      p.unrecorded.complete observer jobs position := by
  have same : p.unrecorded.stopped = p.stopped := rfl
  simp only [complete, same]
  split
  · exact unrecorded_completeJob observer position _ _ p
  · rfl

/-- Recording the calls changes nothing in the course of a batch. -/
theorem unrecorded_run (order : List Nat) (state : σ) (calls : List Call) :
    (run observer.recorded jobs order (state, calls)).unrecorded =
      run observer jobs order state := by
  have fold : ∀ (order : List Nat) (p : Progress (σ × List Call)),
      (order.foldl (complete observer.recorded jobs) p).unrecorded =
        order.foldl (complete observer jobs) p.unrecorded := by
    intro order
    induction order with
    | nil =>
        intro p
        rfl
    | cons position rest ih =>
        intro p
        rw [List.foldl_cons, List.foldl_cons, ih, unrecorded_complete]
  have begun : start jobs.length state =
      (start jobs.length ((state, calls) : σ × List Call)).unrecorded := rfl
  rw [run, run, begun, ← fold]
  simp only [finish, unrecorded]
  split <;> rfl

end Recorded

def callsAt (jobs : List (Path × JobOutcome)) (raised : Nat → Option Fault) (last : Option Fault)
    (position : Nat) : List Call :=
  jobs[position]?.elim [] fun job => job.2.calls job.1 (raised position) last

def keptAt (jobs : List (Path × JobOutcome)) (raised : Nat → Option Fault) (position : Nat) :
    Option (Option Report) :=
  jobs[position]?.map fun job => some (job.2.kept job.1 (raised position))

theorem callsAt_update {jobs : List (Path × JobOutcome)} {raised : Nat → Option Fault}
    {position other : Nat} {value : Option Fault} (apart : other ≠ position) (last : Option Fault) :
    callsAt jobs (Function.update raised position value) last other =
      callsAt jobs raised last other := by
  rw [callsAt, callsAt, Function.update_of_ne apart]

theorem callsAt_update_self {jobs : List (Path × JobOutcome)} {raised : Nat → Option Fault}
    {position : Nat} {value : Option Fault} {path : Path} {outcome : JobOutcome}
    (job : jobs[position]? = some (path, outcome)) (last : Option Fault) :
    callsAt jobs (Function.update raised position value) last position =
      outcome.calls path value last := by
  rw [callsAt, job, Function.update_self]
  rfl

theorem flatMap_callsAt_update {jobs : List (Path × JobOutcome)} {raised : Nat → Option Fault}
    {position : Nat} {value : Option Fault} {order : List Nat} (apart : position ∉ order)
    (last : Option Fault) :
    order.flatMap (callsAt jobs (Function.update raised position value) last) =
      order.flatMap (callsAt jobs raised last) := by
  refine List.flatMap_congr fun other member => callsAt_update ?_ last
  rintro rfl
  exact apart member

/-- How a batch gets on from `p` with the jobs at the positions of `order`. Either all of them complete, or
the batch is halted by a call about a failure outside a worker, and the jobs after that are left. -/
inductive Course (jobs : List (Path × JobOutcome)) (raised : Nat → Option Fault) (order : List Nat)
    (p next : Progress (σ × List Call)) : Prop
  | finished
      (running : next.stopped = none)
      (slots : ∀ i, next.slots[i]? = if i ∈ order then keptAt jobs raised i else p.slots[i]?)
      (calls : next.state.2 = p.state.2 ++ order.flatMap (callsAt jobs raised none))
  | halted (done later : List Nat) (position : Nat) (fault : Fault)
      (split : order = done ++ position :: later)
      (failed : jobs[position]?.bind (fun job => job.2.failure? (raised position)) ≠ none)
      (stopped : next.stopped = some fault)
      (calls : next.state.2 = p.state.2 ++ done.flatMap (callsAt jobs raised none) ++
        callsAt jobs raised (some fault) position)

section Course

variable (observer : Observer σ) {jobs : List (Path × JobOutcome)}

/-- What the completion of a job does to a batch that is not stopped. -/
theorem exists_complete {p : Progress (σ × List Call)} {position : Nat} {path : Path}
    {outcome : JobOutcome} (running : p.stopped = none)
    (job : jobs[position]? = some (path, outcome)) :
    ∃ raised last, (outcome.failure? raised = none → last = none) ∧
      (p.complete observer.recorded jobs position).stopped = last ∧
      (p.complete observer.recorded jobs position).slots =
        p.slots.set position (some (outcome.kept path raised)) ∧
      (p.complete observer.recorded jobs position).state.2 =
        p.state.2 ++ outcome.calls path raised last := by
  simp only [complete, running, job]
  cases outcome with
  | crashed fault =>
      refine ⟨none, _, ?_, rfl, rfl, rfl⟩
      intro none
      cases none
  | reported report =>
      cases raised : (observer p.state.1 ⟨path, report.written, report.failure⟩).failure with
      | none =>
          refine ⟨none, none, fun _ => rfl, ?_, ?_, ?_⟩ <;>
            simp [completeJob, tell, Observer.recorded, raised, fill, running, JobOutcome.kept,
              JobOutcome.calls]
      | some fault =>
          have told : (p.fill position report).tell observer.recorded
              ⟨path, report.written, report.failure⟩ =
                (((p.fill position report).tell observer.recorded
                  ⟨path, report.written, report.failure⟩).1, some fault) := by
            simp [tell, Observer.recorded, fill, raised]
          refine ⟨some fault, _, ?_, rfl, ?_, ?_⟩
          · intro none
            cases none
          · rw [completeJob, told]
            simp [fail, tell, fill, happen, JobOutcome.kept]
          · rw [completeJob, told]
            simp [fail, tell, fill, happen, Observer.recorded, raised, JobOutcome.calls]

theorem foldl_complete_of_stopped {p : Progress σ} {fault : Fault} (stopped : p.stopped = some fault)
    (order : List Nat) : order.foldl (complete observer jobs) p = p := by
  induction order with
  | nil => rfl
  | cons position rest ih =>
      have same : p.complete observer jobs position = p := by
        simp only [complete, stopped]
      rw [List.foldl_cons, same, ih]

/-- A job in front of a course that goes on behind it. -/
theorem Course.cons {p middle next : Progress (σ × List Call)} {raised : Nat → Option Fault}
    {position : Nat} {rest : List Nat} {path : Path} {outcome : JobOutcome} {first : Option Fault}
    (apart : position ∉ rest) (job : jobs[position]? = some (path, outcome))
    (room : position < p.slots.length)
    (slots : middle.slots = p.slots.set position (some (outcome.kept path first)))
    (calls : middle.state.2 = p.state.2 ++ outcome.calls path first none)
    (course : Course jobs raised rest middle next) :
    Course jobs (Function.update raised position first) (position :: rest) p next := by
  cases course with
  | finished ended filled told =>
      refine .finished ended ?_ ?_
      · intro i
        rw [filled, slots]
        by_cases here : i = position
        · subst here
          rw [if_neg apart, if_pos List.mem_cons_self, List.getElem?_set_self room, keptAt, job,
            Function.update_self]
          rfl
        · have other : i ∈ position :: rest ↔ i ∈ rest := by
            simp only [List.mem_cons, here, false_or]
          simp only [other, keptAt, Function.update_of_ne here,
            List.getElem?_set_ne (Ne.symm here)]
      · rw [told, calls, List.flatMap_cons, callsAt_update_self job, flatMap_callsAt_update apart,
          List.append_assoc]
  | halted done more later fault split failed ended told =>
      have outside : later ≠ position := by
        rintro rfl
        exact apart (by rw [split]; exact List.mem_append_right _ List.mem_cons_self)
      have before : position ∉ done := by
        intro member
        exact apart (by rw [split]; exact List.mem_append_left _ member)
      refine .halted (position :: done) more later fault ?_ ?_ ended ?_
      · rw [split, List.cons_append]
      · rw [Function.update_of_ne outside]
        exact failed
      · rw [told, calls, List.flatMap_cons, callsAt_update_self job, flatMap_callsAt_update before,
          callsAt_update outside]
        simp only [List.append_assoc]

/-- Jobs at distinct positions complete in any order, whatever the observer does. -/
theorem exists_course {order : List Nat} (distinct : order.Nodup)
    (inside : ∀ position ∈ order, position < jobs.length) :
    ∀ p : Progress (σ × List Call), p.stopped = none → p.slots.length = jobs.length →
      ∃ raised, Course jobs raised order p (order.foldl (complete observer.recorded jobs) p) := by
  induction order with
  | nil =>
      intro p running _
      refine ⟨fun _ => none, .finished running ?_ ?_⟩
      · intro i
        rw [if_neg List.not_mem_nil]
        rfl
      · rw [List.flatMap_nil, List.append_nil]
        rfl
  | cons position rest ih =>
      intro p running length
      rw [List.nodup_cons] at distinct
      rw [List.forall_mem_cons] at inside
      obtain ⟨⟨path, outcome⟩, job⟩ : ∃ job, jobs[position]? = some job :=
        ⟨_, List.getElem?_eq_getElem inside.1⟩
      obtain ⟨first, last, quiet, stopped, slots, calls⟩ :=
        exists_complete observer running job
      rw [List.foldl_cons]
      cases last with
      | some fault =>
          rw [foldl_complete_of_stopped observer.recorded stopped]
          refine ⟨Function.update (fun _ => none) position first,
            .halted [] rest position fault rfl ?_ stopped ?_⟩
          · rw [job, Option.bind_some, Function.update_self]
            intro none
            cases quiet none
          · rw [calls, callsAt_update_self job, List.flatMap_nil, List.append_nil]
      | none =>
          have kept : (p.complete observer.recorded jobs position).slots.length = jobs.length := by
            rw [length_slots_complete, length]
          obtain ⟨raised, course⟩ := ih distinct.2 inside.2 _ stopped kept
          exact ⟨_, course.cons distinct.1 job (by omega) slots calls⟩

/-- No call of an observer that never fails raises anything. -/
theorem forall_raised_foldl_complete
    (willing : ∀ state notice, (observer state notice).failure = none) (order : List Nat) :
    ∀ p : Progress (σ × List Call), (∀ call ∈ p.state.2, call.raised = none) →
      ∀ call ∈ (order.foldl (complete observer.recorded jobs) p).state.2, call.raised = none := by
  induction order with
  | nil => exact fun p quiet => quiet
  | cons position rest ih =>
      intro p quiet
      refine ih _ ?_
      have extended : ∀ notice, ∀ call ∈ p.state.2 ++ [(⟨notice, none⟩ : Call)],
          call.raised = none := by
        intro notice call member
        rcases List.mem_append.mp member with before | here
        · exact quiet call before
        · rw [List.mem_singleton.mp here]
      simp only [complete]
      split
      · rename_i path outcome _ _
        cases outcome with
        | crashed fault =>
            simpa only [completeJob, fail, tell, fill, happen, Observer.recorded, willing] using
              extended ⟨path, none, some fault⟩
        | reported report =>
            simpa only [completeJob, tell, fill, Observer.recorded, willing] using
              extended ⟨path, report.written, report.failure⟩
      · exact quiet

end Course

end Progress

end Batch

end NestedStyles
