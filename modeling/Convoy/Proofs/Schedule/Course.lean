import Convoy.Schedule.Watch
import Mathlib.Data.List.Perm.Basic

/-!
# Courses of a schedule

A course is a schedule together with what became of the groups that it handed out. Acts drive it:
groups are handed out, launched or handed back, reports are applied, and delayed relaunches come back
to their queue, in any order. Whatever a run does to a schedule, letting time pass included, is a
play of such acts.
-/
namespace Convoy

namespace Schedule

/-- The delayed relaunch at a position comes back before its queue. -/
def comeBack (schedule : Schedule) (position : Nat) : Schedule :=
  match schedule.delayed[position]? with
  | none => schedule
  | some delayed =>
    { schedule with delayed := schedule.delayed.eraseIdx position }.arrive delayed.group

end Schedule

/-- The index of the group that a copy stands for. -/
def Roster.indexOf? (roster : Roster) (group : TaskGroup) : Option Nat :=
  group.taskIds.head?.bind roster.owner?

/-- Whether every task of a group is live. -/
def Roster.live (roster : Roster) (group : TaskGroup) : Bool :=
  group.taskIds.all fun task => (roster.owner? task).isSome

/-- A schedule in the course of a run. -/
structure Course where
  schedule : Schedule
  /-- Groups that were handed out and neither launched nor handed back since. -/
  out : List TaskGroup := []
  /-- Every launch so far. -/
  launches : List TaskGroup := []
  /-- The indices of the groups that were handed out so far. -/
  handed : List Nat := []
  /-- The reports on live tasks that were taken in; one that is answered by a failure is not. -/
  heard : List Status := []

/-- What can happen to a schedule. Groups that are out, and delayed relaunches, are picked by their
position. The jitter of a backoff can draw any delay, so a report comes with the delays. -/
inductive Act where
  | pop
  | launch (position : Nat)
  | append (position : Nat)
  | report (status : Status) (pause : Nat → Nat)
  | comeBack (position : Nat)
  | settle
  | pass (milliseconds : Nat)

namespace Course

/-- A course at its start. -/
def start (groups : List TaskGroup) (rules : Rules) (mint : Mint) : Course :=
  { schedule := Schedule.start groups rules mint }

/-- The course after an act. An act that picks what is not there does nothing. -/
def perform (course : Course) : Act → Course
  | .pop =>
    match course.schedule.pop with
    | none => course
    | some (group, schedule) =>
      { course with
        schedule := schedule
        out := course.out ++ [group]
        handed := course.handed ++ (course.schedule.roster.indexOf? group).toList }
  | .launch position =>
    match course.out[position]? with
    | none => course
    | some group =>
      { course with
        out := course.out.eraseIdx position
        launches := course.launches ++ [group] }
  | .append position =>
    match course.out[position]? with
    | none => course
    | some group =>
      { course with
        schedule := (course.schedule.append group).1
        out := course.out.eraseIdx position }
  | .report status pause =>
    let answer := course.schedule.applyWith pause status
    { course with
      schedule := answer.1
      heard :=
        if (course.schedule.roster.owner? status.task).isSome && answer.2.isOk then
          course.heard ++ [status]
        else course.heard }
  | .comeBack position => { course with schedule := course.schedule.comeBack position }
  | .settle => { course with schedule := course.schedule.settle }
  | .pass milliseconds => { course with schedule := course.schedule.pass milliseconds }

/-- What the schedule answers to an act. -/
def answer (course : Course) : Act → Except Failure Unit
  | .append position =>
    match course.out[position]? with
    | none => .ok ()
    | some group => (course.schedule.append group).2
  | .report status pause => (course.schedule.applyWith pause status).2
  | _ => .ok ()

/-- The course after some acts. -/
def play (course : Course) (acts : List Act) : Course :=
  acts.foldl perform course

/-- Every act keeps a rule at the time at which it comes. -/
def Obeys (rule : Course → Act → Prop) : Course → List Act → Prop
  | _, [] => True
  | course, act :: rest => rule course act ∧ Obeys rule (course.perform act) rest

/-- The task was launched at some time. -/
def Launched (course : Course) (task : TaskId) : Prop :=
  ∃ group ∈ course.launches, task ∈ group.taskIds

/-- Reports name launched tasks, or tasks that are not live. So none comes for a group that is out
before that group is launched or handed back. -/
def Fair (course : Course) : Act → Prop
  | .report status _ =>
    course.Launched status.task ∨ course.schedule.roster.owner? status.task = none
  | _ => True

/-- The launches whose tasks are still live: a relaunch puts an end to the launch before it. -/
def inFlight (course : Course) : List TaskGroup :=
  course.launches.filter course.schedule.roster.live

variable {course : Course}

theorem play_append (first second : List Act) :
    course.play (first ++ second) = (course.play first).play second :=
  List.foldl_append

theorem play_induction {rule : Course → Act → Prop} {motive : Course → Prop} {acts : List Act}
    (start : motive course)
    (step : ∀ course act, motive course → rule course act → motive (course.perform act))
    (obeys : course.Obeys rule acts) : motive (course.play acts) := by
  induction acts generalizing course with
  | nil => exact start
  | cons act rest ih => exact ih (step course act start obeys.1) obeys.2

theorem play_invariant {motive : Course → Prop} (start : motive course)
    (step : ∀ course act, motive course → motive (course.perform act)) (acts : List Act) :
    motive (course.play acts) := by
  induction acts generalizing course with
  | nil => exact start
  | cons act rest ih => exact ih (step course act start)

end Course

theorem perm_cons_eraseIdx {α : Type} {values : List α} {position : Nat} {value : α}
    (found : values[position]? = some value) :
    values.Perm (value :: values.eraseIdx position) := by
  obtain ⟨bound, rfl⟩ := List.getElem?_eq_some_iff.mp found
  exact (List.getElem_cons_eraseIdx_perm bound).symm

theorem filter_eraseIdx {α : Type} {keep : α → Bool} {values : List α} {position : Nat} {value : α}
    (found : values[position]? = some value) (dropped : keep value = false) :
    (values.eraseIdx position).filter keep = values.filter keep := by
  induction values generalizing position with
  | nil => rfl
  | cons first rest ih =>
      cases position with
      | zero =>
          simp only [List.getElem?_cons_zero, Option.some.injEq] at found
          subst first
          simp [dropped]
      | succ position =>
          simp only [List.getElem?_cons_succ] at found
          simp only [List.eraseIdx_cons_succ, List.filter_cons, ih found]

namespace Schedule

variable {schedule : Schedule}

theorem insertDelayed_perm (delayed : Delayed) (known : List Delayed) :
    (insertDelayed delayed known).Perm (delayed :: known) := by
  induction known with
  | nil => exact .refl _
  | cons first rest ih =>
      unfold insertDelayed
      split
      · exact .refl _
      · exact (ih.cons first).trans (.swap delayed first rest)

theorem due_perm (schedule : Schedule) :
    schedule.due.Perm
      (schedule.delayed.filter fun delayed => decide (delayed.due ≤ schedule.now)) := by
  unfold due
  generalize schedule.delayed.filter _ = ready
  induction ready with
  | nil => exact .refl _
  | cons first rest ih => exact (insertDelayed_perm first _).trans (ih.cons first)

theorem delayed_arrive (group : TaskGroup) :
    (schedule.arrive group).delayed = schedule.delayed := by
  unfold arrive
  split <;> rfl

theorem arrive_with (group : TaskGroup) (delayed : List Delayed) :
    { schedule.arrive group with delayed := delayed } =
      { schedule with delayed := delayed }.arrive group := by
  unfold arrive
  split <;> rfl

/-- Relaunches that come back one after another, picked by their positions. -/
theorem comeBack_of_perm {order : List Delayed} {ready : Delayed → Bool}
    (perm : order.Perm (schedule.delayed.filter ready)) :
    ∃ positions : List Nat, positions.foldl comeBack schedule =
      order.foldl (fun schedule delayed => schedule.arrive delayed.group)
        { schedule with delayed := schedule.delayed.filter fun delayed => !ready delayed } := by
  induction order generalizing schedule with
  | nil =>
      have none := List.filter_eq_nil_iff.mp perm.nil_eq.symm
      have all : schedule.delayed.filter (fun delayed => !ready delayed) = schedule.delayed :=
        List.filter_eq_self.mpr fun delayed member => by simpa using none delayed member
      exact ⟨[], by rw [all]; rfl⟩
  | cons first rest ih =>
      obtain ⟨member, isReady⟩ := List.mem_filter.mp (perm.subset List.mem_cons_self)
      obtain ⟨position, found⟩ := List.mem_iff_getElem?.mp member
      have split := perm_cons_eraseIdx found
      let next := schedule.comeBack position
      have next_eq : next =
          { schedule with delayed := schedule.delayed.eraseIdx position }.arrive first.group := by
        simp only [next, comeBack, found]
      have left : next.delayed = schedule.delayed.eraseIdx position := by
        rw [next_eq, delayed_arrive]
      have ready_perm : rest.Perm (next.delayed.filter ready) := by
        have filtered := perm.trans (split.filter ready)
        rw [List.filter_cons_of_pos isReady] at filtered
        rw [left]
        exact filtered.cons_inv
      obtain ⟨positions, rest_eq⟩ := ih ready_perm
      refine ⟨position :: positions, ?_⟩
      show positions.foldl comeBack next = _
      rw [rest_eq, List.foldl_cons, left,
        filter_eraseIdx found (by simp [isReady]), next_eq, arrive_with]

theorem dropDue_eq (schedule : Schedule) :
    schedule.dropDue = { schedule with
      delayed := schedule.delayed.filter fun delayed =>
        !decide (delayed.due ≤ schedule.now) } := by
  unfold dropDue
  congr 1
  apply List.filter_congr
  intro delayed _
  rw [← decide_not]
  exact decide_eq_decide.mpr Nat.not_le.symm

theorem delayed_foldl_arrive (order : List Delayed) :
    (order.foldl (fun schedule delayed => schedule.arrive delayed.group) schedule).delayed =
      schedule.delayed := by
  induction order generalizing schedule with
  | nil => rfl
  | cons first rest ih => exact ih.trans (delayed_arrive first.group)

theorem foldl_arrive_with (order : List Delayed) (delayed : List Delayed) :
    { order.foldl (fun schedule delayed => schedule.arrive delayed.group) schedule with
      delayed := delayed } =
        order.foldl (fun schedule delayed => schedule.arrive delayed.group)
          { schedule with delayed := delayed } := by
  induction order generalizing schedule with
  | nil => rfl
  | cons first rest ih =>
    rw [List.foldl_cons, ih, arrive_with]
    rfl

/-- What is due comes back in two parts, the queues settling between them. -/
theorem comeBack_in_parts (schedule : Schedule) (isEarlier : Delayed → Bool) :
    ∃ first second : List Nat,
      second.foldl comeBack (first.foldl comeBack schedule).settle =
        (schedule.due.filter (!isEarlier ·)).foldl
          (fun schedule delayed => schedule.arrive delayed.group)
          ((schedule.due.filter isEarlier).foldl
            (fun schedule delayed => schedule.arrive delayed.group) schedule.dropDue).settle := by
  let isDue (delayed : Delayed) : Bool := decide (delayed.due ≤ schedule.now)
  have before : (schedule.due.filter isEarlier).Perm
      (schedule.delayed.filter fun delayed => isEarlier delayed && isDue delayed) := by
    have perm := (due_perm schedule).filter isEarlier
    rwa [List.filter_filter] at perm
  obtain ⟨first, arrived⟩ := comeBack_of_perm before
  let middle := (first.foldl comeBack schedule).settle
  have left : middle.delayed =
      schedule.delayed.filter fun delayed => !(isEarlier delayed && isDue delayed) := by
    show (first.foldl comeBack schedule).delayed = _
    rw [arrived, delayed_foldl_arrive]
  have after : (schedule.due.filter (!isEarlier ·)).Perm (middle.delayed.filter isDue) := by
    have perm := (due_perm schedule).filter (!isEarlier ·)
    rw [List.filter_filter] at perm
    rw [left, List.filter_filter]
    refine perm.trans (.of_eq (List.filter_congr fun delayed _ => ?_))
    show (!isEarlier delayed && isDue delayed) =
      (isDue delayed && !(isEarlier delayed && isDue delayed))
    cases isEarlier delayed <;> cases isDue delayed <;> rfl
  obtain ⟨second, returned⟩ := comeBack_of_perm after
  have rest : middle.delayed.filter (fun delayed => !isDue delayed) = schedule.dropDue.delayed := by
    rw [left, List.filter_filter, dropDue_eq]
    refine List.filter_congr fun delayed _ => ?_
    show (!isDue delayed && !(isEarlier delayed && isDue delayed)) = !isDue delayed
    cases isEarlier delayed <;> cases isDue delayed <;> rfl
  have settled : { middle with delayed := schedule.dropDue.delayed } =
      ((schedule.due.filter isEarlier).foldl
        (fun schedule delayed => schedule.arrive delayed.group) schedule.dropDue).settle := by
    show { first.foldl comeBack schedule with delayed := schedule.dropDue.delayed }.settle = _
    rw [arrived, foldl_arrive_with]
    rfl
  exact ⟨first, second, by rw [returned, rest, settled]⟩

end Schedule

/-- Letting time pass is a play: what became due comes back one after another. -/
theorem Course.advance_eq_play (course : Course) (milliseconds : Nat) :
    ∃ positions : List Nat,
      { course with schedule := course.schedule.advance milliseconds } =
        course.play (.pass milliseconds :: positions.map .comeBack ++ [.settle]) := by
  obtain ⟨positions, arrived⟩ :=
    Schedule.comeBack_of_perm (Schedule.due_perm (course.schedule.pass milliseconds))
  have played (course : Course) : course.play (positions.map .comeBack) =
      { course with schedule := positions.foldl Schedule.comeBack course.schedule } := by
    generalize positions = positions
    induction positions generalizing course with
    | nil => rfl
    | cons position rest ih => exact ih _
  refine ⟨positions, ?_⟩
  rw [List.cons_append, ← List.singleton_append, play_append, play_append, played]
  show _ = { course with
    schedule := (positions.foldl Schedule.comeBack (course.schedule.pass milliseconds)).settle }
  rw [arrived, ← Schedule.dropDue_eq]
  rfl

end Convoy
