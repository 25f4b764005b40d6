import Convoy.Proofs.Schedule.Ownership

/-!
# Turns

With `sync`, groups are handed out one after another. At any time those before some turn were handed
out, all but the last of them finished, and the gate tells whether that last one did.
-/
namespace Convoy

/-- The groups before an index are done. -/
def Roster.DoneBelow (roster : Roster) (index : Nat) : Prop :=
  ∀ (other : Nat) (tracked : Tracked), other < index →
    roster.tracked[other]? = some tracked → roster.Done tracked

theorem Roster.doneBelow_succ {roster : Roster} {index : Nat} {tracked : Tracked}
    (found : roster.tracked[index]? = some tracked) :
    roster.DoneBelow (index + 1) ↔ roster.DoneBelow index ∧ roster.Done tracked := by
  constructor
  · intro done
    exact ⟨fun other known below => done other known (by omega),
      done index tracked (by omega) found⟩
  · rintro ⟨before, here⟩ other known below there
    rcases Nat.lt_succ_iff_lt_or_eq.mp below with earlier | same
    · exact before other known earlier there
    · subst other
      rw [found, Option.some.injEq] at there
      exact there ▸ here

namespace Course

open Schedule

variable {course after : Course} {groups : List TaskGroup} {turn : Nat}

/-- A task that reported its finish reports nothing else. -/
def Lasting (course : Course) : Act → Prop
  | .report status _ =>
    (∃ earlier ∈ course.heard, earlier.task = status.task ∧ earlier.state = .finished) →
      status.state = .finished
  | _ => True

def Steady (course : Course) (act : Act) : Prop :=
  course.Fair act ∧ course.Lasting act

/-- The copies that are neither launched nor to be handed out at the gate. -/
def moving (course : Course) : List TaskGroup :=
  course.out ++ course.schedule.relaunched.groups ++ course.schedule.delayed.map (·.group)

theorem mem_waiting {group : TaskGroup} :
    group ∈ course.waiting ↔ group ∈ course.schedule.pending.groups ∨
      course.schedule.held = some group ∨ group ∈ course.moving := by
  simp only [waiting, queued, moving, List.mem_append, Option.mem_toList]
  tauto

/-- Where the last group before the turn is, and the gate with it. -/
inductive Phase (turn : Nat) (course : Course) : Prop where
  | running (moving : course.moving = []) (held : course.schedule.held = none)
      (below : course.schedule.roster.DoneBelow (turn - 1))
      (gate : course.schedule.gate = .finished ↔ course.schedule.roster.DoneBelow turn)
  | held {last : Nat} {tracked : Tracked} (turn : turn = last + 1)
      (found : course.schedule.roster.tracked[last]? = some tracked)
      (below : course.schedule.roster.DoneBelow last) (moving : course.moving = [])
      (held : course.schedule.held = some tracked.group) (gate : course.schedule.gate = .finished)
  | away {last : Nat} {tracked : Tracked} (turn : turn = last + 1)
      (found : course.schedule.roster.tracked[last]? = some tracked)
      (below : course.schedule.roster.DoneBelow last) (moving : course.moving = [tracked.group])
      (held : course.schedule.held = none) (gate : course.schedule.gate ≠ .finished)

structure Ordered (groups : List TaskGroup) (turn : Nat) (course : Course) : Prop where
  owned : course.Owned groups
  sync : course.schedule.rules.sync = true
  pending : course.schedule.pending.items = course.schedule.roster.groups.drop turn
  entering : course.schedule.pending.entering = []
  bound : turn ≤ course.schedule.roster.groups.length
  handed : ∀ index, index ∈ course.handed ↔ index < turn
  fresh : ∀ group ∈ course.waiting, ∀ task ∈ group.taskIds,
    course.schedule.roster.state? task = some .starting
  final : ∀ task, course.schedule.roster.state? task = some .finished →
    course.schedule.rules.restart.restarts .finished = false
  phase : course.Phase turn

namespace Phase

theorem of_moving (phase : course.Phase turn) {group : TaskGroup} (member : group ∈ course.moving) :
    ∃ last tracked, turn = last + 1 ∧ course.schedule.roster.tracked[last]? = some tracked ∧
      tracked.group = group ∧ course.schedule.roster.DoneBelow last ∧ course.moving = [group] ∧
      course.schedule.held = none ∧ course.schedule.gate ≠ .finished := by
  cases phase with
  | running moving held below gate =>
      rw [moving] at member
      contradiction
  | held turn found below moving held gate =>
      rw [moving] at member
      contradiction
  | @away last tracked turn found below moving held gate =>
      rw [moving] at member
      have same := List.mem_singleton.mp member
      subst same
      exact ⟨last, tracked, turn, found, rfl, below, moving, held, gate⟩

end Phase

theorem ordered_start (groups : List TaskGroup) {rules : Rules} (mint : Mint)
    (sync : rules.sync = true) : (start groups rules mint).Ordered groups 0 := by
  have owned := owned_start groups rules mint
  have starting : ∀ task state,
      (start groups rules mint).schedule.roster.state? task = some state → state = .starting :=
    fun task => Roster.starting_addAll {} groups mint (by simp) task.text
  refine ⟨owned, sync, rfl, rfl, Nat.zero_le _, by simp [start], ?_, ?_, ?_⟩
  · intro group waiting task member
    have present := owned.balance.subset (List.mem_append_left _ waiting)
    have live := owned.known.coherent.live_of_mem present member
    rw [← owned.known.coherent.state?_isSome] at live
    obtain ⟨state, found⟩ := Option.isSome_iff_exists.mp live
    rw [found, starting task state found]
  · intro task finished
    have state := starting task .finished finished
    contradiction
  · refine .running rfl rfl ?_ ?_
    · intro other tracked below
      omega
    · refine iff_of_true rfl ?_
      intro other tracked below
      omega

theorem moving_perm_of_popped {group : TaskGroup} {rest : Queue} {schedule : Schedule}
    (taken : schedule.relaunched.take? = some (group, rest)) (out : List TaskGroup) :
    ((out ++ [group]) ++ rest.groups ++ schedule.delayed.map (·.group)).Perm
      (out ++ schedule.relaunched.groups ++ schedule.delayed.map (·.group)) := by
  refine .append_right _ ?_
  rw [List.append_assoc]
  exact .append_left _ (Queue.groups_take? taken).symm

theorem moving_handed (idle : course.moving = []) (group : TaskGroup) :
    (course.out ++ [group]) ++ course.schedule.relaunched.groups ++
      course.schedule.delayed.map (·.group) = [group] := by
  simp only [moving, List.append_eq_nil_iff] at idle
  obtain ⟨⟨out, relaunched⟩, delayed⟩ := idle
  rw [out, relaunched, delayed]
  rfl

theorem moving_left {position : Nat} {group : TaskGroup}
    (found : course.out[position]? = some group) (alone : course.moving = [group]) :
    course.out.eraseIdx position ++ course.schedule.relaunched.groups ++
      course.schedule.delayed.map (·.group) = [] := by
  have split : course.moving.Perm (group :: _) :=
    ((perm_cons_eraseIdx found).append_right _).append_right _
  rw [alone] at split
  exact split.symm.cons_inv.eq_nil

theorem moving_comeBack (sync : course.schedule.rules.sync = true) (position : Nat) :
    { course with schedule := course.schedule.comeBack position }.moving.Perm course.moving := by
  unfold comeBack arrive
  split
  · exact .refl _
  · rename_i delayed found
    rw [if_pos sync]
    simp only [moving, List.append_assoc]
    refine .append_left _ ?_
    refine List.Perm.trans (.append_right _ (Queue.groups_await _ _)) ?_
    refine List.Perm.trans List.perm_middle.symm ?_
    have back := (perm_cons_eraseIdx found).map fun delayed => delayed.group
    exact .append_left _ back.symm

theorem comeBack_gate (sync : course.schedule.rules.sync = true) (position : Nat) :
    (course.schedule.comeBack position).pending = course.schedule.pending ∧
      (course.schedule.comeBack position).held = course.schedule.held ∧
      (course.schedule.comeBack position).gate = course.schedule.gate := by
  unfold comeBack arrive
  split
  · exact ⟨rfl, rfl, rfl⟩
  · rw [if_pos sync]
    exact ⟨rfl, rfl, rfl⟩

theorem Phase.of_perm (phase : course.Phase turn)
    (tracked : after.schedule.roster.tracked = course.schedule.roster.tracked)
    (done : ∀ index, after.schedule.roster.DoneBelow index ↔
      course.schedule.roster.DoneBelow index)
    (held : after.schedule.held = course.schedule.held)
    (gate : after.schedule.gate = course.schedule.gate)
    (moving : after.moving.Perm course.moving) : after.Phase turn := by
  cases phase with
  | running none unheld below isOpen =>
      rw [none] at moving
      exact .running moving.eq_nil (held.trans unheld) ((done _).mpr below)
        (by rw [gate, done]; exact isOpen)
  | held before found below none isHeld isOpen =>
      rw [none] at moving
      exact .held before (by rwa [tracked]) ((done _).mpr below) moving.eq_nil (held.trans isHeld)
        (gate.trans isOpen)
  | away before found below alone unheld shut =>
      rw [alone] at moving
      exact .away before (by rwa [tracked]) ((done _).mpr below) (List.perm_singleton.mp moving)
        (held.trans unheld) (by rwa [gate])

/-- What is handed out is the group whose turn it is, or the one before it once more. -/
structure Hands (turn : Nat) (course : Course) (index : Nat) (tracked : Tracked)
    (after : Schedule) : Prop where
  found : course.schedule.roster.tracked[index]? = some tracked
  below : course.schedule.roster.DoneBelow index
  turn : turn = index ∨ turn = index + 1
  pending : after.pending.items = course.schedule.roster.groups.drop (index + 1)
  entering : after.pending.entering = []
  moving : (course.out ++ [tracked.group]) ++ after.relaunched.groups ++
    after.delayed.map (·.group) = [tracked.group]
  held : after.held = none
  gate : after.gate = .starting

namespace Ordered

theorem of_same {next : Nat} (ordered : course.Ordered groups turn) (owned : after.Owned groups)
    (fixed : Fixed course.schedule after.schedule)
    (roster : after.schedule.roster = course.schedule.roster)
    (waiting : ∀ group ∈ after.waiting, group ∈ course.waiting)
    (pending : after.schedule.pending.items = course.schedule.roster.groups.drop next)
    (entering : after.schedule.pending.entering = [])
    (bound : next ≤ course.schedule.roster.groups.length)
    (handed : ∀ index, index ∈ after.handed ↔ index < next) (phase : after.Phase next) :
    after.Ordered groups next where
  owned := owned
  sync := by rw [fixed.rules]; exact ordered.sync
  pending := by rw [roster]; exact pending
  entering := entering
  bound := by rw [roster]; exact bound
  handed := handed
  fresh group member := by rw [roster]; exact ordered.fresh group (waiting group member)
  final task := by rw [roster, fixed.rules]; exact ordered.final task
  phase := phase

/-- The first group in the queue is the one whose turn it is. -/
theorem pending_first (ordered : course.Ordered groups turn) {group : TaskGroup} {rest : Queue}
    (taken : course.schedule.pending.take? = some (group, rest)) :
    ∃ tracked, course.schedule.roster.tracked[turn]? = some tracked ∧ tracked.group = group ∧
      rest.items = course.schedule.roster.groups.drop (turn + 1) ∧ rest.entering = [] := by
  have first := Queue.items_take? taken
  rw [ordered.pending] at first
  have here : course.schedule.roster.groups[turn]? = some group := by
    have head := congrArg (·[0]?) first
    simpa using head
  rw [Roster.groups, List.getElem?_map] at here
  obtain ⟨tracked, found, same⟩ := Option.map_eq_some_iff.mp here
  refine ⟨tracked, found, same, ?_, ?_⟩
  · rw [← List.tail_drop, first, List.tail_cons]
  · rw [Queue.take?_eq_some taken ordered.owned.calm.pending.waiting]
    exact ordered.entering

theorem hands (ordered : course.Ordered groups turn) {group : TaskGroup} {after : Schedule}
    (pops : Pops course.schedule group after) :
    ∃ index tracked, tracked.group = group ∧ Hands turn course index tracked after := by
  have pending {index : Nat} (before : turn = index + 1) :
      course.schedule.pending.items = course.schedule.roster.groups.drop (index + 1) :=
    before ▸ ordered.pending
  cases pops with
  | parallel parallel next =>
      rw [ordered.sync] at parallel
      contradiction
  | relaunched sync taken =>
      have member : group ∈ course.moving := by
        simp only [moving, List.mem_append]
        exact .inl (.inr ((Queue.groups_take? taken).mem_iff.mpr List.mem_cons_self))
      obtain ⟨last, tracked, before, found, rfl, below, moving, held, _⟩ :=
        ordered.phase.of_moving member
      refine ⟨last, tracked, rfl, found, below, .inr before, pending before, ordered.entering, ?_,
        held, rfl⟩
      exact List.perm_singleton.mp ((moving_perm_of_popped taken course.out).trans (.of_eq moving))
  | opened sync empty gate next =>
      cases next with
      | held present =>
          cases ordered.phase with
          | held before found below moving held _ =>
              rw [held, Option.some.injEq] at present
              exact ⟨_, _, present, found, below, .inr before, pending before, ordered.entering,
                moving_handed moving _, rfl, rfl⟩
          | running _ held _ _ | away _ _ _ _ held _ =>
              rw [held] at present
              contradiction
      | pending absent taken =>
          obtain ⟨tracked, found, rfl, items, entering⟩ := ordered.pending_first taken
          cases ordered.phase with
          | running moving held _ finished =>
              exact ⟨turn, tracked, rfl, found, finished.mp gate, .inl rfl, items, entering,
                moving_handed moving _, held, rfl⟩
          | held _ _ _ _ held _ =>
              rw [held] at absent
              contradiction
          | away _ _ _ _ _ shut => exact absurd gate shut

theorem pop (ordered : course.Ordered groups turn) (owned : after.Owned groups)
    (fixed : Fixed course.schedule after.schedule) (performs : Performs course .pop after) :
    ∃ next, after.Ordered groups next := by
  have waiting : ∀ group ∈ after.waiting, group ∈ course.waiting :=
    fun group member => (waiting_pop performs).subset member
  cases performs with
  | nothing => exact ⟨turn, ordered⟩
  | popped pops =>
      obtain ⟨roster, _⟩ := roster_pops pops
      obtain ⟨index, tracked, rfl, found, below, last, pending, entering, moving, held, gate⟩ :=
        ordered.hands pops
      have bound : index < course.schedule.roster.groups.length := by
        rw [Roster.groups, List.length_map]
        exact (List.getElem?_eq_some_iff.mp found).1
      refine ⟨index + 1, ordered.of_same owned fixed roster waiting pending entering bound ?_
        (.away rfl (by rwa [roster]) (by rwa [roster]) moving held (by rw [gate]; simp))⟩
      intro other
      rw [ordered.owned.known.coherent.indexOf? found, List.mem_append, ordered.handed]
      simp only [Option.toList, List.mem_singleton]
      omega

theorem launch {position : Nat} (ordered : course.Ordered groups turn)
    (owned : after.Owned groups) (performs : Performs course (.launch position) after) :
    after.Ordered groups turn := by
  cases performs with
  | nothing => exact ordered
  | launched found =>
      have out := List.mem_of_getElem? found
      have member : _ ∈ course.moving := List.mem_append_left _ (List.mem_append_left _ out)
      obtain ⟨last, tracked, before, here, rfl, below, moving, held, gate⟩ :=
        ordered.phase.of_moving member
      have starting := ordered.fresh tracked.group (List.mem_append_right _ out)
      refine ordered.of_same owned ⟨rfl, rfl⟩ rfl ?_ ordered.pending ordered.entering
        ordered.bound ordered.handed (.running ?_ held ?_ ?_)
      · exact fun group waits =>
          (waiting_launched found).symm.subset (List.mem_cons_of_mem _ waits)
      · exact moving_left found moving
      · simpa only [before, Nat.add_sub_cancel] using below
      · -- No task of the group reported since it was handed out, so the gate is rightly shut.
        refine iff_of_false gate fun done => ?_
        rw [before, Roster.doneBelow_succ here] at done
        exact Roster.not_done_of_starting starting done.2

theorem append {position : Nat} (ordered : course.Ordered groups turn)
    (owned : after.Owned groups) (fixed : Fixed course.schedule after.schedule)
    (performs : Performs course (.append position) after) : after.Ordered groups turn := by
  cases performs with
  | nothing => exact ordered
  | appended found appends =>
      have out := List.mem_of_getElem? found
      have member : _ ∈ course.moving := List.mem_append_left _ (List.mem_append_left _ out)
      obtain ⟨last, tracked, before, here, rfl, below, moving, held, gate⟩ :=
        ordered.phase.of_moving member
      have perm := waiting_appended found appends (ordered.owned.append_ok out appends)
      cases appends with
      | held sync empty =>
          refine ordered.of_same owned fixed rfl (fun group waits => perm.subset waits)
            ordered.pending ordered.entering ordered.bound ordered.handed
            (.held before here below ?_ rfl rfl)
          exact moving_left found moving
      | displaced sync present pushed =>
          rw [held] at present
          contradiction
      | overflow sync present full =>
          rw [held] at present
          contradiction
      | queued parallel pushed =>
          rw [ordered.sync] at parallel
          contradiction
      | full parallel full =>
          rw [ordered.sync] at parallel
          contradiction

theorem comeBack (ordered : course.Ordered groups turn) {position : Nat}
    (owned : (course.perform (.comeBack position)).Owned groups) :
    (course.perform (.comeBack position)).Ordered groups turn := by
  obtain ⟨roster, _⟩ := roster_comeBack course.schedule position
  obtain ⟨pending, held, gate⟩ := comeBack_gate ordered.sync position
  have done (index : Nat) : (course.schedule.comeBack position).roster.DoneBelow index ↔
      course.schedule.roster.DoneBelow index := by rw [roster]
  refine ordered.of_same owned (fixed_perform course _) roster ?_
    ((congrArg _ pending).trans ordered.pending) ((congrArg _ pending).trans ordered.entering)
    ordered.bound ordered.handed
    (ordered.phase.of_perm (congrArg _ roster) done held gate
      (moving_comeBack ordered.sync position))
  exact fun group waits =>
    ((queued_comeBack course.schedule position).append_right _).subset waits

theorem settle (ordered : course.Ordered groups turn)
    (owned : (course.perform .settle).Owned groups) :
    (course.perform .settle).Ordered groups turn := by
  have pending : course.schedule.pending.settle =
      { course.schedule.pending with entering := [] } := by
    rw [Queue.settle, ordered.entering]
    rfl
  refine ordered.of_same owned ⟨rfl, rfl⟩ rfl ?_ ((congrArg _ pending).trans ordered.pending)
    (congrArg _ pending) ordered.bound ordered.handed
    (ordered.phase.of_perm rfl (fun _ => .rfl) rfl rfl ?_)
  · exact fun group waits => ((queued_settle course.schedule).append_right _).subset waits
  · exact .append_right _ (.append_left _ (Queue.groups_settle _))

end Ordered

end Course
end Convoy
