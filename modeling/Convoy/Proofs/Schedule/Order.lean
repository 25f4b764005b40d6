import Convoy.Proofs.Schedule.Turn

/-!
# Groups in their order

A report leaves the turn as it is: what is done stays done, and only the last group before the turn
can come to be done or be relaunched. So groups go in the order in which they were submitted.
-/
namespace Convoy

namespace Course

open Schedule

variable {course after : Course} {groups : List TaskGroup} {turn : Nat}

theorem Known.heard_finished (known : course.Known groups) {task : TaskId}
    (live : (course.schedule.roster.owner? task).isSome)
    (finished : course.schedule.roster.state? task = some .finished) :
    ∃ earlier ∈ course.heard, earlier.task = task ∧ earlier.state = .finished := by
  rw [known.states task live, Option.some.injEq] at finished
  cases heard : lastHeard course.heard task with
  | none =>
      rw [heard] at finished
      contradiction
  | some state =>
      rw [heard, Option.getD_some] at finished
      obtain ⟨earlier, member, named, same⟩ := lastHeard_mem heard
      exact ⟨earlier, member, named, same.trans finished⟩

namespace Ordered

variable {status : Status} {pause : Nat → Nat} {index : Nat} {tracked : Tracked}

theorem index_lt (ordered : course.Ordered groups turn)
    (found : course.schedule.roster.tracked[index]? = some tracked)
    (flying : tracked.group ∈ course.inFlight) : index < turn := by
  refine Decidable.byContradiction fun beyond => ordered.owned.not_waiting flying ?_
  have member : tracked.group ∈ course.schedule.pending.items := by
    rw [ordered.pending]
    refine List.mem_of_getElem? (i := index - turn) ?_
    rw [List.getElem?_drop, Nat.add_sub_cancel' (by omega), Roster.groups, List.getElem?_map, found]
    rfl
  exact mem_waiting.mpr (.inl (List.mem_append_left _ (List.mem_append_left _ member)))

/-- A group in flight that is not done is the last before the turn, and nothing else moves. -/
theorem last_of_not_done (ordered : course.Ordered groups turn)
    (found : course.schedule.roster.tracked[index]? = some tracked)
    (flying : tracked.group ∈ course.inFlight) (undone : ¬ course.schedule.roster.Done tracked) :
    turn = index + 1 ∧ course.moving = [] ∧ course.schedule.held = none ∧
      course.schedule.roster.DoneBelow index ∧ course.schedule.gate ≠ .finished := by
  have before := ordered.index_lt found flying
  have not_last {last : Nat} {other : Tracked} (turn : turn = last + 1)
      (there : course.schedule.roster.tracked[last]? = some other)
      (below : course.schedule.roster.DoneBelow last) : other.group ∉ course.waiting := by
    by_cases same : index = last
    · subst last
      rw [found, Option.some.injEq] at there
      exact there ▸ ordered.owned.not_waiting flying
    · exact absurd (below index tracked (by omega) found) undone
  -- A group in flight does not wait, so where the last group waits this one is done before it.
  cases ordered.phase with
  | running moving held below gate =>
      have last : turn = index + 1 := by
        refine Decidable.byContradiction fun other => undone ?_
        exact below index tracked (by omega) found
      rw [last, Nat.add_sub_cancel] at below
      refine ⟨last, moving, held, below, fun isOpen => undone ?_⟩
      exact gate.mp isOpen index tracked before found
  | held turn there below moving held gate =>
      exact absurd (mem_waiting.mpr (.inr (.inl held))) (not_last turn there below)
  | away turn there below moving held gate =>
      have member : _ ∈ course.moving := moving ▸ List.mem_singleton_self _
      exact absurd (mem_waiting.mpr (.inr (.inr member))) (not_last turn there below)

/-- The tasks of a group that waits are not those of a group in flight. -/
theorem apart (ordered : course.Ordered groups turn)
    (found : course.schedule.roster.tracked[index]? = some tracked)
    (flying : tracked.group ∈ course.inFlight) {group : TaskGroup} (waits : group ∈ course.waiting)
    {task : TaskId} (member : task ∈ group.taskIds) : task ∉ tracked.group.taskIds := by
  intro shared
  have present := ordered.owned.balance.subset (List.mem_append_left _ waits)
  have here : tracked.group ∈ course.schedule.roster.groups :=
    List.mem_map_of_mem (List.mem_of_getElem? found)
  have same := ordered.owned.known.coherent.group_unique present here member shared
  exact ordered.owned.not_waiting flying (same ▸ waits)

/-- A report on a task of a group that is done says once more that the task finished. -/
theorem finished_of_done (ordered : course.Ordered groups turn)
    (steady : course.Steady (.report status pause))
    (owner : course.schedule.roster.owner? status.task = some index)
    (found : course.schedule.roster.tracked[index]? = some tracked)
    (done : course.schedule.roster.Done tracked) :
    status.state = .finished ∧ course.schedule.rules.restart.restarts .finished = false := by
  obtain ⟨_, there, member⟩ := ordered.owned.known.coherent.owner?_iff.mp owner
  rw [found, Option.some.injEq] at there
  subst there
  have finished := done status.task member
  have live : (course.schedule.roster.owner? status.task).isSome := by
    rw [owner, Option.isSome_some]
  exact ⟨steady.2 (ordered.owned.known.heard_finished live finished),
    ordered.final status.task finished⟩

theorem gate_record (schedule : Schedule) {task : TaskId} {state : TaskState}
    (found : schedule.roster.tracked[index]? = some tracked)
    (undone : ¬ schedule.roster.Done tracked) (shut : schedule.gate ≠ .finished) :
    (schedule.record index task state).gate = .finished ↔
      (schedule.roster.report task state).Done tracked := by
  have before : schedule.roster.groupFinished index = false := by
    rw [← Bool.not_eq_true, Roster.groupFinished_iff found]
    exact undone
  have now : (schedule.roster.report task state).tracked[index]? = some tracked := found
  unfold record
  simp only [before, Bool.false_eq_true, if_false]
  by_cases done : (schedule.roster.report task state).groupFinished index = true
  · simp [done, (Roster.groupFinished_iff now).mp done]
  · have still : ¬ (schedule.roster.report task state).Done tracked := by
      rwa [← Roster.groupFinished_iff now]
    rw [if_neg done]
    refine iff_of_false ?_ still
    by_cases finished : state = .finished
    · simpa [finished] using shut
    · simp [finished]

/-- The phase after a report was recorded. -/
theorem phase_record (ordered : course.Ordered groups turn)
    (steady : course.Steady (.report status pause)) (heard : List Status)
    (owner : course.schedule.roster.owner? status.task = some index)
    (found : course.schedule.roster.tracked[index]? = some tracked) :
    { course with
      schedule := course.schedule.record index status.task status.state
      heard := heard : Course }.Phase turn := by
  have coherent := ordered.owned.known.coherent
  have flying := ordered.owned.inFlight_of_fair steady.1 owner found
  have others {other : Nat} {known : Tracked} (different : other ≠ index)
      (there : course.schedule.roster.tracked[other]? = some known) :
      (course.schedule.roster.report status.task status.state).Done known ↔
        course.schedule.roster.Done known :=
    coherent.done_report owner there different status.state
  by_cases done : course.schedule.roster.Done tracked
  · -- The group stays done, and recording a finish once more leaves the gate alone.
    obtain ⟨finished, _⟩ := ordered.finished_of_done steady owner found done
    have still : (course.schedule.roster.report status.task status.state).Done tracked := by
      intro task member
      rw [Roster.state?_report, finished]
      split
      · rfl
      · exact done task member
    have gate : (course.schedule.record index status.task status.state).gate =
        course.schedule.gate := by
      rw [record_of_done found done]
    refine ordered.phase.of_perm rfl (fun bound => ?_) rfl gate (.refl _)
    refine forall_congr' fun other => forall_congr' fun known => forall_congr' fun below =>
      forall_congr' fun there => ?_
    by_cases same : other = index
    · subst other
      have there : course.schedule.roster.tracked[index]? = some known := there
      rw [found, Option.some.injEq] at there
      subst there
      exact iff_of_true still done
    · exact others same there
  · -- The group is the last before the turn, so the gate opens exactly if this completes it.
    obtain ⟨last, moving, held, below, shut⟩ := ordered.last_of_not_done found flying done
    have before : (course.schedule.roster.report status.task status.state).DoneBelow index :=
      fun other known earlier there =>
        (others (by omega) there).mpr (below other known earlier there)
    refine .running moving held ?_ ?_
    · rw [last, Nat.add_sub_cancel]
      exact before
    · refine (gate_record course.schedule found done shut).trans ?_
      rw [last]
      have there : (course.schedule.roster.report status.task status.state).tracked[index]? =
        some tracked := found
      refine Iff.trans ?_ (Roster.doneBelow_succ there).symm
      exact ⟨fun now => ⟨before, now⟩, fun both => both.2⟩

theorem record (ordered : course.Ordered groups turn)
    (steady : course.Steady (.report status pause)) {heard : List Status}
    (owner : course.schedule.roster.owner? status.task = some index)
    (owned : Course.Owned groups { course with
      schedule := course.schedule.record index status.task status.state
      heard := heard })
    (final : Course.Final { course with
      schedule := course.schedule.record index status.task status.state
      heard := heard }) :
    Course.Ordered groups turn { course with
      schedule := course.schedule.record index status.task status.state
      heard := heard } := by
  obtain ⟨tracked, found, member⟩ := ordered.owned.known.coherent.owner?_iff.mp owner
  have flying := ordered.owned.inFlight_of_fair steady.1 owner found
  refine ⟨owned, ordered.sync, ordered.pending, ordered.entering, ordered.bound, ordered.handed,
    ?_, final, ordered.phase_record steady heard owner found⟩
  intro group waits task present
  refine (Roster.state?_report _ _ _ _).trans ?_
  rw [if_neg]
  · exact ordered.fresh group waits task present
  · rintro rfl
    exact ordered.apart found flying waits present member

/-- A relaunch is of the last group before the turn, which is then the only one that moves. -/
theorem moving_requeues (ordered : course.Ordered groups turn) {group : TaskGroup}
    {milliseconds : Nat} {answer : Schedule × Except Failure Unit} (idle : course.moving = [])
    (requeues : Requeues (course.schedule.renewed index tracked) group milliseconds answer)
    (taken : answer.2 = .ok ()) :
    course.out ++ answer.1.relaunched.groups ++ answer.1.delayed.map (·.group) = [group] ∧
      answer.1.pending = course.schedule.pending ∧ answer.1.held = course.schedule.held ∧
      answer.1.gate = .starting := by
  have gate : (course.schedule.renewed index tracked).gate = .starting := if_pos ordered.sync
  have parts := idle
  simp only [moving, List.append_eq_nil_iff] at parts
  obtain ⟨⟨out, relaunched⟩, delayed⟩ := parts
  cases requeues with
  | delayed late =>
      refine ⟨?_, rfl, rfl, gate⟩
      simp only [delay, renewed, List.map_append, List.map_cons, List.map_nil, out, relaunched,
        delayed]
      rfl
  | relaunched sync pushed =>
      refine ⟨?_, rfl, rfl, gate⟩
      have entered := Queue.groups_push? pushed
      rw [show (course.schedule.renewed index tracked).relaunched.groups = [] from relaunched]
        at entered
      simp only [renewed, out, delayed, List.perm_singleton.mp entered]
      rfl
  | queued parallel pushed =>
      rw [show (course.schedule.renewed index tracked).rules.sync = true from ordered.sync]
        at parallel
      contradiction
  | relaunchedFull sync full => contradiction
  | pendingFull parallel full => contradiction

theorem not_done_of_restarts (ordered : course.Ordered groups turn)
    (steady : course.Steady (.report status pause))
    (owner : course.schedule.roster.owner? status.task = some index)
    (found : course.schedule.roster.tracked[index]? = some tracked)
    (restarts : course.schedule.rules.restart.restarts status.state.outcome = true) :
    ¬ course.schedule.roster.Done tracked := by
  intro done
  obtain ⟨finished, final⟩ := ordered.finished_of_done steady owner found done
  rw [finished] at restarts
  exact absurd (restarts.symm.trans final) (by simp)

/-- The phase after a relaunch: the relaunched group moves, and the gate is shut for it. -/
theorem phase_relaunch (ordered : course.Ordered groups turn) (heard : List Status)
    (found : course.schedule.roster.tracked[index]? = some tracked)
    (flying : tracked.group ∈ course.inFlight) (undone : ¬ course.schedule.roster.Done tracked)
    {milliseconds : Nat} {answer : Schedule × Except Failure Unit}
    (requeues : Requeues (course.schedule.renewed index tracked)
      (tracked.group.renew course.schedule.mint).1 milliseconds answer)
    (taken : answer.2 = .ok ()) :
    { course with schedule := answer.1, heard := heard : Course }.Phase turn := by
  obtain ⟨last, idle, unheld, below, _⟩ := ordered.last_of_not_done found flying undone
  obtain ⟨moving, _, held, gate⟩ := ordered.moving_requeues idle requeues taken
  have here := tracked_requeues found requeues
  refine .away last here ?_ moving (held.trans unheld) (by rw [gate]; simp)
  intro other known earlier there
  have different : other ≠ index := by omega
  have before : course.schedule.roster.tracked[other]? = some known :=
    (tracked_requeues_other different requeues).symm.trans there
  show answer.1.roster.Done known
  rw [(roster_requeues requeues).1]
  exact (ordered.owned.known.coherent.done_relaunch found before different).mpr
    (below other known earlier before)

theorem relaunch (ordered : course.Ordered groups turn)
    (steady : course.Steady (.report status pause)) {heard : List Status}
    (owner : course.schedule.roster.owner? status.task = some index)
    (found : course.schedule.roster.tracked[index]? = some tracked)
    (restarts : course.schedule.rules.restart.restarts status.state.outcome = true)
    {milliseconds : Nat} {answer : Schedule × Except Failure Unit}
    (requeues : Requeues (course.schedule.renewed index tracked)
      (tracked.group.renew course.schedule.mint).1 milliseconds answer)
    (fixed : Fixed course.schedule answer.1)
    (owned : Course.Owned groups { course with schedule := answer.1, heard := heard })
    (final : Course.Final { course with schedule := answer.1, heard := heard }) :
    Course.Ordered groups turn { course with schedule := answer.1, heard := heard } := by
  have flying := ordered.owned.inFlight_of_fair steady.1 owner found
  have taken := ordered.owned.requeue_ok steady.1 owner found requeues
  have undone := ordered.not_done_of_restarts steady owner found restarts
  obtain ⟨last, idle, _⟩ := ordered.last_of_not_done found flying undone
  obtain ⟨_, pending, _⟩ := ordered.moving_requeues idle requeues taken
  have roster : answer.1.roster =
    (course.schedule.roster.relaunch index tracked course.schedule.mint).2.1 :=
    (roster_requeues requeues).1
  have present : answer.1.roster.groups =
      course.schedule.roster.groups.set index (tracked.group.renew course.schedule.mint).1 := by
    rw [roster, Roster.groups, Roster.tracked_relaunch, List.map_set]
    rfl
  constructor
  case owned => exact owned
  case sync => rw [fixed.rules]; exact ordered.sync
  case pending =>
    show answer.1.pending.items = answer.1.roster.groups.drop turn
    rw [pending, ordered.pending, present, List.drop_set_of_lt (by omega)]
  case entering => exact (congrArg _ pending).trans ordered.entering
  case bound =>
    show turn ≤ answer.1.roster.groups.length
    rw [present, List.length_set]
    exact ordered.bound
  case handed => exact ordered.handed
  case fresh =>
    intro group waits task member
    show answer.1.roster.state? task = some .starting
    rw [roster, Roster.state?_relaunch]
    split
    · rfl
    · rename_i old
      have queued := (queued_requeues requeues taken).append_right course.out
      rcases List.mem_cons.mp (queued.mem_iff.mp waits) with new | before
      · exact absurd (new ▸ member) old
      · rw [if_neg (ordered.apart found flying before member)]
        exact ordered.fresh group before task member
  case final => exact final
  case phase => exact ordered.phase_relaunch heard found flying undone requeues taken

theorem report (ordered : course.Ordered groups turn)
    (steady : course.Steady (.report status pause)) (owned : after.Owned groups)
    (fixed : Fixed course.schedule after.schedule) (final : after.Final)
    (performs : Performs course (.report status pause) after) : after.Ordered groups turn := by
  cases performs with
  | nothing => exact ordered
  | reported applies =>
      cases applies with
      | recorded owner once sound => exact ordered.record steady owner owned final
      | relaunched owner found restarts allowed requeues =>
          exact ordered.relaunch steady owner found restarts requeues fixed owned final
      | _ =>
          exact ordered.of_same owned fixed rfl (fun _ waits => waits) ordered.pending
            ordered.entering ordered.bound ordered.handed
            (ordered.phase.of_perm rfl (fun _ => .rfl) rfl rfl (.refl _))

end Ordered

theorem ordered_perform (ordered : course.Ordered groups turn) {act : Act}
    (steady : course.Steady act) : ∃ next, (course.perform act).Ordered groups next := by
  have owned := owned_perform ordered.owned steady.1
  have fixed := course.fixed_perform act
  have performs := course.performs_perform act
  cases act with
  | pop => exact ordered.pop owned fixed performs
  | launch position => exact ⟨turn, ordered.launch owned performs⟩
  | append position => exact ⟨turn, ordered.append owned fixed performs⟩
  | report status pause =>
      have final := final_perform ordered.final (.report status pause)
      exact ⟨turn, ordered.report steady owned fixed final performs⟩
  | comeBack position => exact ⟨turn, ordered.comeBack owned⟩
  | settle => exact ⟨turn, ordered.settle owned⟩
  | pass milliseconds =>
      exact ⟨turn, ordered.of_same owned fixed rfl (fun _ waits => waits) ordered.pending
        ordered.entering ordered.bound ordered.handed
        (ordered.phase.of_perm rfl (fun _ => .rfl) rfl rfl (.refl _))⟩

theorem ordered_play (ordered : course.Ordered groups turn) {acts : List Act}
    (steady : course.Obeys Steady acts) : ∃ next, (course.play acts).Ordered groups next :=
  play_induction (motive := fun course => ∃ turn, course.Ordered groups turn) ⟨turn, ordered⟩
    (fun _ _ ⟨_, ordered⟩ steady => ordered_perform ordered steady) steady

/-- Groups go one after another. Those that are neither in the queue nor held are out, in flight or
on their way to a relaunch. -/
structure InOrder (groups : List TaskGroup) (course : Course) : Prop where
  tracks : course.schedule.roster.Tracks groups
  gate : course.schedule.gate = .finished ↔
    ∀ tracked ∈ course.schedule.roster.tracked,
      tracked.group ∉ course.schedule.pending.items →
      course.schedule.held ≠ some tracked.group → course.schedule.roster.Done tracked
  alone : ∀ first ∈ course.schedule.roster.tracked, ∀ second ∈ course.schedule.roster.tracked,
    first.group ∉ course.schedule.pending.items → second.group ∉ course.schedule.pending.items →
    ¬ course.schedule.roster.Done first → ¬ course.schedule.roster.Done second → first = second
  pop : ∀ group after, course.schedule.pop = some (group, after) →
    ∃ (index : Nat) (tracked : Tracked),
      course.schedule.roster.tracked[index]? = some tracked ∧ tracked.group = group ∧
      course.schedule.roster.DoneBelow index ∧
      (index ∉ course.handed → ∀ other, other ∈ course.handed ↔ other < index)
  append : ∀ group ∈ course.out, course.schedule.held = none

namespace Ordered

variable {index : Nat} {tracked : Tracked}

theorem mem_pending_iff (ordered : course.Ordered groups turn)
    (found : course.schedule.roster.tracked[index]? = some tracked) :
    tracked.group ∈ course.schedule.pending.items ↔ turn ≤ index := by
  have here : course.schedule.roster.groups[index]? = some tracked.group := by
    rw [Roster.groups, List.getElem?_map, found]
    rfl
  rw [ordered.pending, List.mem_iff_getElem?]
  constructor
  · rintro ⟨offset, there⟩
    rw [List.getElem?_drop] at there
    have bound := (List.getElem?_eq_some_iff.mp here).1
    have same := (List.getElem?_inj bound ordered.owned.known.coherent.nodup_groups).mp
      (here.trans there.symm)
    omega
  · intro later
    refine ⟨index - turn, ?_⟩
    rw [List.getElem?_drop, Nat.add_sub_cancel' later, here]

theorem doneBelow_pred (ordered : course.Ordered groups turn) :
    course.schedule.roster.DoneBelow (turn - 1) := by
  cases ordered.phase with
  | running _ _ below _ => exact below
  | held before _ below _ _ _ | away before _ below _ _ _ =>
      rw [before, Nat.add_sub_cancel]
      exact below

theorem gate_iff (ordered : course.Ordered groups turn) :
    course.schedule.gate = .finished ↔
      ∀ tracked ∈ course.schedule.roster.tracked,
        tracked.group ∉ course.schedule.pending.items →
        course.schedule.held ≠ some tracked.group → course.schedule.roster.Done tracked := by
  cases ordered.phase with
  | running moving held below gate =>
      rw [gate]
      constructor
      · intro done tracked member unqueued _
        obtain ⟨index, found⟩ := List.mem_iff_getElem?.mp member
        rw [ordered.mem_pending_iff found] at unqueued
        exact done index tracked (by omega) found
      · intro done index tracked below found
        refine done tracked (List.mem_of_getElem? found) ?_ (by simp [held])
        rw [ordered.mem_pending_iff found]
        omega
  | @held last known before found below moving held gate =>
      refine iff_of_true gate fun tracked member unqueued unheld => ?_
      obtain ⟨index, there⟩ := List.mem_iff_getElem?.mp member
      rw [ordered.mem_pending_iff there] at unqueued
      refine below index tracked ?_ there
      have different : index ≠ last := by
        rintro rfl
        rw [found, Option.some.injEq] at there
        exact unheld (there ▸ held)
      omega
  | away before found below moving held gate =>
      refine iff_of_false gate fun done => ?_
      have moves : _ ∈ course.moving := moving ▸ List.mem_singleton_self _
      refine Roster.not_done_of_starting (ordered.fresh _ (mem_waiting.mpr (.inr (.inr moves)))) ?_
      refine done _ (List.mem_of_getElem? found) ?_ (by simp [held])
      rw [ordered.mem_pending_iff found]
      omega

theorem inOrder (ordered : course.Ordered groups turn) : course.InOrder groups where
  tracks := ordered.owned.known.tracks
  gate := ordered.gate_iff
  alone first inFirst second inSecond firstAway secondAway firstUndone secondUndone := by
    have below := ordered.doneBelow_pred
    have last {tracked : Tracked} {index : Nat}
        (found : course.schedule.roster.tracked[index]? = some tracked)
        (away : tracked.group ∉ course.schedule.pending.items)
        (undone : ¬ course.schedule.roster.Done tracked) : index = turn - 1 := by
      rw [ordered.mem_pending_iff found] at away
      refine Decidable.byContradiction fun other => undone ?_
      exact below index tracked (by omega) found
    obtain ⟨i, atFirst⟩ := List.mem_iff_getElem?.mp inFirst
    obtain ⟨j, atSecond⟩ := List.mem_iff_getElem?.mp inSecond
    rw [last atFirst firstAway firstUndone] at atFirst
    rw [last atSecond secondAway secondUndone] at atSecond
    exact Option.some.inj (atFirst.symm.trans atSecond)
  pop group after popped := by
    obtain ⟨index, tracked, same, hands⟩ := ordered.hands (pops_of_pop popped)
    refine ⟨index, tracked, hands.found, same, hands.below, fun new other => ?_⟩
    rw [ordered.handed] at new ⊢
    rcases hands.turn with turn | before
    · rw [turn]
    · omega
  append group out := by
    have member : group ∈ course.moving := List.mem_append_left _ (List.mem_append_left _ out)
    obtain ⟨_, _, _, _, _, _, _, held, _⟩ := ordered.phase.of_moving member
    exact held

end Ordered

/-- In a run with `sync` in which reports are fair and finishes last, the groups go in the order in
which they were submitted. -/
theorem inOrder_play (groups : List TaskGroup) {rules : Rules} (mint : Mint) {acts : List Act}
    (sync : rules.sync = true) (steady : (start groups rules mint).Obeys Steady acts) :
    ((start groups rules mint).play acts).InOrder groups := by
  obtain ⟨turn, ordered⟩ := ordered_play (ordered_start groups mint sync) steady
  exact ordered.inOrder

theorem inOrder_two :
    let first := (TaskGroup.single { name := "first", id := TaskId.stamped 0 } ⟨1⟩).1
    let second := (TaskGroup.single { name := "second", id := TaskId.stamped 2 } ⟨3⟩).1
    let course := start [first, second] { sync := true } ⟨4⟩
    let acts : List Act :=
      [.pop, .launch 0, .report { task := TaskId.stamped 5, state := .finished } fun _ => 0, .pop]
    course.Obeys Steady acts ∧ (course.play acts).InOrder [first, second] := by
  intro first second course acts
  have launched : ((course.perform .pop).perform (.launch 0)).launches = [(first.renew ⟨4⟩).1] :=
    rfl
  have steady : course.Obeys Steady acts := by
    refine ⟨⟨trivial, trivial⟩, ⟨trivial, trivial⟩,
      ⟨.inl ⟨(first.renew ⟨4⟩).1, ?_, ?_⟩, fun _ => rfl⟩, ⟨trivial, trivial⟩, trivial⟩
    · rw [launched]
      exact List.mem_singleton_self _
    · exact List.mem_singleton_self _
  exact ⟨steady, inOrder_play [first, second] ⟨4⟩ rfl steady⟩

end Course
end Convoy
