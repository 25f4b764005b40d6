import Convoy.Proofs.Schedule.Coherence
import Convoy.Proofs.Schedule.Queue
import Mathlib.Data.List.Nodup
import Mathlib.Data.List.Pairwise

/-!
# Every group is in one place

A group is copied from queue to queue and gets new identities underway. Still there is one copy of
each, in one place and under the identities that the roster has, as long as no report comes for a
group before it was launched. Since a queue has places for all groups, none is ever full.
-/
namespace Convoy

/-- Where a group can be. A relaunch whose delay is over stays delayed until it is in its queue. -/
inductive Place where
  | pending | held | relaunched | delayed | out | inFlight
deriving DecidableEq

def Place.all : List Place :=
  [.pending, .held, .relaunched, .delayed, .out, .inFlight]

theorem Place.mem_all (place : Place) : place ∈ Place.all := by
  cases place <;> decide

/-- The groups that are on their way into a queue. -/
def Queue.comers (queue : Queue) : List TaskGroup :=
  queue.entering.map (·.group) ++ queue.waiting

namespace Course

open Schedule

variable {course : Course} {groups : List TaskGroup}

/-- The copies of groups at a place. -/
def copiesAt (course : Course) : Place → List TaskGroup
  | .pending => course.schedule.pending.items
  | .held => course.schedule.held.toList
  | .relaunched => course.schedule.relaunched.items
  | .delayed =>
    course.schedule.delayed.map (·.group) ++ course.schedule.pending.comers ++
      course.schedule.relaunched.comers
  | .out => course.out
  | .inFlight => course.inFlight

/-- The copies that are to be launched. -/
def waiting (course : Course) : List TaskGroup :=
  course.schedule.queued ++ course.out

/-- All copies of groups. -/
def copies (course : Course) : List TaskGroup :=
  course.waiting ++ course.inFlight

theorem copies_perm (course : Course) : (Place.all.flatMap course.copiesAt).Perm course.copies := by
  classical
  refine List.perm_iff_count.mpr fun group => ?_
  simp only [Place.all, copiesAt, copies, waiting, queued, Queue.groups, Queue.comers,
    List.flatMap_cons, List.flatMap_nil, List.append_nil, List.count_append]
  omega

theorem place_unique (nodup : course.copies.Nodup) {group : TaskGroup}
    (member : group ∈ course.copies) : ∃! place, group ∈ course.copiesAt place := by
  obtain ⟨place, _, here⟩ := List.mem_flatMap.mp (course.copies_perm.mem_iff.mpr member)
  refine ⟨place, here, fun other there => Decidable.byContradiction fun different => ?_⟩
  have apart := (List.nodup_flatMap.mp (course.copies_perm.nodup_iff.mpr nodup)).2
  have symmetric : Std.Symm (Function.onFun List.Disjoint course.copiesAt) :=
    ⟨fun _ _ disjoint _ here there => disjoint there here⟩
  exact apart.forall other.mem_all place.mem_all different there here

theorem nodup_copiesAt (nodup : course.copies.Nodup) (place : Place) :
    (course.copiesAt place).Nodup := by
  have each := (List.nodup_flatMap.mp (course.copies_perm.nodup_iff.mpr nodup)).1
  exact each place place.mem_all

/-- The copies are the groups of the roster, and a launch is of a group of the roster or of one that
was struck. The queues have places for all groups. -/
structure Owned (groups : List TaskGroup) (course : Course) : Prop where
  known : course.Known groups
  calm : course.schedule.Calm (max groups.length 1)
  balance : course.copies.Perm course.schedule.roster.groups
  launched : ∀ group ∈ course.launches,
    group ∈ course.schedule.roster.groups ∨ ∀ task ∈ group.taskIds, course.Retired task

namespace Owned

theorem nodup (owned : course.Owned groups) : course.copies.Nodup :=
  owned.balance.nodup_iff.mpr owned.known.coherent.nodup_groups

theorem live_iff (owned : course.Owned groups) {group : TaskGroup}
    (launched : group ∈ course.launches) :
    course.schedule.roster.live group = true ↔ group ∈ course.schedule.roster.groups := by
  rw [Roster.live, List.all_eq_true]
  constructor
  · intro live
    rcases owned.launched group launched with present | struck
    · exact present
    · obtain ⟨task, member⟩ := List.exists_mem_of_ne_nil _ group.taskIds_ne_nil
      have alive := live task member
      rw [(struck task member).2] at alive
      contradiction
  · intro present task member
    exact owned.known.coherent.live_of_mem present member

theorem length_eq (owned : course.Owned groups) :
    course.schedule.queued.length + course.out.length + course.inFlight.length = groups.length := by
  have balance := owned.balance.length_eq
  have size := owned.known.tracks.size
  simp only [copies, waiting, Roster.groups, List.length_append, List.length_map] at balance
  omega

/-- While a group is out or in flight, fewer groups wait than there are. -/
theorem room (owned : course.Owned groups) (away : course.out ≠ [] ∨ course.inFlight ≠ []) :
    course.schedule.queued.length < max groups.length 1 := by
  have all := owned.length_eq
  rcases away with out | flying
  · have some := List.length_pos_iff.mpr out
    omega
  · have some := List.length_pos_iff.mpr flying
    omega

theorem room_le (owned : course.Owned groups) :
    course.schedule.queued.length ≤ max groups.length 1 := by
  have all := owned.length_eq
  omega

theorem not_waiting (owned : course.Owned groups) {group : TaskGroup}
    (flying : group ∈ course.inFlight) : group ∉ course.waiting := fun waiting =>
  (List.nodup_append.mp owned.nodup).2.2 group waiting group flying rfl

/-- A fair report on a live task is on a group in flight. -/
theorem inFlight_of_fair (owned : course.Owned groups) {status : Status} {pause : Nat → Nat}
    (fair : course.Fair (.report status pause)) {index : Nat} {tracked : Tracked}
    (owner : course.schedule.roster.owner? status.task = some index)
    (found : course.schedule.roster.tracked[index]? = some tracked) :
    tracked.group ∈ course.inFlight := by
  have coherent := owned.known.coherent
  have here : tracked.group ∈ course.schedule.roster.groups :=
    List.mem_map_of_mem (List.mem_of_getElem? found)
  obtain ⟨_, there, member⟩ := coherent.owner?_iff.mp owner
  rw [found, Option.some.injEq] at there
  subst there
  rcases fair with ⟨group, launched, reported⟩ | dead
  · rcases owned.launched group launched with present | struck
    · have same := coherent.group_unique present here reported member
      subst same
      exact List.mem_filter.mpr ⟨launched, (owned.live_iff launched).mpr here⟩
    · have dead := (struck status.task reported).2
      rw [owner] at dead
      contradiction
  · rw [owner] at dead
    contradiction

/-- What became of the groups when nothing was put under fresh identities. -/
theorem of_same {after : Course} (owned : course.Owned groups) (known : after.Known groups)
    (tracked : after.schedule.roster.tracked = course.schedule.roster.tracked)
    (owners : after.schedule.roster.owners = course.schedule.roster.owners)
    (mint : after.schedule.mint = course.schedule.mint)
    (calm : after.schedule.Calm (max groups.length 1))
    (balance : after.copies.Perm course.copies)
    (launched : ∀ group ∈ after.launches,
      group ∈ course.launches ∨ group ∈ course.schedule.roster.groups) : after.Owned groups := by
  have present : after.schedule.roster.groups = course.schedule.roster.groups := by
    rw [Roster.groups, tracked, Roster.groups]
  refine ⟨known, calm, ?_, ?_⟩
  · rw [present]
    exact balance.trans owned.balance
  · intro group member
    rw [present]
    rcases launched group member with before | now
    · rcases owned.launched group before with here | struck
      · exact .inl here
      · right
        intro task among
        simp only [Retired, Roster.owner?, owners, mint]
        exact struck task among
    · exact .inl now

end Owned

theorem owned_start (groups : List TaskGroup) (rules : Rules) (mint : Mint) :
    (start groups rules mint).Owned groups := by
  refine ⟨known_start groups rules mint, ⟨⟨rfl, rfl⟩, ⟨rfl, rfl⟩⟩, ?_, by simp [start]⟩
  simp only [start, copies, waiting, inFlight, queued, Queue.groups, Schedule.start, Roster.groups,
    List.filter_nil, List.map_nil, List.append_nil, Option.toList]
  exact .refl _

theorem waiting_pop {after : Course} (performs : Performs course .pop after) :
    after.waiting.Perm course.waiting := by
  classical
  cases performs with
  | nothing => exact .refl _
  | popped pops =>
      refine List.perm_iff_count.mpr fun other => ?_
      have counted := (queued_pops pops).count_eq other
      simp only [waiting, List.count_append, List.count_cons, List.count_nil] at counted ⊢
      omega

theorem waiting_launched {position : Nat} {group : TaskGroup}
    (found : course.out[position]? = some group) :
    course.waiting.Perm
      (group :: { course with out := course.out.eraseIdx position }.waiting) := by
  refine List.Perm.trans (.append_left _ (perm_cons_eraseIdx found)) ?_
  exact List.perm_middle

theorem waiting_appended {position : Nat} {group : TaskGroup}
    {answer : Schedule × Except Failure Unit} (found : course.out[position]? = some group)
    (appends : Appends course.schedule group answer) (taken : answer.2 = .ok ()) :
    (answer.1.queued ++ course.out.eraseIdx position).Perm course.waiting := by
  refine List.Perm.trans (.append_right _ (queued_appends appends taken)) ?_
  refine List.Perm.trans List.perm_middle.symm ?_
  exact .append_left _ (perm_cons_eraseIdx found).symm

namespace Owned

variable {after : Course}

theorem pop (owned : course.Owned groups) (known : after.Known groups)
    (performs : Performs course .pop after) : after.Owned groups := by
  have waiting := waiting_pop performs
  cases performs with
  | nothing => exact owned
  | popped pops =>
      obtain ⟨roster, mint⟩ := roster_pops pops
      refine owned.of_same known (by rw [roster]) (by rw [roster]) mint
        (calm_pops pops owned.calm) ?_ (fun _ => .inl)
      simp only [copies, inFlight, roster] at waiting ⊢
      exact waiting.append_right _

theorem launch {position : Nat} (owned : course.Owned groups) (known : after.Known groups)
    (performs : Performs course (.launch position) after) : after.Owned groups := by
  classical
  cases performs with
  | nothing => exact owned
  | @launched _ group found =>
      have member : group ∈ course.schedule.roster.groups := by
        refine owned.balance.subset ?_
        simp only [copies, waiting, List.mem_append]
        exact .inl (.inr (List.mem_of_getElem? found))
      have live : course.schedule.roster.live group = true :=
        List.all_eq_true.mpr fun task present => owned.known.coherent.live_of_mem member present
      refine owned.of_same known rfl rfl rfl owned.calm ?_ ?_
      · refine List.perm_iff_count.mpr fun other => ?_
        have counted := (waiting_launched found).count_eq other
        simp only [copies, waiting, inFlight, List.filter_append, List.filter_cons, live, if_true,
          List.filter_nil, List.count_append, List.count_cons, List.count_nil] at counted ⊢
        omega
      · intro launched among
        rcases List.mem_append.mp among with before | now
        · exact .inl before
        · rw [List.mem_singleton.mp now]
          exact .inr member

theorem append_ok (owned : course.Owned groups) {group : TaskGroup} (out : group ∈ course.out)
    {answer : Schedule × Except Failure Unit} (appends : Appends course.schedule group answer) :
    answer.2 = .ok () :=
  taken_appends appends owned.calm (owned.room (.inl (List.ne_nil_of_mem out)))

theorem append {position : Nat} (owned : course.Owned groups) (known : after.Known groups)
    (performs : Performs course (.append position) after) : after.Owned groups := by
  cases performs with
  | nothing => exact owned
  | appended found appends =>
      obtain ⟨roster, mint⟩ := roster_appends appends
      have taken := owned.append_ok (List.mem_of_getElem? found) appends
      have waiting := waiting_appended found appends taken
      refine owned.of_same known (by rw [roster]) (by rw [roster]) mint
        (calm_appends appends owned.calm) ?_ (fun _ => .inl)
      simp only [copies, inFlight, roster]
      exact waiting.append_right _

theorem comeBack {position : Nat} (owned : course.Owned groups) (known : after.Known groups)
    (performs : Performs course (.comeBack position) after) : after.Owned groups := by
  cases performs with
  | nothing => exact owned
  | cameBack =>
      obtain ⟨roster, mint⟩ := roster_comeBack course.schedule position
      refine owned.of_same known (congrArg _ roster) (congrArg _ roster) mint
        (calm_comeBack owned.calm position) ?_ (fun _ => .inl)
      simp only [copies, waiting, inFlight, roster]
      exact ((queued_comeBack course.schedule position).append_right _).append_right _

theorem settle (owned : course.Owned groups) (known : after.Known groups)
    (performs : Performs course .settle after) : after.Owned groups := by
  cases performs with
  | nothing => exact owned
  | settled =>
      refine owned.of_same known rfl rfl rfl (calm_settle owned.calm owned.room_le) ?_
        (fun _ => .inl)
      exact ((queued_settle course.schedule).append_right _).append_right _

end Owned

theorem not_live_of_retired {group : TaskGroup}
    (struck : ∀ task ∈ group.taskIds, course.Retired task) :
    course.schedule.roster.live group = false := by
  obtain ⟨task, member⟩ := List.exists_mem_of_ne_nil _ group.taskIds_ne_nil
  refine List.all_eq_false.mpr ⟨task, member, ?_⟩
  simp [(struck task member).2]

namespace Owned

variable {after : Course} {status : Status} {pause : Nat → Nat} {index : Nat} {tracked : Tracked}

/-- A relaunch retires the launch of its group. Any other launch stays present or retired. -/
theorem launched_relaunch (owned : course.Owned groups) {act : Act}
    (came : course.perform act = after)
    (found : course.schedule.roster.tracked[index]? = some tracked)
    (roster : after.schedule.roster =
      (course.schedule.roster.relaunch index tracked course.schedule.mint).2.1) :
    ∀ group ∈ course.launches,
      (group = tracked.group ∧ ∀ task ∈ group.taskIds, after.Retired task) ∨
      (group ≠ tracked.group ∧ group ∈ course.schedule.roster.groups ∧
        group ∈ after.schedule.roster.groups) ∨
      (group ≠ tracked.group ∧ (∀ task ∈ group.taskIds, course.Retired task) ∧
        ∀ task ∈ group.taskIds, after.Retired task) := by
  subst came
  have coherent := owned.known.coherent
  obtain ⟨others, before, now⟩ := Roster.groups_relaunch found course.schedule.mint
  have distinct := before.nodup_iff.mp coherent.nodup_groups
  intro group launched
  rcases owned.launched group launched with present | struck
  · rcases List.mem_cons.mp (before.mem_iff.mp present) with rfl | other
    · -- Its old tasks were issued and are live no longer.
      refine .inl ⟨rfl, fun task member => ⟨?_, ?_⟩⟩
      · exact issued_perform owned.known
          (coherent.issued tracked (List.mem_of_getElem? found) task member) act
      · rw [roster]
        exact coherent.struck_relaunch found member
    · refine .inr (.inl ⟨?_, present, ?_⟩)
      · rintro rfl
        exact (List.nodup_cons.mp distinct).1 other
      · rw [roster]
        exact now.mem_iff.mpr (List.mem_cons_of_mem _ other)
  · refine .inr (.inr ⟨?_, struck, fun task member => ?_⟩)
    · rintro rfl
      have live := (owned.live_iff launched).mpr (before.mem_iff.mpr List.mem_cons_self)
      rw [not_live_of_retired struck] at live
      contradiction
    · exact retired_perform owned.known (struck task member) act

theorem inFlight_relaunch (owned : course.Owned groups) {act : Act}
    (came : course.perform act = after) (known : after.Known groups)
    (found : course.schedule.roster.tracked[index]? = some tracked)
    (flying : tracked.group ∈ course.inFlight) (nodup : course.inFlight.Nodup)
    (launches : after.launches = course.launches)
    (roster : after.schedule.roster =
      (course.schedule.roster.relaunch index tracked course.schedule.mint).2.1) :
    course.inFlight.Perm (tracked.group :: after.inFlight) := by
  classical
  have left : after.inFlight = course.inFlight.erase tracked.group := by
    rw [nodup.erase_eq_filter]
    simp only [inFlight, launches, List.filter_filter]
    refine List.filter_congr fun group launched => ?_
    rcases owned.launched_relaunch came found roster group launched with
      ⟨same, struck⟩ | ⟨other, present, stays⟩ | ⟨other, struck, stays⟩
    · rw [not_live_of_retired struck]
      simp [same]
    · have live : after.schedule.roster.live group = true :=
        List.all_eq_true.mpr fun task member => known.coherent.live_of_mem stays member
      simp [live, (owned.live_iff launched).mpr present, other]
    · simp [not_live_of_retired struck, not_live_of_retired stays]
  rw [left]
  exact List.perm_cons_erase flying

/-- The relaunch finds room in its queue: its group was in flight. -/
theorem requeue_ok (owned : course.Owned groups)
    (fair : course.Fair (.report status pause))
    (owner : course.schedule.roster.owner? status.task = some index)
    (found : course.schedule.roster.tracked[index]? = some tracked)
    {milliseconds : Nat} {answer : Schedule × Except Failure Unit}
    (requeues : Requeues (course.schedule.renewed index tracked)
      (tracked.group.renew course.schedule.mint).1 milliseconds answer) : answer.2 = .ok () := by
  have flying := owned.inFlight_of_fair fair owner found
  exact taken_requeues requeues (calm_renewed owned.calm index tracked)
    (owned.room (.inr (List.ne_nil_of_mem flying)))

theorem report (owned : course.Owned groups) (fair : course.Fair (.report status pause))
    (came : course.perform (.report status pause) = after) (known : after.Known groups)
    (performs : Performs course (.report status pause) after) : after.Owned groups := by
  classical
  cases performs with
  | nothing => exact owned
  | reported applies =>
      cases applies with
      | recorded owner final sound =>
          exact owned.of_same known rfl rfl rfl ⟨owned.calm.pending, owned.calm.relaunched⟩
            (.refl _) (fun _ => .inl)
      | relaunched owner found restarts allowed requeues =>
          have flying := owned.inFlight_of_fair fair owner found
          have queued := queued_requeues requeues (owned.requeue_ok fair owner found requeues)
          obtain ⟨roster, mint⟩ := roster_requeues requeues
          obtain ⟨others, before, now⟩ := Roster.groups_relaunch found course.schedule.mint
          have left := owned.inFlight_relaunch came known found flying
            (owned.nodup.sublist (List.sublist_append_right _ _)) rfl roster
          refine ⟨known, calm_requeues requeues (calm_renewed owned.calm _ _), ?_, ?_⟩
          · -- One copy leaves the flight and its renewal is queued. All others stay.
            rw [roster]
            refine List.Perm.trans (List.perm_iff_count.mpr fun other => ?_) now.symm
            have balance := (owned.balance.trans before).count_eq other
            have queued := queued.count_eq other
            have left := left.count_eq other
            simp only [copies, waiting, queued_renewed, List.count_append, List.count_cons] at *
            omega
          · intro group launched
            rcases owned.launched_relaunch came found roster group launched with
              ⟨_, struck⟩ | ⟨_, _, stays⟩ | ⟨_, _, struck⟩
            · exact .inr struck
            · exact .inl stays
            · exact .inr struck
      | _ =>
          exact owned.of_same known rfl rfl rfl owned.calm (.refl _) (fun _ => .inl)

end Owned

theorem owned_perform (owned : course.Owned groups) {act : Act} (fair : course.Fair act) :
    (course.perform act).Owned groups := by
  have known := known_perform owned.known act
  have performs := course.performs_perform act
  cases act with
  | pop => exact owned.pop known performs
  | launch position => exact owned.launch known performs
  | append position => exact owned.append known performs
  | report status pause => exact owned.report fair rfl known performs
  | comeBack position => exact owned.comeBack known performs
  | settle => exact owned.settle known performs
  | pass milliseconds =>
      exact owned.of_same known rfl rfl rfl ⟨owned.calm.pending, owned.calm.relaunched⟩ (.refl _)
        (fun _ => .inl)

theorem owned_play (owned : course.Owned groups) {acts : List Act}
    (fair : course.Obeys Fair acts) : (course.play acts).Owned groups :=
  play_induction (motive := Owned groups) owned
    (fun _ _ owned fair => owned_perform owned fair) fair

/-- Each group of the run is in one place, every copy is what the roster has, and no queue is ever
found full. -/
structure Sole (groups : List TaskGroup) (course : Course) : Prop where
  tracks : course.schedule.roster.Tracks groups
  total : course.schedule.total = groups.length
  disjoint : (course.schedule.roster.tracked.flatMap (·.group.taskIds)).Nodup
  place : ∀ tracked ∈ course.schedule.roster.tracked,
    ∃! place, tracked.group ∈ course.copiesAt place
  once : ∀ place, (course.copiesAt place).Nodup
  present : ∀ place, ∀ group ∈ course.copiesAt place,
    ∃ tracked ∈ course.schedule.roster.tracked, tracked.group = group
  waiting : course.schedule.pending.waiting = [] ∧ course.schedule.relaunched.waiting = []
  room : ∀ act, course.Fair act → ∀ queue, course.answer act ≠ .error (.queueFull queue)

theorem Owned.room_answer (owned : course.Owned groups) {act : Act} (fair : course.Fair act)
    (queue : String) : course.answer act ≠ .error (.queueFull queue) := by
  cases act with
  | append position =>
      cases found : course.out[position]? with
      | none => simp [answer, found]
      | some group =>
          have taken := owned.append_ok (List.mem_of_getElem? found) (appends_append _ group)
          simp [answer, found, taken]
  | report status pause =>
      have applies := applies_applyWith course.schedule pause status
      unfold answer
      dsimp only
      generalize course.schedule.applyWith pause status = result at applies
      cases applies with
      | relaunched owner found restarts allowed requeues =>
          simp [owned.requeue_ok fair owner found requeues]
      | _ => simp
  | _ => simp [answer]

theorem Owned.sole (owned : course.Owned groups)
    (total : course.schedule.total = groups.length) : course.Sole groups where
  tracks := owned.known.tracks
  total := total
  disjoint := owned.known.disjoint
  place tracked member := place_unique owned.nodup
    (owned.balance.mem_iff.mpr (List.mem_map_of_mem member))
  once := nodup_copiesAt owned.nodup
  present place group member := by
    have copy : group ∈ course.copies :=
      course.copies_perm.subset (List.mem_flatMap.mpr ⟨place, place.mem_all, member⟩)
    exact List.mem_map.mp (owned.balance.subset copy)
  waiting := ⟨owned.calm.pending.waiting, owned.calm.relaunched.waiting⟩
  room _ fair := owned.room_answer fair

/-- In a fair run every group has one owner at any time, and putting the groups into the queue one
after another at the start found room for all. -/
theorem sole_play (groups : List TaskGroup) (rules : Rules) (mint : Mint) {acts : List Act}
    (fair : (start groups rules mint).Obeys Fair acts) :
    ((start groups rules mint).play acts).Sole groups ∧
      (start groups rules mint).schedule.roster.groups.foldlM Queue.push?
        { capacity := max groups.length 1 } =
          some (start groups rules mint).schedule.pending := by
  have first := owned_start groups rules mint
  refine ⟨(owned_play first fair).sole ((fixed_play _ acts).total), ?_⟩
  have size := first.known.tracks.size
  have calm : ({ capacity := max groups.length 1 } : Queue).Calm (max groups.length 1) :=
    ⟨rfl, rfl⟩
  refine Queue.foldlM_push? calm rfl ?_
  simp only [Roster.groups, List.length_map, List.length_nil]
  omega

theorem sole_relaunch :
    let group := (TaskGroup.single { name := "sleep", id := TaskId.stamped 0 } ⟨1⟩).1
    let course := start [group] { restart := .onFailure } ⟨2⟩
    let acts : List Act :=
      [.pop, .launch 0, .report { task := TaskId.stamped 3, state := .failed } fun _ => 0]
    course.Obeys Fair acts ∧ (course.play acts).Sole [group] := by
  intro group course acts
  have launched : ((course.perform .pop).perform (.launch 0)).launches = [(group.renew ⟨2⟩).1] :=
    rfl
  have fair : course.Obeys Fair acts := by
    refine ⟨trivial, trivial, .inl ⟨(group.renew ⟨2⟩).1, ?_, ?_⟩, trivial⟩
    · rw [launched]
      exact List.mem_singleton_self _
    · exact List.mem_singleton_self _
  exact ⟨fair, (sole_play [group] { restart := .onFailure } ⟨2⟩ fair).1⟩

end Course
end Convoy
