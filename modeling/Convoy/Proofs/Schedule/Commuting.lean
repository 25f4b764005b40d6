import Convoy.Proofs.Schedule.Launches
import Convoy.Proofs.Schedule.News

/-!
# Reports on different groups commute

Without `sync` and without delays, reports on live tasks of two groups can be applied in either
order, and any interleaving of the reports on each group can be applied if one can. All of them
come to the same groups, owners, states and copies in the queue, but for the stamps that relaunches
took meanwhile and the order of the queue.
-/
namespace Convoy

open Equiv (Perm)

noncomputable def Tracked.restamp (stamps : Perm Nat) (tracked : Tracked) : Tracked :=
  { tracked with group := tracked.group.restamp stamps }

namespace Course

open Schedule

variable {course after : Course}

/-- Every group that is tracked or waits has stamps that were handed out. -/
def Stamped (course : Course) : Prop :=
  ∀ group ∈ course.schedule.roster.groups ++ course.waiting, group.Stamped course.schedule.mint

theorem waiting_subset (course : Course) {act : Act}
    (silent : ∀ status pause, act ≠ .report status pause) :
    (course.perform act).waiting ⊆ course.waiting := by
  have performs := course.performs_perform act
  generalize course.perform act = after at performs
  cases performs with
  | nothing => exact List.Subset.refl _
  | popped pops =>
      intro group member
      simp only [waiting, List.mem_append, (queued_pops pops).mem_iff, List.mem_cons] at member ⊢
      tauto
  | launched found =>
      intro group member
      exact (waiting_launched found).mem_iff.mpr (List.mem_cons_of_mem _ member)
  | appended found appends =>
      intro group member
      rcases List.mem_append.mp member with queued | out
      · rcases List.mem_cons.mp ((subperm_appends appends).subset queued) with rfl | before
        · exact List.mem_append_right _ (List.mem_of_getElem? found)
        · exact List.mem_append_left _ before
      · exact List.mem_append_right _ (List.eraseIdx_subset out)
  | reported applies => exact absurd rfl (silent _ _)
  | cameBack position =>
      exact ((queued_comeBack course.schedule position).append_right course.out).subset
  | settled => exact ((queued_settle course.schedule).append_right course.out).subset
  | passed milliseconds => exact List.Subset.refl _

theorem Stamped.quiet (stamped : course.Stamped) {act : Act}
    (silent : ∀ status pause, act ≠ .report status pause) : (course.perform act).Stamped := by
  have quiet := course.quiet_perform act silent
  intro group member
  rw [quiet.roster] at member
  rw [quiet.mint]
  refine stamped group (List.mem_append.mpr ?_)
  exact (List.mem_append.mp member).imp_right fun waits => course.waiting_subset silent waits

theorem Stamped.report (stamped : course.Stamped) (status : Status) (pause : Nat → Nat) :
    (course.perform (.report status pause)).Stamped := by
  have performs := course.performs_perform (.report status pause)
  generalize course.perform (.report status pause) = after at performs
  cases performs with
  | nothing => exact stamped
  | @reported _ _ result applies =>
      cases applies with
      | @relaunched index tracked owner found restarts allowed _ requeues =>
          obtain ⟨roster, mint⟩ := roster_requeues requeues
          obtain ⟨others, before, now⟩ := Roster.groups_relaunch found course.schedule.mint
          have fresh := TaskGroup.Stamped.renew tracked.group course.schedule.mint
          have later : course.schedule.mint.issued ≤
              (tracked.group.renew course.schedule.mint).2.issued := by
            rw [tracked.group.issued_renew]
            omega
          -- All that is new is the renewed group, in the roster and perhaps in the queue.
          have grown : ∀ group, group ∈ result.1.roster.groups ++ (result.1.queued ++ course.out) →
              group = (tracked.group.renew course.schedule.mint).1 ∨
                group ∈ course.schedule.roster.groups ++ course.waiting := by
            intro group member
            rw [roster] at member
            have queued := (subperm_requeues requeues).subset (a := group)
            have present := now.mem_iff (a := group)
            have known := before.mem_iff (a := group)
            simp only [List.mem_append, List.mem_cons, waiting, renewed] at *
            tauto
          intro group member
          rw [mint]
          rcases grown group member with rfl | known
          · exact fresh
          · exact (stamped group known).mono later
      | _ => exact stamped

theorem stamped_play (groups : List TaskGroup) (rules : Rules) (mint : Mint) (acts : List Act) :
    ((start groups rules mint).play acts).Stamped := by
  refine play_invariant ?_ (fun course act stamped => ?_) acts
  · have numbers : ((({} : Roster).addAll groups mint).2).Numbers
        (({} : Roster).addAll groups mint).1.groups := Roster.numbers_addAll (.nil mint) groups
    intro group member
    have present : group ∈ (({} : Roster).addAll groups mint).1.groups := by
      simpa [start, waiting, queued, Queue.groups, Schedule.start, Roster.groups] using member
    exact ⟨numbers.issued group present, numbers.issuedExecutors group present⟩
  · cases act with
    | report status pause => exact stamped.report status pause
    | _ => exact stamped.quiet (by simp)

theorem direct_play (groups : List TaskGroup) {rules : Rules} (mint : Mint) (acts : List Act)
    (parallel : rules.sync = false)
    (prompt : ∀ restarts share, rules.backoff.delay restarts share = 0) :
    ((start groups rules mint).play acts).schedule.Direct := by
  have fixed := (fixed_play (start groups rules mint) acts).rules
  have stamped := stamped_play groups rules mint acts
  constructor
  case coherent => exact (known_play (known_start groups rules mint) acts).coherent
  case stamped =>
    constructor
    case stations =>
      intro station member
      obtain ⟨tracked, present, rfl⟩ := List.mem_map.mp member
      exact stamped tracked.group (List.mem_append_left _ (List.mem_map_of_mem present))
    case pending =>
      intro group member
      refine stamped group (List.mem_append_right _ (List.mem_append_left _ ?_))
      simp only [queued, List.mem_append]
      exact .inl (.inl (.inl member))
  case parallel => rw [fixed]; exact parallel
  case prompt => rw [fixed]; exact prompt

end Course

namespace Schedule

variable {schedule after first second : Schedule} {news : News} {stamps : Perm Nat}

/-- The second schedule has what the first one has, under other stamps and in any order of the
queue. -/
structure Restamped (stamps : Perm Nat) (first second : Schedule) : Prop where
  mint : second.mint = first.mint
  tracked : second.roster.tracked = first.roster.tracked.map (Tracked.restamp stamps)
  owners : ∀ task, second.roster.owner? (TaskId.restamp stamps task) = first.roster.owner? task
  states : ∀ task, second.roster.state? (TaskId.restamp stamps task) = first.roster.state? task
  pending : second.pending.groups.Perm (first.pending.groups.map (TaskGroup.restamp stamps))
  relaunched : second.relaunched = first.relaunched
  held : second.held = first.held
  delayed : second.delayed = first.delayed

/-- The schedules are the same but for stamps that were handed out since an early mint and the order
of the queue. -/
def SameSince (early : Mint) (first second : Schedule) : Prop :=
  ∃ stamps, MovesBetween early first.mint stamps ∧ Restamped stamps first second

theorem tracked_of_outline (same : second.outline = first.outline.restamp stamps) :
    second.roster.tracked = first.roster.tracked.map (Tracked.restamp stamps) := by
  let forget (station : Station) : Tracked := ⟨station.group, station.restarts⟩
  have stations := congrArg (fun outline => outline.stations.map forget) same
  simp only [outline, Outline.restamp, List.map_map] at stations
  exact ((List.map_id _).symm.trans stations)

theorem states_of_outline (same : second.outline = first.outline.restamp stamps) {tracked : Tracked}
    (member : tracked ∈ first.roster.tracked) {task : TaskId}
    (present : task ∈ tracked.group.taskIds) :
    second.roster.state? (TaskId.restamp stamps task) = first.roster.state? task := by
  have stations := congrArg Outline.stations same
  simp only [outline, Outline.restamp, tracked_of_outline same, List.map_map] at stations
  have states := congrArg Station.states (List.map_inj_left.mp stations tracked member)
  simp only [Function.comp_apply, Roster.station, Tracked.restamp, TaskGroup.taskIds_restamp,
    Station.restamp, List.map_map] at states
  exact List.map_inj_left.mp states task present

theorem restamped_of_outline (direct : first.Direct) (other : second.Direct)
    (same : second.outline = first.outline.restamp stamps) : Restamped stamps first second := by
  have tracked := tracked_of_outline same
  have owners (task : TaskId) :
      second.roster.owner? (TaskId.restamp stamps task) = first.roster.owner? task := by
    refine Option.ext fun index => ?_
    rw [other.coherent.owner?_iff, direct.coherent.owner?_iff, tracked]
    simp only [List.getElem?_map, Option.map_eq_some_iff, exists_exists_and_eq_and,
      Tracked.restamp, TaskGroup.taskIds_restamp,
      List.mem_map_of_injective (TaskId.restamp stamps).injective]
  constructor
  case mint => exact congrArg Outline.mint same
  case tracked => exact tracked
  case owners => exact owners
  case states =>
    intro task
    cases owner : first.roster.owner? task with
    | some index =>
        obtain ⟨known, found, present⟩ := direct.coherent.owner?_iff.mp owner
        exact states_of_outline same (List.mem_of_getElem? found) present
    | none =>
        have silent := direct.coherent.state?_isSome task
        have silentToo := other.coherent.state?_isSome (TaskId.restamp stamps task)
        rw [owners, owner, Option.isSome_none] at silentToo
        rw [owner, Option.isSome_none] at silent
        rw [Option.isSome_eq_false_iff, Option.isNone_iff_eq_none] at silent silentToo
        rw [silent, silentToo]
  case pending =>
    have groups := congrArg Outline.pending same
    simp only [outline, Outline.restamp, Multiset.map_coe] at groups
    exact Multiset.coe_eq_coe.mp groups
  case relaunched => exact congrArg Outline.relaunched same
  case held => exact congrArg Outline.held same
  case delayed => exact congrArg Outline.delayed same

theorem Restamped.finished (restamped : Restamped stamps first second) (direct : first.Direct)
    (other : second.Direct) : second.roster.finished = first.roster.finished := by
  rw [Bool.eq_iff_iff, Roster.finished_iff other.coherent, Roster.finished_iff direct.coherent,
    restamped.tracked, List.forall_mem_map]
  refine forall₂_congr fun tracked _ => ?_
  simp only [Roster.Done, Tracked.restamp, TaskGroup.taskIds_restamp, List.forall_mem_map,
    restamped.states]

theorem Direct.hearAll?_interleaved (direct : schedule.Direct) {reports others : List News}
    (streams : SameStreams reports others) (heard : schedule.hearAll? reports = some after) :
    ∃ last, schedule.hearAll? others = some last ∧ SameSince schedule.mint after last ∧
      last.roster.finished = after.roster.finished := by
  obtain ⟨before, here⟩ := direct.hearAll? reports
  obtain ⟨behind, there⟩ := direct.hearAll? others
  rw [heard, Option.map_some] at before
  obtain ⟨outline, taken, stamps, moves, same⟩ :=
    Outline.hearAll?_interleaved direct.stamped streams before
  obtain ⟨last, all, rfl⟩ := Option.map_eq_some_iff.mp (behind.symm.trans taken)
  have restamped := restamped_of_outline (here after heard) (there last all) same
  have finished := restamped.finished (here after heard) (there last all)
  exact ⟨last, all, ⟨stamps, moves, restamped⟩, finished⟩

theorem addressee?_eq (schedule : Schedule) (news : News) : schedule.addressee? news =
    schedule.outline.stations[news.index]?.bind fun station =>
      if station.restarts = news.attempt then station.group.taskIds[news.position]? else none := by
  simp only [addressee?, outline, List.getElem?_map]
  cases schedule.roster.tracked[news.index]? <;> rfl

theorem Direct.addressee?_elsewhere (direct : schedule.Direct) {other : News}
    (heard : schedule.hear? other = some after) (different : news.index ≠ other.index) :
    after.addressee? news = schedule.addressee? news := by
  rw [addressee?_eq, addressee?_eq, (direct.hears heard).2.elsewhere different]

theorem hear?_iff (named : schedule.addressee? news = some news.status.task) :
    schedule.hear? news = some after ↔ schedule.apply news.status = (after, .ok ()) := by
  simp only [hear?, named]
  rcases schedule.apply news.status with ⟨next, _ | _⟩ <;> simp

/-- Every report on a live task is news, on the group that owns the task. -/
theorem Direct.exists_news (direct : schedule.Direct) {status : Status} {index : Nat}
    (owner : schedule.roster.owner? status.task = some index) :
    ∃ news : News, news.index = index ∧ news.status = status ∧
      schedule.addressee? news = some status.task := by
  obtain ⟨tracked, found, member⟩ := direct.coherent.owner?_iff.mp owner
  obtain ⟨position, place⟩ := List.mem_iff_getElem?.mp member
  exact ⟨⟨index, tracked.restarts, position, status⟩, rfl, rfl, by simp [addressee?, found, place]⟩

/-- Reports on different groups can be applied in any order, and it makes no difference. -/
structure Commutes (schedule : Schedule) : Prop where
  pairs : ∀ (one two : Status) (first second : Nat),
    schedule.roster.owner? one.task = some first → schedule.roster.owner? two.task = some second →
    first ≠ second → ∀ middle after,
      schedule.apply one = (middle, .ok ()) → middle.apply two = (after, .ok ()) →
        ∃ between last, schedule.apply two = (between, .ok ()) ∧
          between.apply one = (last, .ok ()) ∧ SameSince schedule.mint after last
  addressed : ∀ (status : Status) (index : Nat),
    schedule.roster.owner? status.task = some index → ∃ news : News, news.index = index ∧
      news.status = status ∧ schedule.addressee? news = some status.task
  streams : ∀ reports others : List News, SameStreams reports others →
    ∀ after, schedule.hearAll? reports = some after →
      ∃ last, schedule.hearAll? others = some last ∧ SameSince schedule.mint after last ∧
        last.roster.finished = after.roster.finished

theorem Direct.commutes (direct : schedule.Direct) : schedule.Commutes := by
  constructor
  case addressed => exact fun _ _ => direct.exists_news
  case streams => exact fun _ _ streams _ => direct.hearAll?_interleaved streams
  case pairs =>
    rintro _ _ _ _ ownerOne ownerTwo different middle after appliedOne appliedTwo
    obtain ⟨one, rfl, rfl, namedOne⟩ := direct.exists_news ownerOne
    obtain ⟨two, rfl, rfl, namedTwo⟩ := direct.exists_news ownerTwo
    have heardOne := (hear?_iff namedOne).mpr appliedOne
    have stillTwo := (direct.addressee?_elsewhere heardOne different.symm).trans namedTwo
    have both : schedule.hearAll? [one, two] = some after := by
      simp [Schedule.hearAll?, heardOne, (hear?_iff stillTwo).mpr appliedTwo]
    obtain ⟨last, taken, same, -⟩ := direct.hearAll?_interleaved (.pair different) both
    simp only [Schedule.hearAll?, List.foldlM_cons, List.foldlM_nil, Option.bind_eq_bind,
      Option.bind_eq_some_iff, Option.pure_def, Option.some.injEq, exists_eq_right] at taken
    obtain ⟨between, heardTwo, heardOne⟩ := taken
    have stillOne := (direct.addressee?_elsewhere heardTwo different).trans namedOne
    exact ⟨between, last, (hear?_iff namedTwo).mp heardTwo, (hear?_iff stillOne).mp heardOne, same⟩

end Schedule

namespace Course

/-- At any time of a run without `sync` and without delays, reports on different groups commute. -/
theorem commutes_play (groups : List TaskGroup) {rules : Rules} (mint : Mint) (acts : List Act)
    (parallel : rules.sync = false)
    (prompt : ∀ restarts share, rules.backoff.delay restarts share = 0) :
    ((start groups rules mint).play acts).schedule.Commutes :=
  (direct_play groups mint acts parallel prompt).commutes

/-- Two groups in flight whose tasks fail, so that both are started again. -/
theorem commutes_failing :
    let group (name : String) (number : Nat) : TaskGroup :=
      { tasks := [{ name := name, id := .stamped number }]
        networks := []
        executor := { id := .stamped (number + 1) }
        hasTask := by simp }
    let rules : Rules := { restart := .onFailure }
    let failed (number : Nat) : Status := { task := .stamped number, state := .failed }
    let schedule := ((start [group "a" 0, group "b" 2] rules ⟨4⟩).play
      [.pop, .launch 0, .pop, .launch 0]).schedule
    (rules.sync = false ∧ ∀ restarts share, rules.backoff.delay restarts share = 0) ∧
      schedule.Commutes ∧
      (schedule.apply (failed 5)).2 = .ok () ∧
      ((schedule.apply (failed 5)).1.apply (failed 7)).2 = .ok () := by
  intro group rules failed schedule
  have prompt (restarts : Nat) (share : Float) : rules.backoff.delay restarts share = 0 := rfl
  exact ⟨⟨rfl, prompt⟩, commutes_play [group "a" 0, group "b" 2] ⟨4⟩ _ rfl prompt,
    by decide +kernel, by decide +kernel⟩

end Course
end Convoy
