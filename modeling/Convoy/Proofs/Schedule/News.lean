import Convoy.Proofs.Schedule.Outline

/-!
# Reports by place

A schedule takes in reports that are addressed by the place of their task. Without `sync` and
without delays it does so as its outline does: a report that is recorded puts one state in its
place, a relaunch puts the group under fresh identities and into the queue, and both refuse the
same reports.
-/
namespace Convoy

namespace Roster

variable {roster later : Roster} {mint : Mint} {index position : Nat} {tracked next : Tracked}

def station (roster : Roster) (tracked : Tracked) : Station where
  group := tracked.group
  restarts := tracked.restarts
  states := tracked.group.taskIds.map roster.state?

theorem stations_set (before : roster.tracked[index]? = some tracked)
    (here : later.tracked = roster.tracked.set index next)
    (elsewhere : ∀ other known, other ≠ index → roster.tracked[other]? = some known →
      ∀ task ∈ known.group.taskIds, later.state? task = roster.state? task) :
    later.tracked.map later.station =
      (roster.tracked.map roster.station).set index (later.station next) := by
  have bound := (List.getElem?_eq_some_iff.mp before).1
  refine List.ext_getElem? fun other => ?_
  rw [here, List.getElem?_map]
  by_cases same : other = index
  · subst other
    rw [List.getElem?_set_self bound, List.getElem?_set_self (by rwa [List.length_map]),
      Option.map_some]
  · rw [List.getElem?_set_ne (Ne.symm same), List.getElem?_set_ne (Ne.symm same), List.getElem?_map]
    cases known : roster.tracked[other]? with
    | none => rfl
    | some tracked =>
        have states := List.map_congr_left (elsewhere other tracked same known)
        rw [Option.map_some, Option.map_some, station, station, states]

/-- A report puts one state in its place. -/
theorem station_report (distinct : tracked.group.taskIds.Nodup) {task : TaskId}
    (place : tracked.group.taskIds[position]? = some task) (state : TaskState) :
    (roster.report task state).station tracked =
      { roster.station tracked with
        states := (roster.station tracked).states.set position (some state) } := by
  have states : tracked.group.taskIds.map (roster.report task state).state? =
      (tracked.group.taskIds.map roster.state?).set position (some state) := by
    refine List.ext_getElem? fun other => ?_
    rw [List.getElem?_map]
    by_cases same : other = position
    · subst other
      have bound := (List.getElem?_eq_some_iff.mp place).1
      rw [place, Option.map_some, state?_report, if_pos rfl,
        List.getElem?_set_self (by rwa [List.length_map])]
    · rw [List.getElem?_set_ne (Ne.symm same), List.getElem?_map]
      cases there : tracked.group.taskIds[other]? with
      | none => rfl
      | some known =>
          have different : known ≠ task := by
            rintro rfl
            obtain ⟨bound, found⟩ := List.getElem?_eq_some_iff.mp place
            obtain ⟨within, known⟩ := List.getElem?_eq_some_iff.mp there
            exact same ((distinct.getElem_inj_iff).mp (known.trans found.symm))
          rw [Option.map_some, Option.map_some, state?_report, if_neg different]
  rw [station, states]
  rfl

theorem stations_report (coherent : roster.Coherent mint)
    (found : roster.tracked[index]? = some tracked) {task : TaskId}
    (place : tracked.group.taskIds[position]? = some task) (state : TaskState) :
    (roster.report task state).tracked.map (roster.report task state).station =
      (roster.tracked.map roster.station).set index
        { roster.station tracked with
          states := (roster.station tracked).states.set position (some state) } := by
  have distinct := coherent.distinct tracked (List.mem_of_getElem? found)
  have same : (roster.report task state).tracked = roster.tracked.set index tracked := by
    obtain ⟨bound, rfl⟩ := List.getElem?_eq_some_iff.mp found
    exact (List.set_getElem_self bound).symm
  rw [stations_set found same, station_report distinct place]
  intro other known apart there task' member
  rw [state?_report, if_neg]
  rintro rfl
  exact apart (coherent.index_unique there found member (List.mem_of_getElem? place))

theorem stations_relaunch (coherent : roster.Coherent mint)
    (found : roster.tracked[index]? = some tracked) :
    let later := (roster.relaunch index tracked mint).2.1
    later.tracked.map later.station =
      (roster.tracked.map roster.station).set index
        ((roster.station tracked).relaunched (tracked.group.renew mint).1) := by
  intro later
  have states : (tracked.group.renew mint).1.taskIds.map later.state? =
      (tracked.group.taskIds.map roster.state?).map fun _ => some .starting := by
    have starting : ∀ task ∈ (tracked.group.renew mint).1.taskIds,
        later.state? task = some .starting := fun task member => by
      rw [state?_relaunch, if_pos member]
    rw [List.map_congr_left starting, List.map_const', List.map_const', List.length_map,
      TaskGroup.taskIds_renew, List.length_map, List.length_range']
    exact congrArg (List.replicate · _) (List.length_map _).symm
  rw [stations_set found (tracked_relaunch roster index tracked mint), station, states]
  · rfl
  · intro other known apart there task member
    have owner := coherent.owner?_iff.mpr ⟨known, there, member⟩
    refine coherent.state?_relaunch_of_live (by rw [owner, Option.isSome_some]) fun old => ?_
    exact apart (coherent.index_unique there found member old)

end Roster

theorem Queue.lt_of_push? {queue after : Queue} {group : TaskGroup}
    (pushed : queue.push? group = some after) : queue.load < queue.capacity := by
  unfold push? at pushed
  split at pushed
  · rename_i room
    exact of_decide_eq_true room
  · contradiction

theorem Queue.not_lt_of_full {queue : Queue} {group : TaskGroup}
    (full : queue.push? group = none) : ¬ queue.load < queue.capacity := by
  intro room
  simp [push?, hasRoom, room] at full

namespace Schedule

variable {schedule after : Schedule} {news : News}

/-- The task that news are about, if its group is at that attempt. -/
def addressee? (schedule : Schedule) (news : News) : Option TaskId :=
  match schedule.roster.tracked[news.index]? with
  | none => none
  | some tracked =>
    if tracked.restarts = news.attempt then tracked.group.taskIds[news.position]? else none

/-- The schedule after news, unless they are answered by a failure. News of another attempt are on a
task that is not live. -/
def hear? (schedule : Schedule) (news : News) : Option Schedule :=
  match schedule.addressee? news with
  | none => some schedule
  | some task =>
    match schedule.apply { news.status with task := task } with
    | (after, .ok ()) => some after
    | (_, .error _) => none

def hearAll? (schedule : Schedule) (reports : List News) : Option Schedule :=
  reports.foldlM hear? schedule

def outline (schedule : Schedule) : Outline where
  rules := schedule.rules
  mint := schedule.mint
  stations := schedule.roster.tracked.map schedule.roster.station
  pending := schedule.pending.groups
  load := schedule.pending.load
  capacity := schedule.pending.capacity
  relaunched := schedule.relaunched
  held := schedule.held
  delayed := schedule.delayed

/-- Relaunches go to the one queue at once, and every copy in it has stamps that were handed out. -/
structure Direct (schedule : Schedule) : Prop where
  coherent : schedule.roster.Coherent schedule.mint
  stamped : schedule.outline.Stamped
  parallel : schedule.rules.sync = false
  prompt : ∀ restarts share, schedule.rules.backoff.delay restarts share = 0

theorem grants_eq (schedule : Schedule) (restarts : Nat) :
    schedule.rules.grants restarts = !schedule.isSpent restarts := by
  unfold Rules.grants isSpent
  cases schedule.rules.maxRestarts with
  | none => rfl
  | some limit => rw [← decide_not]; exact decide_eq_decide.mpr Nat.not_le.symm

theorem outline_put_same {index : Nat} {tracked : Tracked}
    (found : schedule.roster.tracked[index]? = some tracked) :
    schedule.outline.put index (schedule.roster.station tracked) = schedule.outline := by
  have known : (schedule.roster.tracked.map schedule.roster.station)[index]? =
      some (schedule.roster.station tracked) := by rw [List.getElem?_map, found, Option.map_some]
  obtain ⟨bound, same⟩ := List.getElem?_eq_some_iff.mp known
  rw [Outline.put, ← same]
  exact congrArg (fun stations => { schedule.outline with stations := stations })
    (List.set_getElem_self bound)

namespace Direct

variable {index : Nat} {tracked : Tracked} {status : Status}

/-- A report that is recorded. -/
theorem record (direct : schedule.Direct) (found : schedule.roster.tracked[index]? = some tracked)
    {position : Nat} (place : tracked.group.taskIds[position]? = some status.task) :
    (schedule.record index status.task status.state).outline =
      schedule.outline.put index { schedule.roster.station tracked with
        states := (schedule.roster.station tracked).states.set position (some status.state) } :=
  congrArg (fun stations => { schedule.outline with stations := stations })
    (Roster.stations_report direct.coherent found place status.state)

/-- A relaunch that finds room. -/
theorem relaunch (direct : schedule.Direct) (found : schedule.roster.tracked[index]? = some tracked)
    {pending : Queue}
    (pushed : schedule.pending.push? (tracked.group.renew schedule.mint).1 = some pending) :
    ({ schedule.renewed index tracked with pending := pending } : Schedule).outline =
      schedule.outline.relaunch index (schedule.roster.station tracked) := by
  have stations := Roster.stations_relaunch direct.coherent found
  have groups : (pending.groups : Multiset TaskGroup) =
      (tracked.group.renew schedule.mint).1 ::ₘ schedule.pending.groups :=
    (Multiset.coe_eq_coe.mpr (Queue.groups_push? pushed)).trans (Multiset.cons_coe _ _).symm
  have same := Queue.push?_eq_some pushed
  have load : pending.load = schedule.pending.load + 1 := by
    rw [same, Queue.load, Queue.load, List.length_append, List.length_singleton]
    exact Nat.add_right_comm _ _ _
  have capacity : pending.capacity = schedule.pending.capacity := by rw [same]
  simp only [outline, Outline.relaunch, renewed, groups, load, capacity, stations]
  rfl

end Direct

/-- Taking in news comes to the same on the outline. -/
structure Agrees (schedule : Schedule) (news : News) : Prop where
  outline : schedule.outline.hear? news = (schedule.hear? news).map outline
  coherent : ∀ after, schedule.hear? news = some after → after.roster.Coherent after.mint
  rules : ∀ after, schedule.hear? news = some after → after.rules = schedule.rules

theorem Agrees.of_taken (taken : schedule.hear? news = some after)
    (outline : Outline.Hears schedule.outline news after.outline)
    (coherent : after.roster.Coherent after.mint) (rules : after.rules = schedule.rules) :
    schedule.Agrees news := by
  refine ⟨by rw [taken, Option.map_some, Outline.hear?_eq_some.mpr outline], ?_, ?_⟩
  · intro other same
    exact Option.some.inj (taken.symm.trans same) ▸ coherent
  · intro other same
    exact Option.some.inj (taken.symm.trans same) ▸ rules

theorem Agrees.of_refused (refused : schedule.hear? news = none)
    (outline : schedule.outline.hear? news = none) : schedule.Agrees news := by
  refine ⟨by rw [refused, outline, Option.map_none], ?_, ?_⟩
  · intro other same
    cases refused.symm.trans same
  · intro other same
    cases refused.symm.trans same

theorem Direct.agrees_of_live (direct : schedule.Direct) {tracked : Tracked} {task : TaskId}
    (found : schedule.roster.tracked[news.index]? = some tracked)
    (attempt : tracked.restarts = news.attempt)
    (place : tracked.group.taskIds[news.position]? = some task) : schedule.Agrees news := by
  let status := { news.status with task := task }
  have known : schedule.outline.stations[news.index]? = some (schedule.roster.station tracked) :=
    List.getElem?_map.trans (congrArg _ found)
  have here : (schedule.roster.station tracked).restarts = news.attempt ∧
      news.position < (schedule.roster.station tracked).states.length := by
    refine ⟨attempt, ?_⟩
    rw [Roster.station, List.length_map]
    exact (List.getElem?_eq_some_iff.mp place).1
  have reaction : (schedule.roster.station tracked).reaction schedule.rules news = _ := if_pos here
  have grants := schedule.grants_eq tracked.restarts
  have owned : schedule.roster.owner? task = some news.index :=
    direct.coherent.owner?_iff.mpr ⟨tracked, found, List.mem_of_getElem? place⟩
  have heard : schedule.hear? news = match schedule.apply status with
      | (after, .ok ()) => some after
      | (_, .error _) => none := by
    simp only [hear?, addressee?, found, if_pos attempt, place]
    rfl
  have applies := applies_applyWith schedule schedule.pause status
  change Applies schedule _ _ (schedule.apply status) at applies
  generalize schedule.apply status = answer at applies heard
  cases applies with
  | unknown absent => cases absent.symm.trans owned
  | untracked owner absent =>
      cases owner.symm.trans owned
      cases absent.symm.trans found
  | spent owner there restarts spent =>
      cases owner.symm.trans owned
      cases there.symm.trans found
      rw [if_pos restarts, if_neg (by simp [Roster.station, grants, spent])] at reaction
      exact .of_refused heard (Outline.hear?_of_refused known reaction)
  | relaunched owner there restarts allowed requeues =>
      cases owner.symm.trans owned
      cases there.symm.trans found
      rw [if_pos restarts, if_pos (by simp [Roster.station, grants, allowed])] at reaction
      cases requeues with
      | delayed late => exact absurd (direct.prompt _ _) late
      | relaunched sync pushed => cases sync.symm.trans direct.parallel
      | queued parallel pushed =>
          have outline := direct.relaunch found pushed
          refine .of_taken heard ?_ (direct.coherent.relaunch found) rfl
          rw [outline]
          exact .again known reaction (Queue.lt_of_push? pushed)
      | relaunchedFull sync full => cases sync.symm.trans direct.parallel
      | pendingFull parallel full =>
          exact .of_refused heard (Outline.hear?_of_full known reaction (Queue.not_lt_of_full full))
  | fatal owner final failed =>
      have once : schedule.rules.restart.restarts news.status.state.outcome ≠ true :=
        Bool.eq_false_iff.mp final
      rw [if_neg once, if_pos failed] at reaction
      exact .of_refused heard (Outline.hear?_of_refused known reaction)
  | recorded owner final sound =>
      cases owner.symm.trans owned
      have once : schedule.rules.restart.restarts news.status.state.outcome ≠ true :=
        Bool.eq_false_iff.mp final
      rw [if_neg once, if_neg sound] at reaction
      have outline := direct.record found
        (show tracked.group.taskIds[news.position]? = some status.task from place)
      refine .of_taken heard ?_ (direct.coherent.report owned status.state) rfl
      rw [outline]
      exact .noted known reaction

theorem Direct.agrees (direct : schedule.Direct) (news : News) : schedule.Agrees news := by
  have silent (none : schedule.addressee? news = none)
      (outline : Outline.Hears schedule.outline news schedule.outline) : schedule.Agrees news :=
    .of_taken (by rw [hear?, none]) outline direct.coherent rfl
  cases found : schedule.roster.tracked[news.index]? with
  | none =>
      refine silent (by simp only [addressee?, found]) (.unknown ?_)
      exact List.getElem?_map.trans (congrArg _ found)
  | some tracked =>
      by_cases live : tracked.restarts = news.attempt ∧
          news.position < tracked.group.taskIds.length
      · exact direct.agrees_of_live found live.1 (List.getElem?_eq_getElem live.2)
      · have reaction : (schedule.roster.station tracked).reaction schedule.rules news =
            .noted (schedule.roster.station tracked).states :=
          if_neg (by simpa [Roster.station] using live)
        refine silent ?_ ?_
        · simp only [addressee?, found]
          split
          · rename_i attempt
            exact List.getElem?_eq_none (Nat.le_of_not_lt fun within => live ⟨attempt, within⟩)
          · rfl
        · have same := outline_put_same found
          have hears : Outline.Hears schedule.outline news _ :=
            .noted (List.getElem?_map.trans (congrArg _ found)) reaction
          rwa [same] at hears

theorem Direct.hears (direct : schedule.Direct) (heard : schedule.hear? news = some after) :
    after.Direct ∧ Outline.Hears schedule.outline news after.outline := by
  have agrees := direct.agrees news
  have outline : Outline.Hears schedule.outline news after.outline :=
    Outline.hear?_eq_some.mp (by rw [agrees.outline, heard, Option.map_some])
  have rules := agrees.rules after heard
  exact ⟨⟨agrees.coherent after heard, direct.stamped.hears outline, by rw [rules, direct.parallel],
    fun restarts share => by rw [rules, direct.prompt]⟩, outline⟩

theorem Direct.hearAll? (direct : schedule.Direct) (reports : List News) :
    schedule.outline.hearAll? reports = (schedule.hearAll? reports).map outline ∧
      ∀ after, schedule.hearAll? reports = some after → after.Direct := by
  induction reports generalizing schedule with
  | nil => exact ⟨rfl, fun after same => Option.some.inj same ▸ direct⟩
  | cons news rest ih =>
      rw [Outline.hearAll?, Schedule.hearAll?, List.foldlM_cons, List.foldlM_cons,
        (direct.agrees news).outline]
      cases heard : schedule.hear? news with
      | none => exact ⟨rfl, fun after same => by cases same⟩
      | some middle => exact ih (direct.hears heard).1

end Schedule
end Convoy
