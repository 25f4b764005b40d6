import Convoy.Proofs.Schedule.Roster
import Convoy.Proofs.Schedule.Steps

/-!
# The tables of a roster agree with its groups

Whatever is done to a schedule, its two tables have the present tasks of its groups as keys and
nothing else, and a task that a relaunch struck never comes back. So a schedule is finished exactly
when every present task was last heard of as finished.
-/
namespace Convoy

namespace Schedule

variable {schedule after : Schedule} {group : TaskGroup}

theorem roster_pops (pops : Pops schedule group after) :
    after.roster = schedule.roster ∧ after.mint = schedule.mint := by
  cases pops with
  | relaunched sync taken => exact ⟨rfl, rfl⟩
  | opened sync empty gate next => cases next <;> exact ⟨rfl, rfl⟩
  | parallel parallel next => cases next <;> exact ⟨rfl, rfl⟩

theorem roster_appends {answer : Schedule × Except Failure Unit}
    (appends : Appends schedule group answer) :
    answer.1.roster = schedule.roster ∧ answer.1.mint = schedule.mint := by
  cases appends <;> exact ⟨rfl, rfl⟩

theorem roster_requeues {milliseconds : Nat} {answer : Schedule × Except Failure Unit}
    (requeues : Requeues schedule group milliseconds answer) :
    answer.1.roster = schedule.roster ∧ answer.1.mint = schedule.mint := by
  cases requeues <;> exact ⟨rfl, rfl⟩

/-- The group that is relaunched, under its fresh identities. -/
theorem tracked_requeues {index milliseconds : Nat} {tracked : Tracked}
    {answer : Schedule × Except Failure Unit}
    (found : schedule.roster.tracked[index]? = some tracked)
    (requeues : Requeues (schedule.renewed index tracked) group milliseconds answer) :
    answer.1.roster.tracked[index]? =
      some { group := (tracked.group.renew schedule.mint).1, restarts := tracked.restarts + 1 } := by
  rw [(roster_requeues requeues).1]
  exact Roster.tracked_relaunch_self found schedule.mint

theorem tracked_requeues_other {index other milliseconds : Nat} {tracked : Tracked}
    {answer : Schedule × Except Failure Unit} (different : other ≠ index)
    (requeues : Requeues (schedule.renewed index tracked) group milliseconds answer) :
    answer.1.roster.tracked[other]? = schedule.roster.tracked[other]? := by
  rw [(roster_requeues requeues).1]
  exact Roster.tracked_relaunch_other different tracked schedule.mint

theorem roster_comeBack (schedule : Schedule) (position : Nat) :
    (schedule.comeBack position).roster = schedule.roster ∧
      (schedule.comeBack position).mint = schedule.mint := by
  unfold comeBack arrive
  split
  · exact ⟨rfl, rfl⟩
  · split <;> exact ⟨rfl, rfl⟩

/-- A report that starts nothing again and is no failure is recorded. -/
theorem applyWith_eq_record {index : Nat} {status : Status} (pause : Nat → Nat)
    (owner : schedule.roster.owner? status.task = some index)
    (final : schedule.rules.restart.restarts status.state.outcome = false)
    (sound : status.state.outcome ≠ .failed) :
    schedule.applyWith pause status =
      (schedule.record index status.task status.state, .ok ()) := by
  simp [applyWith, owner, final, sound]

/-- A report on a group that is done leaves the gate alone. -/
theorem record_of_done {index : Nat} {tracked : Tracked}
    (found : schedule.roster.tracked[index]? = some tracked)
    (done : schedule.roster.Done tracked) (task : TaskId) (state : TaskState) :
    schedule.record index task state =
      { schedule with roster := schedule.roster.report task state } := by
  simp only [record, (Roster.groupFinished_iff found).mpr done, if_true]

end Schedule

theorem Roster.Coherent.indexOf? {roster : Roster} {mint : Mint} {index : Nat} {tracked : Tracked}
    (coherent : roster.Coherent mint) (found : roster.tracked[index]? = some tracked) :
    roster.indexOf? tracked.group = some index := by
  unfold Roster.indexOf?
  cases ids : tracked.group.taskIds with
  | nil => exact absurd ids tracked.group.taskIds_ne_nil
  | cons task rest =>
      exact coherent.owner?_iff.mpr ⟨tracked, found, by rw [ids]; exact List.mem_cons_self⟩

/-- The state in a task's last report. -/
def lastHeard (heard : List Status) (task : TaskId) : Option TaskState :=
  (heard.filter fun status => decide (status.task = task)).getLast?.map (·.state)

theorem lastHeard_append (heard : List Status) (status : Status) (task : TaskId) :
    lastHeard (heard ++ [status]) task =
      if status.task = task then some status.state else lastHeard heard task := by
  unfold lastHeard
  by_cases same : status.task = task
  · simp [same]
  · simp [same]

theorem lastHeard_eq_none {heard : List Status} {task : TaskId}
    (silent : ∀ status ∈ heard, status.task ≠ task) : lastHeard heard task = none := by
  have none : heard.filter (fun status => decide (status.task = task)) = [] :=
    List.filter_eq_nil_iff.mpr fun status member => by simpa using silent status member
  simp [lastHeard, none]

theorem lastHeard_mem {heard : List Status} {task : TaskId} {state : TaskState}
    (last : lastHeard heard task = some state) :
    ∃ status ∈ heard, status.task = task ∧ status.state = state := by
  obtain ⟨status, found, same⟩ := Option.map_eq_some_iff.mp last
  obtain ⟨member, named⟩ := List.mem_filter.mp (List.mem_of_getLast? found)
  exact ⟨status, member, by simpa using named, same⟩

theorem lastHeard_isSome {heard : List Status} {status : Status} (member : status ∈ heard) :
    ∃ state, lastHeard heard status.task = some state := by
  have named : status ∈ heard.filter fun other => decide (other.task = status.task) :=
    List.mem_filter.mpr ⟨member, by simp⟩
  have last := List.getLast?_eq_some_getLast (List.ne_nil_of_mem named)
  exact ⟨_, by rw [lastHeard, last]; rfl⟩

namespace Course

open Schedule

variable {course : Course} {groups : List TaskGroup}

/-- The roster is coherent, and the states are those of the last reports. A task that did not report
is starting. -/
structure Known (groups : List TaskGroup) (course : Course) : Prop where
  coherent : course.schedule.roster.Coherent course.schedule.mint
  tracks : course.schedule.roster.Tracks groups
  issued : ∀ status ∈ course.heard, course.schedule.mint.Issued status.task
  states : ∀ task, (course.schedule.roster.owner? task).isSome →
    course.schedule.roster.state? task = some ((lastHeard course.heard task).getD .starting)

/-- The rules and the size of a run never change. -/
structure Fixed (before after : Schedule) : Prop where
  rules : after.rules = before.rules
  total : after.total = before.total

theorem fixed_perform (course : Course) (act : Act) :
    Fixed course.schedule (course.perform act).schedule := by
  have performs := course.performs_perform act
  generalize course.perform act = after at performs
  cases performs with
  | popped pops =>
      cases pops with
      | relaunched sync taken => exact ⟨rfl, rfl⟩
      | opened sync empty gate next => cases next <;> exact ⟨rfl, rfl⟩
      | parallel parallel next => cases next <;> exact ⟨rfl, rfl⟩
  | appended found appends => cases appends <;> exact ⟨rfl, rfl⟩
  | reported applies =>
      cases applies with
      | relaunched owner found restarts allowed requeues => cases requeues <;> exact ⟨rfl, rfl⟩
      | _ => exact ⟨rfl, rfl⟩
  | cameBack position =>
      dsimp only [comeBack, arrive]
      split
      · exact ⟨rfl, rfl⟩
      · split <;> exact ⟨rfl, rfl⟩
  | _ => exact ⟨rfl, rfl⟩

theorem fixed_play (course : Course) (acts : List Act) :
    Fixed course.schedule (course.play acts).schedule := by
  induction acts generalizing course with
  | nil => exact ⟨rfl, rfl⟩
  | cons act rest ih =>
      have first := course.fixed_perform act
      have later := ih (course.perform act)
      exact ⟨later.rules.trans first.rules, later.total.trans first.total⟩

/-- A report on a task that is not live says nothing. -/
theorem perform_report_absent {status : Status} (pause : Nat → Nat)
    (absent : course.schedule.roster.owner? status.task = none) :
    course.perform (.report status pause) = course := by
  simp [perform, applyWith, absent]

/-- What only reports change. -/
structure Quiet (before after : Course) : Prop where
  roster : after.schedule.roster = before.schedule.roster
  mint : after.schedule.mint = before.schedule.mint
  heard : after.heard = before.heard

theorem quiet_perform (course : Course) (act : Act)
    (silent : ∀ status pause, act ≠ .report status pause) : Quiet course (course.perform act) := by
  have performs := course.performs_perform act
  generalize course.perform act = after at performs
  cases performs with
  | popped pops =>
      obtain ⟨roster, mint⟩ := roster_pops pops
      exact ⟨roster, mint, rfl⟩
  | appended found appends =>
      obtain ⟨roster, mint⟩ := roster_appends appends
      exact ⟨roster, mint, rfl⟩
  | reported applies => exact absurd rfl (silent _ _)
  | cameBack position =>
      obtain ⟨roster, mint⟩ := roster_comeBack course.schedule position
      exact ⟨roster, mint, rfl⟩
  | _ => exact ⟨rfl, rfl, rfl⟩

theorem Quiet.known {after : Course} (quiet : Quiet course after) (known : course.Known groups) :
    after.Known groups := by
  obtain ⟨roster, mint, heard⟩ := quiet
  constructor
  case coherent => rw [roster, mint]; exact known.coherent
  case tracks => rw [roster]; exact known.tracks
  case issued => rw [mint, heard]; exact known.issued
  case states => rw [roster, heard]; exact known.states

/-- What a report does to the roster. A relaunch happens before its queue is tried, so it is there
even where the queue has no room. -/
inductive Reported (before : Course) (status : Status) (after : Course) : Prop where
  | ignored (quiet : Quiet before after)
  | recorded (index : Nat) (owner : before.schedule.roster.owner? status.task = some index)
      (roster : after.schedule.roster = before.schedule.roster.report status.task status.state)
      (mint : after.schedule.mint = before.schedule.mint)
      (heard : after.heard = before.heard ++ [status])
  | relaunched (index : Nat) (tracked : Tracked)
      (owner : before.schedule.roster.owner? status.task = some index)
      (found : before.schedule.roster.tracked[index]? = some tracked)
      (roster : after.schedule.roster =
        (before.schedule.roster.relaunch index tracked before.schedule.mint).2.1)
      (mint : after.schedule.mint = (tracked.group.renew before.schedule.mint).2)
      (heard : after.heard = before.heard ∨ after.heard = before.heard ++ [status])

theorem Known.reported (known : course.Known groups) (status : Status) (pause : Nat → Nat) :
    Reported course status (course.perform (.report status pause)) := by
  have applies := applies_applyWith course.schedule pause status
  unfold perform
  dsimp only
  generalize course.schedule.applyWith pause status = answer at applies
  cases applies with
  | unknown absent => exact .ignored ⟨rfl, rfl, by simp [absent]⟩
  | untracked owner absent =>
      -- In a coherent roster an owner is always the index of a tracked group.
      obtain ⟨tracked, found, _⟩ := known.coherent.owner?_iff.mp owner
      rw [absent] at found
      contradiction
  | spent owner found restarts spent =>
      exact .ignored ⟨rfl, rfl, by simp [Except.isOk, Except.toBool]⟩
  | fatal owner final failed =>
      exact .ignored ⟨rfl, rfl, by simp [Except.isOk, Except.toBool]⟩
  | recorded owner final sound =>
      exact .recorded _ owner rfl rfl (by simp [owner, Except.isOk, Except.toBool])
  | relaunched owner found restarts allowed requeues =>
      obtain ⟨roster, mint⟩ := roster_requeues requeues
      refine .relaunched _ _ owner found roster mint ?_
      dsimp only
      split
      · exact .inr rfl
      · exact .inl rfl

theorem Known.recorded {after : Course} (known : course.Known groups) {status : Status}
    {index : Nat} (owner : course.schedule.roster.owner? status.task = some index)
    (roster : after.schedule.roster = course.schedule.roster.report status.task status.state)
    (mint : after.schedule.mint = course.schedule.mint)
    (heard : after.heard = course.heard ++ [status]) : after.Known groups := by
  have live := known.coherent.issued_of_owner owner
  constructor
  case coherent =>
    rw [roster, mint]
    exact known.coherent.report owner status.state
  case tracks =>
    rw [roster]
    exact ⟨known.tracks.size, known.tracks.renewal⟩
  case issued =>
    rw [mint, heard]
    intro report member
    rcases List.mem_append.mp member with earlier | last
    · exact known.issued report earlier
    · rw [List.mem_singleton.mp last]
      exact live
  case states =>
    rw [roster, heard]
    intro task present
    rw [Roster.state?_report, lastHeard_append]
    by_cases same : task = status.task
    · simp [same]
    · rw [if_neg same, if_neg (Ne.symm same)]
      exact known.states task present

theorem Known.relaunched {after : Course} (known : course.Known groups) {status : Status}
    {index : Nat} {tracked : Tracked}
    (owner : course.schedule.roster.owner? status.task = some index)
    (found : course.schedule.roster.tracked[index]? = some tracked)
    (roster : after.schedule.roster =
      (course.schedule.roster.relaunch index tracked course.schedule.mint).2.1)
    (mint : after.schedule.mint = (tracked.group.renew course.schedule.mint).2)
    (heard : after.heard = course.heard ∨ after.heard = course.heard ++ [status]) :
    after.Known groups := by
  obtain ⟨_, there, member⟩ := known.coherent.owner?_iff.mp owner
  rw [found, Option.some.injEq] at there
  subst there
  have live := known.coherent.issued_of_owner owner
  have earlier : ∀ report ∈ after.heard, course.schedule.mint.Issued report.task := by
    intro report present
    rcases heard with same | more
    · exact known.issued report (same ▸ present)
    · rw [more] at present
      rcases List.mem_append.mp present with before | last
      · exact known.issued report before
      · rw [List.mem_singleton.mp last]
        exact live
  constructor
  case coherent =>
    rw [roster, mint]
    exact known.coherent.relaunch found
  case tracks =>
    rw [roster]
    exact known.tracks.relaunch found _
  case issued =>
    intro report present
    refine (earlier report present).mono ?_
    rw [mint, tracked.group.issued_renew]
    omega
  case states =>
    intro task present
    rw [roster, Roster.owner?_relaunch] at present
    rw [roster, Roster.state?_relaunch]
    by_cases new : task ∈ (tracked.group.renew course.schedule.mint).1.taskIds
    · -- Nothing was heard of a task that was not issued before.
      have fresh := tracked.group.not_issued_of_mem_renew _ new
      rw [if_pos new, lastHeard_eq_none, Option.getD_none]
      rintro report reported rfl
      exact fresh (earlier report reported)
    · by_cases old : task ∈ tracked.group.taskIds
      · simp [new, old] at present
      · rw [if_neg new, if_neg old] at present ⊢
        have different : status.task ≠ task := by
          rintro rfl
          exact old member
        have state := known.states task present
        rcases heard with same | more
        · rw [same]
          exact state
        · rw [more, lastHeard_append, if_neg different]
          exact state

theorem Reported.known {after : Course} {status : Status} (reported : Reported course status after)
    (known : course.Known groups) : after.Known groups := by
  cases reported with
  | ignored quiet => exact quiet.known known
  | recorded index owner roster mint heard => exact known.recorded owner roster mint heard
  | relaunched index tracked owner found roster mint heard =>
      exact known.relaunched owner found roster mint heard

theorem known_perform (known : course.Known groups) (act : Act) :
    (course.perform act).Known groups := by
  cases act with
  | report status pause => exact (known.reported status pause).known known
  | _ => exact (quiet_perform course _ (by simp)).known known

theorem known_start (groups : List TaskGroup) (rules : Rules) (mint : Mint) :
    (start groups rules mint).Known groups := by
  have coherent := (Roster.Coherent.empty mint).addAll groups
  have none : ({} : Roster).Tracks [] := ⟨rfl, by simp⟩
  have tracks := none.addAll groups mint
  refine ⟨coherent, tracks, by simp [start], ?_⟩
  intro task live
  obtain ⟨state, found⟩ :=
    Option.isSome_iff_exists.mp ((coherent.state?_isSome task).trans live)
  have starting := Roster.starting_addAll {} groups mint (by simp) task.text state found
  rw [starting] at found
  exact found

theorem known_play (known : course.Known groups) (acts : List Act) :
    (course.play acts).Known groups :=
  play_invariant known (fun _ act known => known_perform known act) acts

/-- Where a task is known to have finished, finishing starts nothing again. -/
def Final (course : Course) : Prop :=
  ∀ task, course.schedule.roster.state? task = some .finished →
    course.schedule.rules.restart.restarts .finished = false

theorem final_start (groups : List TaskGroup) (rules : Rules) (mint : Mint) :
    (start groups rules mint).Final := by
  intro task finished
  have starting := Roster.starting_addAll {} groups mint (by simp) task.text .finished finished
  contradiction

theorem final_report (final : course.Final) (status : Status) (pause : Nat → Nat) :
    (course.perform (.report status pause)).Final := by
  intro task
  rw [(course.fixed_perform _).rules]
  have applies := applies_applyWith course.schedule pause status
  unfold perform
  dsimp only
  generalize course.schedule.applyWith pause status = answer at applies
  cases applies with
  | recorded owner once sound =>
      intro finished
      have finished := (Roster.state?_report _ _ _ _).symm.trans finished
      split at finished
      · rw [Option.some.inj finished] at once
        exact once
      · exact final task finished
  | relaunched owner found restarts allowed requeues =>
      intro finished
      rw [(roster_requeues requeues).1, renewed, Roster.state?_relaunch] at finished
      split at finished
      · contradiction
      · split at finished
        · contradiction
        · exact final task finished
  | _ => exact final task

theorem final_perform (final : course.Final) (act : Act) : (course.perform act).Final := by
  cases act with
  | report status pause => exact final_report final status pause
  | _ =>
      intro task
      rw [(course.fixed_perform _).rules, (quiet_perform course _ (by simp)).roster]
      exact final task

theorem final_play (groups : List TaskGroup) (rules : Rules) (mint : Mint) (acts : List Act) :
    ((start groups rules mint).play acts).Final :=
  play_invariant (final_start groups rules mint) (fun _ act final => final_perform final act) acts

/-- The task was issued and is not live. -/
def Retired (course : Course) (task : TaskId) : Prop :=
  course.schedule.mint.Issued task ∧ course.schedule.roster.owner? task = none

theorem retired_perform (known : course.Known groups) {task : TaskId}
    (retired : course.Retired task) (act : Act) : (course.perform act).Retired task := by
  obtain ⟨issued, dead⟩ := retired
  have of_quiet {after : Course} (quiet : Quiet course after) : after.Retired task := by
    rw [Retired, quiet.roster, quiet.mint]
    exact ⟨issued, dead⟩
  cases act with
  | report status pause =>
      cases known.reported status pause with
      | ignored quiet => exact of_quiet quiet
      | recorded index owner roster mint heard =>
          rw [Retired, roster, mint]
          exact ⟨issued, dead⟩
      | relaunched index tracked owner found roster mint heard =>
          rw [Retired, roster, mint, Roster.owner?_relaunch]
          refine ⟨issued.mono (by rw [tracked.group.issued_renew]; omega), ?_⟩
          -- The new tasks were not issued before, so this task is none of them.
          rw [if_neg fun new => tracked.group.not_issued_of_mem_renew _ new issued]
          split
          · rfl
          · exact dead
  | _ => exact of_quiet (quiet_perform course _ (by simp))

theorem issued_perform (known : course.Known groups) {task : TaskId}
    (issued : course.schedule.mint.Issued task) (act : Act) :
    (course.perform act).schedule.mint.Issued task := by
  cases act with
  | report status pause =>
      cases known.reported status pause with
      | ignored quiet => rwa [quiet.mint]
      | recorded index owner roster mint heard => rwa [mint]
      | relaunched index tracked owner found roster mint heard =>
          rw [mint]
          exact issued.mono (by rw [tracked.group.issued_renew]; omega)
  | _ => rwa [(quiet_perform course _ (by simp)).mint]

theorem retired_play (known : course.Known groups) {task : TaskId}
    (retired : course.Retired task) (acts : List Act) : (course.play acts).Retired task := by
  have both := play_invariant (motive := fun course => course.Known groups ∧ course.Retired task)
    ⟨known, retired⟩ (fun _ act now => ⟨known_perform now.1 act, retired_perform now.1 now.2 act⟩)
    acts
  exact both.2

theorem issued_play (known : course.Known groups) {task : TaskId}
    (issued : course.schedule.mint.Issued task) (acts : List Act) :
    (course.play acts).schedule.mint.Issued task := by
  have both := play_invariant
    (motive := fun course => course.Known groups ∧ course.schedule.mint.Issued task)
    ⟨known, issued⟩ (fun _ act now => ⟨known_perform now.1 act, issued_perform now.1 now.2 act⟩)
    acts
  exact both.2

/-- The tables of the roster agree with its groups, which are those that were submitted. A report
that is answered by a failure leaves the tables alone, so it is not among those that were heard. -/
structure Exact (groups : List TaskGroup) (course : Course) : Prop where
  tracks : course.schedule.roster.Tracks groups
  sameKeys : ∀ name,
    name ∈ course.schedule.roster.owners.names ↔ name ∈ course.schedule.roster.states.names
  keys : ∀ name, name ∈ course.schedule.roster.owners.names ↔
    ∃ tracked ∈ course.schedule.roster.tracked, ∃ task ∈ tracked.group.taskIds, task.text = name
  disjoint : (course.schedule.roster.tracked.flatMap (·.group.taskIds)).Nodup
  owner : ∀ index tracked, course.schedule.roster.tracked[index]? = some tracked →
    ∀ task ∈ tracked.group.taskIds, course.schedule.roster.owner? task = some index
  finished : course.schedule.roster.finished = true ↔
    ∀ tracked ∈ course.schedule.roster.tracked, ∀ task ∈ tracked.group.taskIds,
      lastHeard course.heard task = some .finished

theorem Known.done_iff (known : course.Known groups) {tracked : Tracked}
    (member : tracked ∈ course.schedule.roster.tracked) :
    course.schedule.roster.Done tracked ↔
      ∀ task ∈ tracked.group.taskIds, lastHeard course.heard task = some .finished := by
  obtain ⟨index, found⟩ := List.mem_iff_getElem?.mp member
  refine forall_congr' fun task => forall_congr' fun present => ?_
  have owner := known.coherent.owner?_iff.mpr ⟨tracked, found, present⟩
  rw [known.states task (by rw [owner, Option.isSome_some]), Option.some.injEq]
  cases lastHeard course.heard task with
  | none => simp
  | some state => simp

theorem Known.disjoint (known : course.Known groups) :
    (course.schedule.roster.tracked.flatMap (·.group.taskIds)).Nodup := by
  rw [List.Nodup, List.pairwise_flatMap]
  refine ⟨fun tracked member => known.coherent.distinct tracked member, ?_⟩
  rw [List.pairwise_iff_getElem]
  intro first second firstBound secondBound before task inFirst other inSecond same
  subst other
  have equal := known.coherent.index_unique (List.getElem?_eq_getElem firstBound)
    (List.getElem?_eq_getElem secondBound) inFirst inSecond
  omega

theorem Known.exact (known : course.Known groups) : course.Exact groups where
  tracks := known.tracks
  sameKeys name := by
    rw [Data.Table.mem_names_iff, Data.Table.mem_names_iff, known.coherent.watched]
  keys name := by
    rw [Data.Table.mem_names_iff, Option.isSome_iff_exists]
    constructor
    · rintro ⟨index, owner⟩
      obtain ⟨tracked, found, member⟩ := (known.coherent.owned name index).mp owner
      exact ⟨tracked, List.mem_of_getElem? found, List.mem_map.mp member⟩
    · rintro ⟨tracked, member, present⟩
      obtain ⟨index, found⟩ := List.mem_iff_getElem?.mp member
      exact ⟨index, (known.coherent.owned name index).mpr
        ⟨tracked, found, List.mem_map.mpr present⟩⟩
  disjoint := known.disjoint
  owner index tracked found task member := known.coherent.owner?_iff.mpr ⟨tracked, found, member⟩
  finished := by
    rw [Roster.finished_iff known.coherent]
    exact forall_congr' fun tracked => forall_congr' fun member => known.done_iff member

/-- Whatever happens, the tables agree with the groups, and a task that was live and is no longer
stays out of both tables. -/
theorem exact_play (groups : List TaskGroup) (rules : Rules) (mint : Mint) (acts : List Act) :
    ((start groups rules mint).play acts).Exact groups ∧
      ∀ later last task,
        (((start groups rules mint).play acts).schedule.roster.owner? task).isSome →
        ((start groups rules mint).play (acts ++ later)).schedule.roster.owner? task = none →
        ((start groups rules mint).play (acts ++ later ++ last)).schedule.roster.owner? task = none ∧
          ((start groups rules mint).play (acts ++ later ++ last)).schedule.roster.state? task =
            none := by
  have known := known_play (known_start groups rules mint) acts
  refine ⟨known.exact, ?_⟩
  intro later last task live dead
  obtain ⟨index, owner⟩ := Option.isSome_iff_exists.mp live
  have issued := known.coherent.issued_of_owner owner
  rw [play_append] at dead ⊢
  rw [play_append]
  have struck := known_play known later
  have stays := retired_play struck ⟨issued_play known issued later, dead⟩ last
  have silent := (known_play struck last).coherent.state?_isSome task
  rw [stays.2, Option.isSome_none, Option.isSome_eq_false_iff, Option.isNone_iff_eq_none] at silent
  exact ⟨stays.2, silent⟩

/-- Failures are reported, but not recorded. A task that finished and then failed still counts as
finished, and one that finished and may not start again does not. -/
theorem finished_unlike_reports :
    let group : TaskGroup :=
      { tasks := [{ name := "web", id := .stamped 0 }]
        networks := []
        executor := { id := .stamped 1 }
        hasTask := by simp }
    let reports (states : List TaskState) : List Status :=
      states.map fun state => { task := .stamped 3, state := state }
    let played (rules : Rules) (states : List TaskState) : Roster :=
      ((start [group] rules ⟨2⟩).play
        ((reports states).map fun status => .report status fun _ => 0)).schedule.roster
    let failed := played { restart := .never } [.finished, .failed]
    let spent := played { restart := .always, maxRestarts := some 0 } [.finished]
    (failed.tracked.map (·.group.taskIds) = [[.stamped 3]] ∧
      lastHeard (reports [.finished, .failed]) (.stamped 3) = some .failed ∧
      failed.finished = true) ∧
    (spent.tracked.map (·.group.taskIds) = [[.stamped 3]] ∧
      lastHeard (reports [.finished]) (.stamped 3) = some .finished ∧
      spent.finished = false) := by
  decide +kernel

end Course
end Convoy
