import Convoy.Proofs.Schedule.Ownership
import Convoy.Schedule.Offers

/-!
# Accounts of a schedule

An account of a schedule is a course that ends in it with no group out: the groups that an offer is
matched against are all launched or handed back before anything else happens. What acts and the flags
of the watch keep is kept by matching, by reports and by time.
-/
namespace Convoy

open Schedule

/-- The tasks that an operation launches. -/
def Operation.taskIds (operation : Operation) : List TaskId :=
  operation.tasks.map (·.id)

theorem TaskGroup.taskIds_launch (group : TaskGroup) (agent : AgentId) (framework : FrameworkId) :
    ((group.onAgent agent).ofFramework framework).launch.taskIds = group.taskIds := by
  rw [Operation.taskIds, tasks_launch]
  exact List.map_map

/-- An act other than a report. -/
def Act.IsQuiet : Act → Prop
  | .report _ _ => False
  | _ => True

theorem Act.report_or_quiet (act : Act) :
    (∃ status pause, act = .report status pause) ∨ act.IsQuiet := by
  cases act with
  | report status pause => exact .inl ⟨status, pause, rfl⟩
  | _ => exact .inr trivial

theorem Act.IsQuiet.ne_report {act : Act} (quiet : act.IsQuiet) (status : Status)
    (pause : Nat → Nat) : act ≠ .report status pause := by
  rintro rfl
  exact quiet

namespace Course

variable {course : Course} {groups : List TaskGroup}

/-- The course after a change of the flags of the watch, of the serial numbers and of what is drawn,
none of which says anything of the groups. -/
def aside (course : Course) (monitor : Monitor) (stopping : Bool) (serials : Nat)
    (draws : Draws) : Course :=
  { course with
    schedule := { course.schedule with
      monitor := monitor, stopping := stopping, serials := serials, draws := draws } }

/-- What acts keep. Reports have to be fair. -/
structure Kept (motive : Course → Prop) (fair : Course → Status → Prop) : Prop where
  quiet : ∀ course act, motive course → act.IsQuiet → motive (course.perform act)
  report : ∀ course status pause, motive course → fair course status →
    motive (course.perform (.report status pause))

/-- What acts keep and what such changes do not touch. -/
structure KeptAside (motive : Course → Prop) (fair : Course → Status → Prop) : Prop
    extends Kept motive fair where
  aside : ∀ course monitor stopping serials draws,
    motive course → motive (course.aside monitor stopping serials draws)

theorem Known.aside (known : course.Known groups) (monitor : Monitor) (stopping : Bool)
    (serials : Nat) (draws : Draws) : (course.aside monitor stopping serials draws).Known groups :=
  ⟨known.coherent, known.tracks, known.issued, known.states⟩

theorem known_kept (groups : List TaskGroup) : KeptAside (Known groups) fun _ _ => True where
  quiet _ act known _ := known_perform known act
  report _ _ _ known _ := known_perform known _
  aside _ monitor stopping serials draws known := known.aside monitor stopping serials draws

/-- What the watch does not do leaves its flags alone. -/
theorem flags_perform (course : Course) (act : Act) :
    (course.perform act).schedule.monitor = course.schedule.monitor ∧
      (course.perform act).schedule.stopping = course.schedule.stopping := by
  have performs := course.performs_perform act
  generalize course.perform act = after at performs
  cases performs with
  | popped pops =>
      cases pops with
      | relaunched sync taken => exact ⟨rfl, rfl⟩
      | opened sync empty gate next => cases next <;> exact ⟨rfl, rfl⟩
      | parallel parallel next => cases next <;> exact ⟨rfl, rfl⟩
  | appended found appends => cases appends <;> exact ⟨rfl, rfl⟩
  | reported applies =>
      cases applies with
      | relaunched owner found restarts allowed requeues => cases requeues <;> exact ⟨rfl, rfl⟩
      | _ => exact ⟨rfl, rfl⟩
  | cameBack position =>
      dsimp only [comeBack, arrive]
      split
      · exact ⟨rfl, rfl⟩
      · split <;> exact ⟨rfl, rfl⟩
  | _ => exact ⟨rfl, rfl⟩

theorem flags_kept (monitor : Monitor) (stopping : Bool) :
    Kept (fun course => course.schedule.monitor = monitor ∧ course.schedule.stopping = stopping)
      fun _ _ => True where
  quiet course act flags _ := by
    have same := course.flags_perform act
    exact ⟨same.1.trans flags.1, same.2.trans flags.2⟩
  report course status pause flags _ := by
    have same := course.flags_perform (.report status pause)
    exact ⟨same.1.trans flags.1, same.2.trans flags.2⟩

/-- Nothing was recorded of a group that waits to be launched. -/
def Resting (course : Course) : Prop :=
  ∀ group ∈ course.waiting, ∀ task ∈ group.taskIds,
    course.schedule.roster.state? task = some .starting

/-- Every group is in one place, and those that wait are as they were enrolled. -/
structure Whole (groups : List TaskGroup) (course : Course) : Prop where
  owned : course.Owned groups
  resting : course.Resting

/-- No report names a task of a group that waits to be launched. -/
def Spares (course : Course) (status : Status) : Prop :=
  ∀ group ∈ course.waiting, status.task ∉ group.taskIds

namespace Owned

theorem aside (owned : course.Owned groups) (monitor : Monitor) (stopping : Bool) (serials : Nat)
    (draws : Draws) : (course.aside monitor stopping serials draws).Owned groups :=
  ⟨owned.known.aside monitor stopping serials draws, ⟨owned.calm.pending, owned.calm.relaunched⟩,
    owned.balance, owned.launched⟩

theorem groups_of_waiting (owned : course.Owned groups) {group : TaskGroup}
    (waits : group ∈ course.waiting) : group ∈ course.schedule.roster.groups :=
  owned.balance.subset (List.mem_append_left _ waits)

theorem fair_of_spares (owned : course.Owned groups) {status : Status} {pause : Nat → Nat}
    (spares : course.Spares status) : course.Fair (.report status pause) := by
  cases owner : course.schedule.roster.owner? status.task with
  | none => exact .inr owner
  | some index =>
      obtain ⟨tracked, found, member⟩ := owned.known.coherent.owner?_iff.mp owner
      have here : tracked.group ∈ course.schedule.roster.groups :=
        List.mem_map_of_mem (List.mem_of_getElem? found)
      rcases List.mem_append.mp (owned.balance.symm.subset here) with waits | flying
      · exact absurd member (spares _ waits)
      · exact .inl ⟨tracked.group, (List.mem_filter.mp flying).1, member⟩

theorem waiting_append {position : Nat} (owned : course.Owned groups) :
    (course.perform (.append position)).waiting ⊆ course.waiting := by
  have performs := course.performs_perform (.append position)
  generalize course.perform (.append position) = after at performs
  cases performs with
  | nothing => exact List.Subset.refl _
  | appended found appends =>
      have taken := owned.append_ok (List.mem_of_getElem? found) appends
      exact (waiting_appended found appends taken).subset

/-- What is no report lets no group wait that did not wait before. -/
theorem waiting_quiet (owned : course.Owned groups) {act : Act} (silent : act.IsQuiet) :
    (course.perform act).waiting ⊆ course.waiting := by
  have performs := course.performs_perform act
  cases act with
  | pop => exact (waiting_pop performs).subset
  | launch position =>
      generalize course.perform (.launch position) = after at performs
      cases performs with
      | nothing => exact List.Subset.refl _
      | launched found =>
          intro group member
          exact (waiting_launched found).symm.subset (List.mem_cons_of_mem _ member)
  | append position => exact owned.waiting_append
  | report status pause => exact silent.elim
  | comeBack position =>
      exact ((queued_comeBack course.schedule position).append_right course.out).subset
  | settle => exact ((queued_settle course.schedule).append_right course.out).subset
  | pass milliseconds => exact List.Subset.refl _

theorem resting_quiet (owned : course.Owned groups) (resting : course.Resting) (act : Act)
    (silent : act.IsQuiet) : (course.perform act).Resting := by
  have roster := (course.quiet_perform act silent.ne_report).roster
  intro group member task present
  rw [roster]
  exact resting group (owned.waiting_quiet silent member) task present

/-- A relaunch is of a group in flight, so it strikes no task of a group that waits. -/
theorem state?_relaunched (owned : course.Owned groups) {status : Status} {pause : Nat → Nat}
    (fair : course.Fair (.report status pause)) {index : Nat} {tracked : Tracked}
    (owner : course.schedule.roster.owner? status.task = some index)
    (found : course.schedule.roster.tracked[index]? = some tracked) {milliseconds : Nat}
    {answer : Schedule × Except Failure Unit}
    (requeues : Requeues (course.schedule.renewed index tracked)
      (tracked.group.renew course.schedule.mint).1 milliseconds answer)
    {group : TaskGroup} (waits : group ∈ answer.1.queued ++ course.out) {task : TaskId}
    (present : task ∈ group.taskIds) :
    answer.1.roster.state? task = some .starting ∨
      group ∈ course.waiting ∧
        answer.1.roster.state? task = course.schedule.roster.state? task := by
  have coherent := owned.known.coherent
  have queued := queued_requeues requeues (owned.requeue_ok fair owner found requeues)
  have flying := owned.inFlight_of_fair fair owner found
  have stays (before : group ∈ course.waiting) :
      answer.1.roster.state? task = course.schedule.roster.state? task := by
    have here := owned.groups_of_waiting before
    rw [(roster_requeues requeues).1]
    refine coherent.state?_relaunch_of_live (coherent.live_of_mem here present) fun struck => ?_
    have there := owned.balance.subset (List.mem_append_right _ flying)
    have same := coherent.group_unique here there present struck
    exact owned.not_waiting flying (same ▸ before)
  rcases List.mem_append.mp waits with here | out
  · rcases List.mem_cons.mp (queued.subset here) with rfl | before
    · left
      rw [(roster_requeues requeues).1]
      exact (Roster.state?_relaunch _ _ _ _ _).trans (if_pos present)
    · have waits := List.mem_append_left course.out before
      exact .inr ⟨waits, stays waits⟩
  · have waits := List.mem_append_right course.schedule.queued out
    exact .inr ⟨waits, stays waits⟩

theorem resting_report (owned : course.Owned groups) (resting : course.Resting) {status : Status}
    {pause : Nat → Nat} (spares : course.Spares status) :
    (course.perform (.report status pause)).Resting := by
  have fair : course.Fair (.report status pause) := owned.fair_of_spares spares
  have performs := course.performs_perform (.report status pause)
  generalize course.perform (.report status pause) = after at performs
  cases performs with
  | nothing => exact resting
  | reported applies =>
      cases applies with
      | recorded owner final sound =>
          intro group member task present
          change (course.schedule.roster.report status.task status.state).state? task = _
          rw [Roster.state?_report, if_neg]
          · exact resting group member task present
          · rintro rfl
            exact spares group member present
      | relaunched owner found restarts allowed requeues =>
          intro group member task present
          rcases owned.state?_relaunched fair owner found requeues member present with
            starting | ⟨before, same⟩
          · exact starting
          · exact same.trans (resting group before task present)
      | _ => exact resting

/-- A group that waits is not finished, so none waits once all are. -/
theorem waiting_eq_nil (owned : course.Owned groups)
    (unfinished : ∀ group ∈ course.waiting, ∀ task ∈ group.taskIds,
      course.schedule.roster.state? task ≠ some .finished)
    (finished : course.schedule.roster.finished = true) : course.waiting = [] := by
  refine List.eq_nil_iff_forall_not_mem.mpr fun group waits => ?_
  obtain ⟨tracked, tracks, rfl⟩ := List.mem_map.mp (owned.groups_of_waiting waits)
  have done := (Roster.finished_iff owned.known.coherent).mp finished tracked tracks
  obtain ⟨task, present⟩ := List.exists_mem_of_ne_nil _ tracked.group.taskIds_ne_nil
  exact unfinished _ waits task present (done task present)

end Owned

theorem whole_kept (groups : List TaskGroup) : KeptAside (Whole groups) Spares where
  quiet course act whole silent := by
    refine ⟨owned_perform whole.owned ?_, whole.owned.resting_quiet whole.resting act silent⟩
    cases act with
    | report status pause => exact silent.elim
    | _ => trivial
  report _ _ _ whole spares :=
    ⟨owned_perform whole.owned (whole.owned.fair_of_spares spares),
      whole.owned.resting_report whole.resting spares⟩
  aside _ monitor stopping serials draws whole :=
    ⟨whole.owned.aside monitor stopping serials draws, whole.resting⟩

theorem whole_start (groups : List TaskGroup) (rules : Rules) (mint : Mint) :
    (start groups rules mint).Whole groups := by
  have owned := owned_start groups rules mint
  refine ⟨owned, fun group member task present => ?_⟩
  have live := owned.known.coherent.live_of_mem (owned.groups_of_waiting member) present
  rw [owned.known.states task live]
  rfl

theorem Whole.waiting_eq_nil (whole : course.Whole groups)
    (finished : course.schedule.roster.finished = true) : course.waiting = [] :=
  whole.owned.waiting_eq_nil
    (fun group waits task present => by rw [whole.resting group waits task present]; nofun) finished

theorem launches_perform (course : Course) (act : Act) :
    course.launches ⊆ (course.perform act).launches := by
  cases act with
  | pop =>
      simp only [perform]
      split <;> exact List.Subset.refl _
  | launch position =>
      simp only [perform]
      split
      · exact List.Subset.refl _
      · exact List.subset_append_left _ _
  | append position =>
      simp only [perform]
      split <;> exact List.Subset.refl _
  | _ => exact List.Subset.refl _

/-- Every group is in one place, and certain tasks were launched at some time. -/
structure Asked (groups : List TaskGroup) (tasks : List TaskId) (course : Course) : Prop where
  whole : course.Whole groups
  launched : ∀ task ∈ tasks, course.Launched task

theorem Owned.spares_of_fair (owned : course.Owned groups) {status : Status} {pause : Nat → Nat}
    (fair : course.Fair (.report status pause)) : course.Spares status := by
  intro group waits member
  have coherent := owned.known.coherent
  have here := owned.groups_of_waiting waits
  obtain ⟨index, owner⟩ := Option.isSome_iff_exists.mp (coherent.live_of_mem here member)
  obtain ⟨tracked, found, present⟩ := coherent.owner?_iff.mp owner
  have there : tracked.group ∈ course.schedule.roster.groups :=
    List.mem_map_of_mem (List.mem_of_getElem? found)
  have same := coherent.group_unique here there member present
  exact owned.not_waiting (owned.inFlight_of_fair fair owner found) (same ▸ waits)

/-- The fair reports are on the tasks that were launched, or on tasks that are not live. -/
theorem asked_kept (groups : List TaskGroup) (tasks : List TaskId) :
    KeptAside (Asked groups tasks) fun course status =>
      status.task ∈ tasks ∨ course.schedule.roster.owner? status.task = none where
  quiet course act asked silent := by
    refine ⟨(whole_kept groups).quiet _ _ asked.whole silent, fun task member => ?_⟩
    obtain ⟨group, launched, present⟩ := asked.launched task member
    exact ⟨group, course.launches_perform act launched, present⟩
  report course status pause asked known := by
    have fair : course.Fair (.report status pause) := known.imp_left (asked.launched _)
    have spares := asked.whole.owned.spares_of_fair fair
    refine ⟨(whole_kept groups).report _ _ _ asked.whole spares, fun task member => ?_⟩
    obtain ⟨group, launched, present⟩ := asked.launched task member
    exact ⟨group, course.launches_perform _ launched, present⟩
  aside _ monitor stopping serials draws asked :=
    ⟨(whole_kept groups).aside _ monitor stopping serials draws asked.whole, asked.launched⟩

variable {motive : Course → Prop} {fair : Course → Status → Prop}

theorem Kept.pop (kept : Kept motive fair) (now : motive course) (idle : course.out = [])
    {group : TaskGroup} {rest : Schedule} (popped : course.schedule.pop = some (group, rest)) :
    ∃ after, motive after ∧ after.schedule = rest ∧ after.heard = course.heard ∧
      after.out = [group] ∧ after.launches = course.launches := by
  refine ⟨course.perform .pop, kept.quiet _ _ now trivial, ?_⟩
  simp [perform, popped, idle]

/-- The course after matching. Each group that is looked at is launched or handed back at once, so no
group is out. Matching fails only where a queue has no room for the group that is handed back. -/
structure Matched (motive : Course → Prop) (course : Course) (found : Match)
    (answer : Schedule × Except Failure Match) (after : Course) : Prop where
  holds : motive after
  schedule : after.schedule = answer.1
  heard : after.heard = course.heard
  out : after.out = []
  launches : course.launches ⊆ after.launches
  launched : ∀ result, answer.2 = .ok result → ∀ operation ∈ result.operations,
    operation ∈ found.operations ∨ ∀ task ∈ operation.taskIds, after.Launched task
  full : ∀ failure, answer.2 = .error failure →
    failure = .queueFull "pending" ∧
      ∃ before, motive before ∧ before.answer (.append 0) = .error failure

theorem Matched.none (now : motive course) (idle : course.out = []) (found : Match) :
    Matched motive course found (course.schedule, .ok found) course where
  holds := now
  schedule := rfl
  heard := rfl
  out := idle
  launches := List.Subset.refl _
  launched result same operation member := by
    cases same
    exact .inl member
  full := nofun

theorem Kept.matchNext (kept : Kept motive fair) (now : motive course) (idle : course.out = [])
    (agent : AgentId) (framework : FrameworkId) (count : Nat) (found : Match) :
    ∃ after, Matched motive course found
      (course.schedule.matchNext agent framework count found) after := by
  induction count generalizing course found with
  | zero => exact ⟨course, .none now idle found⟩
  | succ count ih =>
      cases popped : course.schedule.pop with
      | none =>
          simp only [Schedule.matchNext, popped]
          exact ⟨course, .none now idle found⟩
      | some taken =>
          obtain ⟨group, rest⟩ := taken
          obtain ⟨handed, holds, rfl, heard, out, launches⟩ := kept.pop now idle popped
          simp only [Schedule.matchNext, popped]
          -- The group is out between the pop and what follows it, so both are taken together here.
          by_cases fits : found.fits group = true
          · have launched := kept.quiet _ (.launch 0) holds trivial
            simp only [perform, out, List.getElem?_cons_zero, List.eraseIdx_cons_zero] at launched
            simp only [fits, if_true]
            obtain ⟨after, later⟩ := ih launched rfl (found.launch group agent framework)
            have grown := (List.append_subset.mp later.launches)
            refine ⟨after, later.holds, later.schedule, later.heard.trans heard, later.out,
              launches ▸ grown.1, fun result same operation member => ?_, later.full⟩
            rcases later.launched result same operation member with early | launched
            · rcases List.mem_append.mp early with before | new
              · exact .inl before
              · rw [List.mem_singleton.mp new, TaskGroup.taskIds_launch]
                exact .inr fun task present => ⟨group, grown.2 (List.mem_singleton_self _), present⟩
            · exact .inr launched
          · have back := kept.quiet _ (.append 0) holds trivial
            simp only [perform, out, List.getElem?_cons_zero, List.eraseIdx_cons_zero] at back
            simp only [fits, Bool.false_eq_true, if_false]
            cases answer : handed.schedule.append group with
            | mk after result =>
                simp only [answer] at back
                cases result with
                | ok done =>
                    obtain ⟨last, later⟩ := ih back rfl found
                    exact ⟨last, later.holds, later.schedule, later.heard.trans heard, later.out,
                      launches ▸ later.launches, later.launched, later.full⟩
                | error failure =>
                    refine ⟨_, back, rfl, heard, rfl, launches ▸ List.Subset.refl _,
                      fun _ matched => (by cases matched), ?_⟩
                    rintro _ ⟨⟩
                    have appends := appends_append handed.schedule group
                    rw [answer] at appends
                    refine ⟨?_, handed, holds, ?_⟩
                    · cases appends <;> rfl
                    · simp only [Course.answer, out, List.getElem?_cons_zero, answer]

end Course

namespace Schedule

/-- Some course with no group out ends in the schedule, after certain reports. -/
def Account (motive : Course → Prop) (heard : List Status) (schedule : Schedule) : Prop :=
  ∃ course : Course, motive course ∧ course.schedule = schedule ∧ course.heard = heard ∧
    course.out = []

variable {schedule : Schedule} {motive : Course → Prop} {fair : Course → Status → Prop}
  {heard : List Status} {groups : List TaskGroup}

/-- Whether a report is on a live task and gets no failure for an answer. -/
def takes (schedule : Schedule) (status : Status) : Bool :=
  (schedule.roster.owner? status.task).isSome && (schedule.apply status).2.isOk

/-- The report, where the watch is there to take it in. -/
def hears (schedule : Schedule) (status : Status) : List Status :=
  match schedule.monitor with
  | .watching => if schedule.settle.takes status then [status] else []
  | _ => []

/-- A report is on no group that waits to be launched. -/
def Spares (schedule : Schedule) (status : Status) : Prop :=
  ∀ group ∈ schedule.queued, status.task ∉ group.taskIds

theorem Spares.course (spares : schedule.Spares status) {course : Course}
    (ends : course.schedule = schedule) (idle : course.out = []) : course.Spares status := by
  intro group member
  rw [Course.waiting, idle, List.append_nil, ends] at member
  exact spares group member

theorem Spares.settle (spares : schedule.Spares status) : schedule.settle.Spares status :=
  fun group member => spares group (schedule.queued_settle.subset member)

namespace Account

open Course

theorem start {rules : Rules} {mint : Mint} (holds : motive (.start groups rules mint)) :
    (Schedule.start groups rules mint).Account motive [] :=
  ⟨_, holds, rfl, rfl, rfl⟩

theorem settle (account : schedule.Account motive heard) (kept : Kept motive fair) :
    schedule.settle.Account motive heard := by
  obtain ⟨course, holds, rfl, rfl, idle⟩ := account
  exact ⟨_, kept.quiet _ .settle holds trivial, rfl, rfl, idle⟩

theorem pass (account : schedule.Account motive heard) (kept : Kept motive fair)
    (milliseconds : Nat) : (schedule.pass milliseconds).Account motive heard := by
  obtain ⟨course, holds, rfl, rfl, idle⟩ := account
  exact ⟨_, kept.quiet _ (.pass milliseconds) holds trivial, rfl, rfl, idle⟩

theorem comeBack (account : schedule.Account motive heard) (kept : Kept motive fair)
    (position : Nat) : (schedule.comeBack position).Account motive heard := by
  obtain ⟨course, holds, rfl, rfl, idle⟩ := account
  exact ⟨_, kept.quiet _ (.comeBack position) holds trivial, rfl, rfl, idle⟩

theorem flag (account : schedule.Account motive heard) (kept : KeptAside motive fair)
    (monitor : Monitor) (stopping : Bool) :
    { schedule with monitor := monitor, stopping := stopping }.Account motive heard := by
  obtain ⟨course, holds, rfl, rfl, idle⟩ := account
  have aside := kept.aside _ monitor stopping course.schedule.serials course.schedule.draws holds
  exact ⟨_, aside, rfl, rfl, idle⟩

theorem number (account : schedule.Account motive heard) (kept : KeptAside motive fair)
    (serials : Nat) : { schedule with serials := serials }.Account motive heard := by
  obtain ⟨course, holds, rfl, rfl, idle⟩ := account
  have aside := kept.aside _ course.schedule.monitor course.schedule.stopping serials
    course.schedule.draws holds
  exact ⟨_, aside, rfl, rfl, idle⟩

theorem drawing (account : schedule.Account motive heard) (kept : KeptAside motive fair)
    (draws : Draws) : { schedule with draws := draws }.Account motive heard := by
  obtain ⟨course, holds, rfl, rfl, idle⟩ := account
  have aside := kept.aside _ course.schedule.monitor course.schedule.stopping
    course.schedule.serials draws holds
  exact ⟨_, aside, rfl, rfl, idle⟩

theorem check (account : schedule.Account motive heard) (kept : KeptAside motive fair) :
    schedule.check.Account motive heard := by
  unfold Schedule.check
  split
  · split
    · exact account.flag kept _ _
    · exact account
  · exact account

theorem stop (account : schedule.Account motive heard) (kept : KeptAside motive fair) :
    schedule.stop.Account motive heard :=
  (account.flag kept schedule.monitor true).check kept

theorem watch (account : schedule.Account motive heard) (kept : KeptAside motive fair) :
    schedule.watch.Account motive heard := by
  unfold Schedule.watch
  split
  · exact (account.flag kept .watching schedule.stopping).check kept
  · exact account

theorem matchOffer (account : schedule.Account motive heard) (kept : Kept motive fair)
    (offer : Offer) (framework : FrameworkId) :
    (schedule.matchOffer offer framework).1.Account motive heard := by
  obtain ⟨course, holds, rfl, rfl, idle⟩ := account
  obtain ⟨after, matched⟩ := kept.matchNext holds idle offer.agent framework
    course.schedule.pendingSize { remaining := Ledger.ofResources offer.resources }
  exact ⟨after, matched.holds, matched.schedule, matched.heard, matched.out⟩

theorem apply (account : schedule.Account motive heard) (kept : Kept motive fair) (status : Status)
    (fairly : ∀ course, course.schedule = schedule → course.out = [] → fair course status) :
    (schedule.apply status).1.Account motive
      (heard ++ if schedule.takes status then [status] else []) := by
  obtain ⟨course, holds, rfl, rfl, idle⟩ := account
  refine ⟨_, kept.report _ status course.schedule.pause holds (fairly _ rfl idle), rfl,
    ?_, idle⟩
  by_cases taken : course.schedule.takes status = true
  · exact (if_pos taken).trans (by rw [if_pos taken])
  · exact (if_neg taken).trans (by rw [if_neg taken, List.append_nil])

theorem update (account : schedule.Account motive heard) (kept : KeptAside motive fair)
    (status : Status)
    (fairly : ∀ course, course.schedule = schedule.settle → course.out = [] → fair course status) :
    (schedule.update status).Account motive (heard ++ schedule.hears status) := by
  have settled := account.settle kept.toKept
  have applied := settled.apply kept.toKept status fairly
  unfold Schedule.update hears
  cases monitor : schedule.monitor with
  | watching =>
      have watches : schedule.settle.monitor = .watching := monitor
      simp only [watches]
      cases answer : schedule.settle.apply status with
      | mk after result =>
          simp only [answer] at applied ⊢
          cases result with
          | ok done => exact applied.check kept
          | error failure => exact applied.flag kept _ _
  | _ =>
      have stands : schedule.settle.monitor = _ := monitor
      simp only [stands, List.append_nil]
      exact settled

theorem foldl_comeBack (account : schedule.Account motive heard) (kept : Kept motive fair)
    (positions : List Nat) : (positions.foldl Schedule.comeBack schedule).Account motive heard := by
  induction positions generalizing schedule with
  | nil => exact account
  | cons position rest ih => exact ih (account.comeBack kept position)

theorem advance (account : schedule.Account motive heard) (kept : Kept motive fair)
    (milliseconds : Nat) : (schedule.advance milliseconds).Account motive heard := by
  obtain ⟨positions, arrived⟩ := comeBack_of_perm (due_perm (schedule.pass milliseconds))
  have back := (account.pass kept milliseconds).foldl_comeBack kept positions
  rw [arrived, ← dropDue_eq] at back
  exact back.settle kept

end Account

open Course in
/-- What the watch does not do leaves its flags alone. -/
theorem flags_account (schedule : Schedule) : schedule.Account (fun course =>
    course.schedule.monitor = schedule.monitor ∧ course.schedule.stopping = schedule.stopping) [] :=
  ⟨{ schedule := schedule }, ⟨rfl, rfl⟩, rfl, rfl, rfl⟩

theorem flags_matchOffer (schedule : Schedule) (offer : Offer) (framework : FrameworkId) :
    (schedule.matchOffer offer framework).1.monitor = schedule.monitor ∧
      (schedule.matchOffer offer framework).1.stopping = schedule.stopping := by
  obtain ⟨course, flags, ends, -⟩ :=
    schedule.flags_account.matchOffer (Course.flags_kept _ _) offer framework
  rwa [ends] at flags

theorem flags_apply (schedule : Schedule) (status : Status) :
    (schedule.apply status).1.monitor = schedule.monitor ∧
      (schedule.apply status).1.stopping = schedule.stopping := by
  obtain ⟨course, flags, ends, -⟩ :=
    schedule.flags_account.apply (Course.flags_kept _ _) status fun _ _ _ => trivial
  rwa [ends] at flags

theorem flags_comeBack (schedule : Schedule) (position : Nat) :
    (schedule.comeBack position).monitor = schedule.monitor ∧
      (schedule.comeBack position).stopping = schedule.stopping := by
  obtain ⟨course, flags, ends, -⟩ :=
    schedule.flags_account.comeBack (Course.flags_kept _ _) position
  rwa [ends] at flags

theorem flags_advance (schedule : Schedule) (milliseconds : Nat) :
    (schedule.advance milliseconds).monitor = schedule.monitor ∧
      (schedule.advance milliseconds).stopping = schedule.stopping := by
  obtain ⟨course, flags, ends, -⟩ :=
    schedule.flags_account.advance (Course.flags_kept _ _) milliseconds
  rwa [ends] at flags

/-- What is known of tasks is the same, and so are the identities that come next. -/
structure Untold (before after : Schedule) : Prop where
  roster : after.roster = before.roster
  mint : after.mint = before.mint

theorem Untold.refl (schedule : Schedule) : schedule.Untold schedule :=
  ⟨rfl, rfl⟩

theorem untold_kept (schedule : Schedule) :
    Course.Kept (fun course => schedule.Untold course.schedule) fun _ _ => False where
  quiet course act untold silent := by
    have quiet := course.quiet_perform act silent.ne_report
    exact ⟨quiet.roster.trans untold.roster, quiet.mint.trans untold.mint⟩
  report _ _ _ _ unfair := unfair.elim

/-- Without reports nothing is told. -/
theorem untold_account (schedule : Schedule) :
    schedule.Account (fun course => schedule.Untold course.schedule) [] :=
  ⟨{ schedule := schedule }, .refl schedule, rfl, rfl, rfl⟩

theorem untold_matchOffer (schedule : Schedule) (offer : Offer) (framework : FrameworkId) :
    schedule.Untold (schedule.matchOffer offer framework).1 := by
  obtain ⟨course, untold, ends, -⟩ :=
    schedule.untold_account.matchOffer schedule.untold_kept offer framework
  rwa [ends] at untold

theorem untold_advance (schedule : Schedule) (milliseconds : Nat) :
    schedule.Untold (schedule.advance milliseconds) := by
  obtain ⟨course, untold, ends, -⟩ :=
    schedule.untold_account.advance schedule.untold_kept milliseconds
  rwa [ends] at untold

theorem untold_check (schedule : Schedule) : schedule.Untold schedule.check := by
  unfold check
  split
  · split <;> exact ⟨rfl, rfl⟩
  · exact .refl schedule

open Course in
theorem matchOffer_error {offer : Offer} {framework : FrameworkId} {failure : Failure}
    (failed : (schedule.matchOffer offer framework).2 = .error failure) :
    failure = .queueFull "pending" := by
  have kept := flags_kept schedule.monitor schedule.stopping
  let course : Course := { schedule := schedule }
  have flags : course.schedule.monitor = schedule.monitor ∧
    course.schedule.stopping = schedule.stopping := ⟨rfl, rfl⟩
  obtain ⟨_, matched⟩ := kept.matchNext flags rfl
    offer.agent framework schedule.pendingSize { remaining := Ledger.ofResources offer.resources }
  exact (matched.full failure failed).1

namespace Account

open Course

theorem mono {other : Course → Prop} (account : schedule.Account motive heard)
    (implies : ∀ course, motive course → other course) : schedule.Account other heard := by
  obtain ⟨course, holds, rest⟩ := account
  exact ⟨course, implies course holds, rest⟩

theorem asked_matchOffer {tasks : List TaskId} {result : Match}
    (account : schedule.Account (Asked groups tasks) heard) (offer : Offer) (framework : FrameworkId)
    (found : (schedule.matchOffer offer framework).2 = .ok result) :
    (schedule.matchOffer offer framework).1.Account
      (Asked groups (tasks ++ result.operations.flatMap Operation.taskIds)) heard := by
  obtain ⟨course, asked, rfl, rfl, idle⟩ := account
  obtain ⟨after, matched⟩ := (asked_kept groups tasks).matchNext asked idle offer.agent framework
    course.schedule.pendingSize { remaining := Ledger.ofResources offer.resources }
  refine ⟨after, ⟨matched.holds.whole, fun task member => ?_⟩, matched.schedule, matched.heard,
    matched.out⟩
  rcases List.mem_append.mp member with before | new
  · exact matched.holds.launched task before
  · obtain ⟨operation, operates, present⟩ := List.mem_flatMap.mp new
    exact (matched.launched result found operation operates).resolve_left nofun task present

theorem matchOffer_ok (account : schedule.Account (Whole groups) heard) (offer : Offer)
    (framework : FrameworkId) : ∃ found, (schedule.matchOffer offer framework).2 = .ok found := by
  obtain ⟨course, whole, rfl, -, idle⟩ := account
  obtain ⟨_, matched⟩ := (whole_kept groups).toKept.matchNext whole idle offer.agent framework
    course.schedule.pendingSize { remaining := Ledger.ofResources offer.resources }
  cases result : (course.schedule.matchOffer offer framework).2 with
  | ok found => exact ⟨found, rfl⟩
  | error failure =>
      obtain ⟨rfl, before, holds, full⟩ := matched.full failure result
      have fair : before.Fair (.append 0) := trivial
      exact absurd full (holds.owned.room_answer fair "pending")

theorem queued_eq_nil (account : schedule.Account (Whole groups) heard)
    (finished : schedule.roster.finished = true) : schedule.queued = [] := by
  obtain ⟨course, whole, rfl, -, idle⟩ := account
  have none := whole.waiting_eq_nil finished
  rwa [Course.waiting, idle, List.append_nil] at none

end Account
end Schedule
end Convoy
