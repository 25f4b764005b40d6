import Convoy.Proofs.Schedule.Launches
import Convoy.Proofs.Schedule.Order

/-!
# Matching one group at a time

With `sync` an offer is matched against the group that is next to be handed out, and against no other.
Either that group is launched and the gate is shut behind it, or it is handed back and stays the next
one, however often it is looked at. So an offer on which nothing is launched leaves no trace in what
comes later.
-/
namespace Convoy

namespace Queue

variable {queue : Queue}

theorem take?_eq_none (empty : queue.groups = []) : queue.take? = none := by
  simp only [groups, List.append_eq_nil_iff] at empty
  simp [take?, empty.1.1]

theorem entering_eq_nil (empty : queue.groups = []) : queue.entering = [] := by
  simp only [groups, List.append_eq_nil_iff, List.map_eq_nil_iff] at empty
  exact empty.1.2

theorem settle_eq (idle : queue.entering = []) : queue.settle = queue := by
  rw [settle, idle, enter, ← idle]

end Queue

namespace Schedule

variable {schedule next : Schedule} {group : TaskGroup}

theorem settle_eq (pending : schedule.pending.entering = [])
    (relaunched : schedule.relaunched.entering = []) : schedule.settle = schedule := by
  rw [settle, Queue.settle_eq pending, Queue.settle_eq relaunched]

/-- The schedule once the group that is out was taken back. -/
def retake (next : Schedule) (group : TaskGroup) : Schedule :=
  { next with held := some group, gate := .finished }

/-- With `sync`, a group is out and no other one can follow: the gate is shut, and no relaunch is on
its way. -/
structure Shut (next : Schedule) : Prop where
  sync : next.rules.sync = true
  gate : next.gate = .starting
  held : next.held = none
  relaunched : next.relaunched.groups = []
  delayed : next.delayed = []
  entering : next.pending.entering = []

namespace Shut

theorem pop_eq_none (shut : next.Shut) : next.pop = none := by
  simp [pop, shut.sync, Queue.take?_eq_none shut.relaunched, isOpen, shut.gate]

theorem append_eq (shut : next.Shut) (group : TaskGroup) :
    next.append group = (next.retake group, .ok ()) := by
  simp [append, retake, shut.sync, shut.held]

/-- The group that was taken back is handed out again, and what is left is as it was before. -/
theorem pop_retake (shut : next.Shut) (group : TaskGroup) :
    (next.retake group).pop = some (group, next) := by
  have same : { next.retake group with held := none, gate := .starting } = next := by
    rw [← shut.held, ← shut.gate]
    rfl
  have opened : (next.retake group).isOpen = true := rfl
  have none : (next.retake group).relaunched.take? = none := Queue.take?_eq_none shut.relaunched
  have sync : (next.retake group).rules.sync = true := shut.sync
  rw [pop, if_pos sync, none]
  simp only [opened, if_true]
  exact congrArg (fun left => some (group, left)) same

/-- Any number of looks at what can be handed out are looks at one group. -/
theorem matchNext_eq (shut : next.Shut) (popped : schedule.pop = some (group, next))
    (agent : AgentId) (framework : FrameworkId) (count : Nat) (found : Match) :
    schedule.matchNext agent framework (count + 1) found =
      if found.fits group then (next, .ok (found.launch group agent framework))
      else (next.retake group, .ok found) := by
  induction count generalizing schedule with
  | zero =>
      simp only [matchNext, popped, shut.append_eq]
  | succ count ih =>
      rw [matchNext, popped]
      dsimp only
      split
      · rw [matchNext, shut.pop_eq_none]
      · rename_i refused
        rw [shut.append_eq]
        exact (ih (shut.pop_retake group)).trans (if_neg refused)

end Shut

theorem pendingSize_of_pop (popped : schedule.pop = some (group, next)) :
    ∃ count, schedule.pendingSize = count + 1 := by
  have pops := pops_of_pop popped
  refine Nat.exists_eq_add_one_of_ne_zero fun none => ?_
  simp only [pendingSize, Queue.size, Nat.add_eq_zero_iff, List.length_eq_zero_iff] at none
  obtain ⟨⟨pending, relaunched⟩, held⟩ := none
  have absent : schedule.held = Option.none := by
    cases present : schedule.held with
    | none => rfl
    | some other => simp [present] at held
  cases pops with
  | relaunched sync taken => exact absurd (relaunched.symm.trans (Queue.items_take? taken)) (by simp)
  | opened sync empty gate nexts | parallel parallel nexts =>
      cases nexts with
      | held found => exact absurd (absent.symm.trans found) (by simp)
      | pending _ taken => exact absurd (pending.symm.trans (Queue.items_take? taken)) (by simp)

theorem Shut.matchOffer_eq (shut : next.Shut) (popped : schedule.pop = some (group, next))
    (offer : Offer) (framework : FrameworkId) :
    let found : Match := { remaining := Ledger.ofResources offer.resources }
    schedule.matchOffer offer framework =
      if found.fits group then (next, .ok (found.launch group offer.agent framework))
      else (next.retake group, .ok found) := by
  obtain ⟨count, size⟩ := pendingSize_of_pop popped
  rw [matchOffer, size]
  exact shut.matchNext_eq popped offer.agent framework count _

theorem matchOffer_of_pop_eq_none (stuck : schedule.pop = none) (offer : Offer)
    (framework : FrameworkId) :
    schedule.matchOffer offer framework =
      (schedule, .ok { remaining := Ledger.ofResources offer.resources }) := by
  unfold matchOffer
  cases schedule.pendingSize with
  | zero => rfl
  | succ count => rw [matchNext, stuck]

/-- Neither the roster nor the time says which group is handed out. -/
theorem pop_with (schedule : Schedule) (enter : Roster → Roster) (pass : Nat → Nat) :
    { schedule with roster := enter schedule.roster, now := pass schedule.now }.pop =
      schedule.pop.map fun (group, next) =>
        (group, { next with roster := enter next.roster, now := pass next.now }) := by
  unfold pop next? isOpen
  dsimp only
  split
  · split
    · rfl
    · split
      · cases schedule.held with
        | some group => rfl
        | none => cases schedule.pending.take? <;> rfl
      · rfl
  · cases schedule.held with
    | some group => rfl
    | none => cases schedule.pending.take? <;> rfl

end Schedule

namespace Course

open Schedule

variable {course : Course} {groups : List TaskGroup} {tasks : List TaskId}

/-- The groups go in turn, certain tasks were launched, and of a live task that ever finished it is
known that it finished. -/
structure InTurn (groups : List TaskGroup) (tasks : List TaskId) (course : Course) : Prop where
  ordered : ∃ turn, course.Ordered groups turn
  launched : ∀ task ∈ tasks, course.Launched task
  finished : ∀ earlier ∈ course.heard, earlier.state = .finished →
    (course.schedule.roster.owner? earlier.task).isSome →
    course.schedule.roster.state? earlier.task = some .finished

/-- The report is on one of certain tasks, or on one that is not live, and says nothing else of a task
of which it is known that it finished. -/
def Regular (tasks : List TaskId) (schedule : Schedule) (status : Status) : Prop :=
  (status.task ∈ tasks ∨ schedule.roster.owner? status.task = none) ∧
    (schedule.roster.state? status.task = some .finished → status.state = .finished)

theorem launched_perform (act : Act) {task : TaskId} (launched : course.Launched task) :
    (course.perform act).Launched task := by
  obtain ⟨group, member, present⟩ := launched
  exact ⟨group, course.launches_perform act member, present⟩

namespace InTurn

theorem known (inTurn : course.InTurn groups tasks) : course.Known groups := by
  obtain ⟨turn, ordered⟩ := inTurn.ordered
  exact ordered.owned.known

theorem lasting (inTurn : course.InTurn groups tasks) {status : Status}
    (regular : Regular tasks course.schedule status)
    (live : (course.schedule.roster.owner? status.task).isSome) (pause : Nat → Nat) :
    course.Lasting (.report status pause) := by
  rintro ⟨earlier, member, same, finished⟩
  have known := inTurn.finished earlier member finished (by rwa [same])
  exact regular.2 (same ▸ known)

theorem steady (inTurn : course.InTurn groups tasks) {status : Status}
    (regular : Regular tasks course.schedule status)
    (live : (course.schedule.roster.owner? status.task).isSome) (pause : Nat → Nat) :
    course.Steady (.report status pause) :=
  ⟨regular.1.imp_left (inTurn.launched _), inTurn.lasting regular live pause⟩

theorem finished_report (inTurn : course.InTurn groups tasks) {status : Status}
    {pause : Nat → Nat} (lasting : course.Lasting (.report status pause)) :
    ∀ earlier ∈ (course.perform (.report status pause)).heard, earlier.state = .finished →
      ((course.perform (.report status pause)).schedule.roster.owner? earlier.task).isSome →
      (course.perform (.report status pause)).schedule.roster.state? earlier.task =
        some .finished := by
  have known := inTurn.known
  have reported := known.reported status pause
  generalize course.perform (.report status pause) = after at reported
  intro earlier heard finished live
  cases reported with
  | ignored quiet =>
      rw [quiet.roster] at live ⊢
      exact inTurn.finished earlier (quiet.heard ▸ heard) finished live
  | recorded index owner roster mint more =>
      rw [more] at heard
      rw [roster] at live ⊢
      rw [Roster.state?_report]
      by_cases same : earlier.task = status.task
      · rw [if_pos same]
        rcases List.mem_append.mp heard with before | now
        · exact congrArg some (lasting ⟨earlier, before, same, finished⟩)
        · rw [List.mem_singleton.mp now] at finished
          rw [finished]
      · rw [if_neg same]
        rcases List.mem_append.mp heard with before | now
        · exact inTurn.finished earlier before finished live
        · exact absurd (congrArg Status.task (List.mem_singleton.mp now)) same
  | relaunched index tracked owner found roster mint more =>
      obtain ⟨_, there, reported⟩ := known.coherent.owner?_iff.mp owner
      rw [found, Option.some.injEq] at there
      subst there
      rw [roster, Roster.owner?_relaunch] at live
      have issued : course.schedule.mint.Issued earlier.task := by
        rcases more with same | more
        · exact known.issued earlier (same ▸ heard)
        · rcases List.mem_append.mp (more ▸ heard) with before | now
          · exact known.issued earlier before
          · rw [List.mem_singleton.mp now]
            exact known.coherent.issued_of_owner owner
      -- A task that was heard of is none of the new ones, so it is live only if it was before.
      rw [if_neg fun new => tracked.group.not_issued_of_mem_renew _ new issued] at live
      split at live
      · contradiction
      · rename_i other
        have before : earlier ∈ course.heard := by
          rcases more with same | more
          · exact same ▸ heard
          · rcases List.mem_append.mp (more ▸ heard) with before | now
            · exact before
            · rw [List.mem_singleton.mp now] at other
              exact absurd reported other
        rw [roster, known.coherent.state?_relaunch_of_live live other]
        exact inTurn.finished earlier before finished live

end InTurn

theorem inTurn_kept (groups : List TaskGroup) (tasks : List TaskId) :
    Kept (InTurn groups tasks) fun course status => Regular tasks course.schedule status where
  quiet course act inTurn silent := by
    obtain ⟨turn, ordered⟩ := inTurn.ordered
    have steady : course.Steady act := by
      cases act with
      | report status pause => exact silent.elim
      | _ => exact ⟨trivial, trivial⟩
    have quiet := course.quiet_perform act silent.ne_report
    refine ⟨ordered_perform ordered steady, fun task member =>
      launched_perform act (inTurn.launched task member), ?_⟩
    rw [quiet.roster, quiet.heard]
    exact inTurn.finished
  report course status pause inTurn regular := by
    cases owner : course.schedule.roster.owner? status.task with
    | none =>
        rw [perform_report_absent pause owner]
        exact inTurn
    | some index =>
        have live : (course.schedule.roster.owner? status.task).isSome := by
          rw [owner, Option.isSome_some]
        obtain ⟨turn, ordered⟩ := inTurn.ordered
        have steady := inTurn.steady regular live pause
        exact ⟨ordered_perform ordered steady, fun task member =>
          launched_perform _ (inTurn.launched task member), inTurn.finished_report steady.2⟩

theorem inTurn_start (groups : List TaskGroup) {rules : Rules} (mint : Mint)
    (sync : rules.sync = true) : (start groups rules mint).InTurn groups [] where
  ordered := ⟨0, ordered_start groups mint sync⟩
  launched := by simp
  finished := by simp [start]

/-- What is known while a group is about to be handed out, and of what is left then. -/
structure Poised (course : Course) (group : TaskGroup) (next : Schedule) : Prop where
  shut : next.Shut
  rules : next.rules = course.schedule.rules
  calm : course.schedule.settle = course.schedule
  delayed : course.schedule.delayed = []
  alone : ∀ other ∈ course.schedule.relaunched.groups, other = group
  done : ∀ (index : Nat) (tracked : Tracked),
    course.schedule.roster.tracked[index]? = some tracked → tracked.group ∈ course.inFlight →
    course.schedule.roster.Done tracked

theorem delayed_pops {schedule next : Schedule} {group : TaskGroup}
    (pops : Pops schedule group next) : next.delayed = schedule.delayed := by
  cases pops with
  | relaunched sync taken => rfl
  | opened sync empty gate nexts | parallel parallel nexts => cases nexts <;> rfl

theorem relaunched_pops {schedule next : Schedule} {group : TaskGroup}
    (pops : Pops schedule group next) (none : next.relaunched.groups = []) :
    schedule.relaunched.entering = [] ∧ ∀ other ∈ schedule.relaunched.groups, other = group := by
  cases pops with
  | @relaunched rest sync taken =>
      have none : rest.groups = [] := none
      have first := Queue.groups_take? taken
      rw [none] at first
      have entered := Queue.entering_take? taken
      rw [Queue.entering_eq_nil none] at entered
      refine ⟨List.prefix_nil.mp entered, fun other member => ?_⟩
      exact List.mem_singleton.mp (first.subset member)
  | opened sync empty gate nexts | parallel parallel nexts =>
      have none : schedule.relaunched.groups = [] := by cases nexts <;> exact none
      exact ⟨Queue.entering_eq_nil none, by simp [none]⟩

theorem Ordered.poised {turn : Nat} (ordered : course.Ordered groups turn) (idle : course.out = [])
    {group : TaskGroup} {next : Schedule} (popped : course.schedule.pop = some (group, next)) :
    course.Poised group next := by
  have pops := pops_of_pop popped
  obtain ⟨index, tracked, rfl, hands⟩ := ordered.hands pops
  have moving := hands.moving
  simp only [idle, List.nil_append, List.cons_append, List.cons.injEq, true_and,
    List.append_eq_nil_iff, List.map_eq_nil_iff] at moving
  obtain ⟨relaunched, delayed⟩ := moving
  obtain ⟨entering, alone⟩ := relaunched_pops pops relaunched
  have fixed := course.fixed_perform .pop
  simp only [perform, popped] at fixed
  constructor
  case shut =>
    exact ⟨fixed.rules ▸ ordered.sync, hands.gate, hands.held, relaunched, delayed, hands.entering⟩
  case rules => exact fixed.rules
  case delayed => exact (delayed_pops pops).symm.trans delayed
  case calm => exact settle_eq ordered.entering entering
  case alone => exact alone
  case done =>
    intro other known found flying
    by_contra undone
    obtain ⟨-, nothing, -, -, shut⟩ := ordered.last_of_not_done found flying undone
    cases pops with
    | relaunched sync taken =>
        simp only [Course.moving, List.append_eq_nil_iff] at nothing
        rw [Queue.take?_eq_none nothing.1.2] at taken
        contradiction
    | opened sync empty gate nexts => exact shut gate
    | parallel parallel nexts =>
        rw [ordered.sync] at parallel
        contradiction

/-- While a group is about to be handed out, a report says at most once more that a task finished. -/
theorem InTurn.report_eq (inTurn : course.InTurn groups tasks) {group : TaskGroup}
    {next : Schedule} (poised : course.Poised group next) {status : Status}
    (regular : Regular tasks course.schedule status) :
    course.schedule.roster.owner? status.task = none ∨
      ∃ (index : Nat) (tracked : Tracked),
        course.schedule.roster.owner? status.task = some index ∧
        course.schedule.roster.tracked[index]? = some tracked ∧
        course.schedule.roster.Done tracked ∧ status.state = .finished ∧
        course.schedule.rules.restart.restarts .finished = false := by
  cases owner : course.schedule.roster.owner? status.task with
  | none => exact .inl rfl
  | some index =>
      have live : (course.schedule.roster.owner? status.task).isSome := by
        rw [owner, Option.isSome_some]
      obtain ⟨turn, ordered⟩ := inTurn.ordered
      have steady := inTurn.steady regular live fun _ => 0
      obtain ⟨tracked, found, member⟩ := ordered.owned.known.coherent.owner?_iff.mp owner
      have flying := ordered.owned.inFlight_of_fair steady.1 owner found
      have done := poised.done index tracked found flying
      have again := ordered.finished_of_done steady owner found done
      exact .inr ⟨index, tracked, rfl, found, done, again⟩

end Course

namespace Dispatch

open Schedule Course

variable {dispatch left right : Dispatch} {groups : List TaskGroup}

/-- Reports are on tasks that were launched, or on tasks that are not live, and a task of which it is
known that it finished reports nothing else. -/
def Steady (dispatch : Dispatch) : Occasion → Prop
  | .report status _ =>
    Regular (dispatch.operations.flatMap (·.taskIds)) dispatch.schedule status
  | _ => True

/-- Every occasion keeps a rule at the time at which it comes. -/
def Obeys (rule : Dispatch → Occasion → Prop) : Dispatch → List Occasion → Prop
  | _, [] => True
  | dispatch, occasion :: rest => rule dispatch occasion ∧ Obeys rule (dispatch.meet occasion) rest

/-- The groups go in turn, and what was launched are the tasks of the operations. -/
def InTurn (groups : List TaskGroup) (dispatch : Dispatch) : Prop :=
  ∃ heard, dispatch.schedule.Account
    (Course.InTurn groups (dispatch.operations.flatMap (·.taskIds))) heard

theorem InTurn.offer (inTurn : dispatch.InTurn groups) (offer : Offer) (framework : FrameworkId) :
    (dispatch.meet (.offer offer framework)).InTurn groups := by
  obtain ⟨_, course, holds, ends, rfl, idle⟩ := inTurn
  obtain ⟨after, matched⟩ := (inTurn_kept groups _).matchNext holds idle offer.agent framework
    course.schedule.pendingSize { remaining := Ledger.ofResources offer.resources }
  rw [ends] at matched
  unfold meet
  dsimp only
  split
  · rename_i schedule found answer
    refine ⟨_, after, ⟨matched.holds.ordered, fun task member => ?_, matched.holds.finished⟩, ?_,
      rfl, matched.out⟩
    · rw [List.flatMap_append] at member
      rcases List.mem_append.mp member with before | new
      · exact matched.holds.launched task before
      · obtain ⟨operation, operates, present⟩ := List.mem_flatMap.mp new
        have launched := matched.launched found (congrArg Prod.snd answer) operation operates
        exact launched.resolve_left nofun task present
    · exact matched.schedule.trans (congrArg Prod.fst answer)
  · rename_i schedule failure answer
    exact ⟨_, after, matched.holds, matched.schedule.trans (congrArg Prod.fst answer), rfl,
      matched.out⟩

theorem InTurn.meet (inTurn : dispatch.InTurn groups) {occasion : Occasion}
    (steady : dispatch.Steady occasion) : (dispatch.meet occasion).InTurn groups := by
  have kept := inTurn_kept groups (dispatch.operations.flatMap (·.taskIds))
  cases occasion with
  | offer offer framework => exact inTurn.offer offer framework
  | report status pause =>
      obtain ⟨_, course, holds, ends, rfl, idle⟩ := inTurn
      have regular : Regular _ dispatch.schedule status := steady
      rw [← ends] at regular
      refine ⟨_, _, kept.report _ status pause holds regular, ?_, rfl, idle⟩
      exact congrArg (fun schedule => (schedule.applyWith pause status).1) ends
  | comeBack position =>
      obtain ⟨heard, account⟩ := inTurn
      exact ⟨heard, account.comeBack kept position⟩
  | settle =>
      obtain ⟨heard, account⟩ := inTurn
      exact ⟨heard, account.settle kept⟩
  | pass milliseconds =>
      obtain ⟨heard, account⟩ := inTurn
      exact ⟨heard, account.pass kept milliseconds⟩

theorem InTurn.meetAll (inTurn : dispatch.InTurn groups) {occasions : List Occasion}
    (steady : dispatch.Obeys Steady occasions) : (dispatch.meetAll occasions).InTurn groups := by
  induction occasions generalizing dispatch with
  | nil => exact inTurn
  | cons occasion rest ih => exact ih (inTurn.meet steady.1) steady.2

theorem inTurn_start (groups : List TaskGroup) {rules : Rules} (mint : Mint)
    (sync : rules.sync = true) : (start groups rules mint).InTurn groups :=
  ⟨[], .start (Course.inTurn_start groups mint sync)⟩

/-- Two dispatches that are the same, but for one having handed back the group that the other is about
to hand out. -/
inductive Level (left : Dispatch) : Dispatch → Prop where
  | same : Level left left
  | handedBack {group : TaskGroup} {next : Schedule}
      (popped : left.schedule.pop = some (group, next)) :
      Level left { left with schedule := next.retake group }

theorem level_with {group : TaskGroup} {next : Schedule}
    (popped : left.schedule.pop = some (group, next)) (enter : Roster → Roster) (pass : Nat → Nat) :
    Level
      { left with schedule :=
        { left.schedule with
          roster := enter left.schedule.roster, now := pass left.schedule.now } }
      { left with schedule :=
        { next.retake group with roster := enter next.roster, now := pass next.now } } := by
  refine @Level.handedBack _ _ { next with roster := enter next.roster, now := pass next.now } ?_
  rw [pop_with, popped]
  rfl

theorem InTurn.poised (inTurn : dispatch.InTurn groups) {group : TaskGroup} {next : Schedule}
    (popped : dispatch.schedule.pop = some (group, next)) :
    ∃ course : Course, course.schedule = dispatch.schedule ∧ course.Poised group next ∧
      course.InTurn groups (dispatch.operations.flatMap (·.taskIds)) := by
  obtain ⟨_, course, holds, ends, rfl, idle⟩ := inTurn
  obtain ⟨turn, ordered⟩ := holds.ordered
  exact ⟨course, ends, ordered.poised idle (ends ▸ popped), holds⟩

theorem Level.offer (level : Level left right) (inTurn : left.InTurn groups) (offer : Offer)
    (framework : FrameworkId) :
    Level (left.meet (.offer offer framework)) (right.meet (.offer offer framework)) := by
  cases level with
  | same => exact .same
  | @handedBack group next popped =>
      obtain ⟨_, _, poised, _⟩ := inTurn.poised popped
      have matched := poised.shut.matchOffer_eq popped offer framework
      have again := poised.shut.matchOffer_eq (poised.shut.pop_retake group) offer framework
      -- The group is launched in both or stays the next one in both.
      have same : (left.meet (.offer offer framework)) =
          ({ left with schedule := next.retake group }.meet (.offer offer framework)) := by
        simp only [meet, matched, again]
      rw [same]
      exact .same

theorem Level.report (level : Level left right) (inTurn : left.InTurn groups) {status : Status}
    {pause : Nat → Nat} (steady : left.Steady (.report status pause)) :
    Level (left.meet (.report status pause)) (right.meet (.report status pause)) := by
  cases level with
  | same => exact .same
  | @handedBack group next popped =>
      obtain ⟨course, ends, poised, holds⟩ := inTurn.poised popped
      have regular : Regular _ left.schedule status := steady
      rw [← ends] at regular
      have roster : (next.retake group).roster = left.schedule.roster :=
        (roster_pops (pops_of_pop popped)).1
      rcases holds.report_eq poised regular with absent | known
      · rw [ends] at absent
        simp only [meet, applyWith, roster, absent]
        exact .handedBack popped
      · obtain ⟨index, tracked, owner, found, done, finished, final⟩ := known
        rw [ends] at owner found done final
        have rules : (next.retake group).rules = left.schedule.rules := by
          rw [← ends]
          exact poised.rules
        -- Both record once more that the task finished, and neither moves its gate.
        have recorded {schedule : Schedule} (same : schedule.roster = left.schedule.roster)
            (alike : schedule.rules = left.schedule.rules) :
            (schedule.applyWith pause status).1 =
              { schedule with roster := schedule.roster.report status.task status.state } := by
          rw [← same] at owner found done
          have final : schedule.rules.restart.restarts status.state.outcome = false := by
            rw [alike, finished]
            exact final
          rw [applyWith_eq_record pause owner final (by rw [finished]; simp [TaskState.outcome]),
            record_of_done found done]
        simp only [meet, recorded rfl rfl, recorded roster rules]
        exact level_with popped (·.report status.task status.state) id

theorem Level.meet (level : Level left right) (inTurn : left.InTurn groups) {occasion : Occasion}
    (steady : left.Steady occasion) : Level (left.meet occasion) (right.meet occasion) := by
  cases occasion with
  | offer offer framework => exact level.offer inTurn offer framework
  | report status pause => exact level.report inTurn steady
  | comeBack position =>
      cases level with
      | same => exact .same
      | @handedBack group next popped =>
          obtain ⟨course, ends, poised, _⟩ := inTurn.poised popped
          have none : left.schedule.delayed = [] := ends ▸ poised.delayed
          have gone : (next.retake group).delayed = [] := poised.shut.delayed
          simp only [meet, Schedule.comeBack, none, gone, List.getElem?_nil]
          exact .handedBack popped
  | settle =>
      cases level with
      | same => exact .same
      | @handedBack group next popped =>
          obtain ⟨course, ends, poised, _⟩ := inTurn.poised popped
          have calm : left.schedule.settle = left.schedule := ends ▸ poised.calm
          have still : (next.retake group).settle = next.retake group :=
            settle_eq poised.shut.entering (Queue.entering_eq_nil poised.shut.relaunched)
          simp only [meet, calm, still]
          exact .handedBack popped
  | pass milliseconds =>
      cases level with
      | same => exact .same
      | @handedBack group next popped =>
          exact level_with popped id (· + milliseconds)

theorem Level.meetAll (level : Level left right) (inTurn : left.InTurn groups)
    {occasions : List Occasion} (steady : left.Obeys Steady occasions) :
    Level (left.meetAll occasions) (right.meetAll occasions) := by
  induction occasions generalizing left right with
  | nil => exact level
  | cons occasion rest ih =>
      exact ih (level.meet inTurn steady.1) (inTurn.meet steady.1) steady.2

theorem Level.alike (level : Level left right) (inTurn : left.InTurn groups) :
    right.schedule.pop = left.schedule.pop ∧ right.operations = left.operations := by
  cases level with
  | same => exact ⟨rfl, rfl⟩
  | @handedBack group next popped =>
      obtain ⟨_, _, poised, _⟩ := inTurn.poised popped
      exact ⟨(poised.shut.pop_retake group).trans popped.symm, rfl⟩

/-- What an offer comes to: the group that is next to be handed out is launched, or nothing is. -/
structure Serial (dispatch : Dispatch) (offer : Offer) (framework : FrameworkId) (after : Schedule)
    (result : Match) : Prop where
  matched : dispatch.schedule.matchOffer offer framework = (after, .ok result)
  head : result.operations = [] ∨ ∃ group, dispatch.schedule.pop = some (group, after) ∧
    result.operations = [group.launchOn offer.agent framework]
  /-- What is handed out next is the one relaunch that is under way, if there is one. -/
  relaunch : ∀ group next, dispatch.schedule.pop = some (group, next) →
    ∀ other ∈ dispatch.schedule.relaunched.groups ++ dispatch.schedule.delayed.map (·.group),
      other = group
  /-- An offer on which nothing was launched changes nothing of what is handed out and launched from
  then on, whatever comes. -/
  unchanged : result.operations = [] → ∀ later, dispatch.Obeys Steady later →
    let shown := (dispatch.meet (.offer offer framework)).meetAll later
    shown.schedule.pop = (dispatch.meetAll later).schedule.pop ∧
      shown.operations = (dispatch.meetAll later).operations

theorem InTurn.unchanged (inTurn : dispatch.InTurn groups) {offer : Offer}
    {framework : FrameworkId}
    (level : Level dispatch (dispatch.meet (.offer offer framework))) {later : List Occasion}
    (steady : dispatch.Obeys Steady later) :
    let shown := (dispatch.meet (.offer offer framework)).meetAll later
    shown.schedule.pop = (dispatch.meetAll later).schedule.pop ∧
      shown.operations = (dispatch.meetAll later).operations :=
  (level.meetAll inTurn steady).alike (inTurn.meetAll steady)

theorem InTurn.serial (inTurn : dispatch.InTurn groups) (offer : Offer) (framework : FrameworkId) :
    ∃ after result, dispatch.Serial offer framework after result := by
  cases popped : dispatch.schedule.pop with
  | none =>
      have matched := matchOffer_of_pop_eq_none popped offer framework
      refine ⟨_, _, matched, .inl rfl, by simp [popped], fun _ later steady => ?_⟩
      refine inTurn.unchanged ?_ steady
      have same : dispatch.meet (.offer offer framework) = dispatch := by
        simp only [Dispatch.meet, matched, List.append_nil]
      rw [same]
      exact .same
  | some first =>
      obtain ⟨group, next⟩ := first
      obtain ⟨course, ends, poised, _⟩ := inTurn.poised popped
      have relaunch : ∀ other ∈
          dispatch.schedule.relaunched.groups ++ dispatch.schedule.delayed.map (·.group),
          other = group := by
        rw [← ends, poised.delayed, List.map_nil, List.append_nil]
        exact poised.alone
      have matched := poised.shut.matchOffer_eq popped offer framework
      dsimp only at matched
      split at matched
      · refine ⟨_, _, matched, .inr ⟨group, popped, rfl⟩, by simpa [popped] using relaunch, ?_⟩
        intro nothing
        contradiction
      · refine ⟨_, _, matched, .inl rfl, by simpa [popped] using relaunch, fun _ later steady => ?_⟩
        refine inTurn.unchanged ?_ steady
        simp only [Dispatch.meet, matched, List.append_nil]
        exact .handedBack popped

/-- With `sync`, an offer launches the group that is next to be handed out, which is a relaunch if one
is under way, or launches nothing and leaves what is handed out from then on as it is. -/
theorem serial_meetAll (groups : List TaskGroup) {rules : Rules} (mint : Mint)
    (sync : rules.sync = true) {occasions : List Occasion}
    (steady : (start groups rules mint).Obeys Steady occasions) (offer : Offer)
    (framework : FrameworkId) :
    ∃ after result,
      ((start groups rules mint).meetAll occasions).Serial offer framework after result :=
  ((inTurn_start groups mint sync).meetAll steady).serial offer framework

theorem serial_two :
    let offer (cpus : Float) : Offer :=
      { id := ⟨"offer", by decide⟩
        agent := ⟨"agent", by decide⟩
        resources := [.scalar "cpus" cpus] }
    let framework : FrameworkId := ⟨"framework", by decide⟩
    let group (name : String) (number : Nat) : TaskGroup :=
      { tasks := [{ name := name, id := .stamped number, resources := [.scalar "cpus" 2.0] }]
        networks := []
        executor := { id := .stamped (number + 1) }
        hasTask := by simp }
    let occasions : List Occasion :=
      [.offer (offer 4.0) framework, .report { task := .stamped 5, state := .finished } fun _ => 0]
    let dispatch := (start [group "first" 0, group "second" 2] { sync := true } ⟨4⟩).meetAll
      occasions
    (start [group "first" 0, group "second" 2] { sync := true } ⟨4⟩).Obeys Steady occasions ∧
      dispatch.operations.flatMap (·.taskIds) = [.stamped 5] ∧
      dispatch.schedule.pop.isSome ∧
      ∃ after result, dispatch.Serial (offer 1.0) framework after result := by
  intro offer framework group occasions dispatch
  have steady : (start [group "first" 0, group "second" 2] { sync := true } ⟨4⟩).Obeys Steady
      occasions := by
    refine ⟨trivial, ⟨.inl ?_, by decide +kernel⟩, trivial⟩
    decide +kernel
  exact ⟨steady, by decide +kernel, by decide +kernel, serial_meetAll _ ⟨4⟩ rfl steady _ _⟩

end Dispatch
end Convoy
