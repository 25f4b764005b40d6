import Convoy.Proofs.Schedule.Account

/-!
# The restart budget

A report strikes a group if it is on one of the group's live tasks and the rules start the group again
because of it. Every strike within the limit puts the group into its queue once more, with the delay
for the number of strikes before it, and nothing else does. The strikes beyond the limit are answered
by a failure. What strikes one group is not charged to another.
-/
namespace Convoy

namespace Rules

/-- Whether a strike is granted that comes after a number of others. -/
def grants (rules : Rules) (strikes : Nat) : Bool :=
  match rules.maxRestarts with
  | none => true
  | some limit => decide (strikes < limit.toNat)

/-- How many of the first strikes are granted. -/
def granted (rules : Rules) (strikes : Nat) : Nat :=
  match rules.maxRestarts with
  | none => strikes
  | some limit => min strikes limit.toNat

variable {rules : Rules} {strikes : Nat}

theorem granted_zero (rules : Rules) : rules.granted 0 = 0 := by
  unfold granted
  split
  · rfl
  · exact Nat.zero_min _

theorem granted_succ (rules : Rules) (strikes : Nat) :
    rules.granted (strikes + 1) = rules.granted strikes + (rules.grants strikes).toNat := by
  unfold granted grants
  split
  · rfl
  · rename_i limit _
    by_cases below : strikes < limit.toNat
    · simp only [below, decide_true, Bool.toNat_true]
      omega
    · simp only [below, decide_false, Bool.toNat_false]
      omega

theorem granted_of_grants (grants : rules.grants strikes = true) :
    rules.granted strikes = strikes := by
  unfold Rules.grants at grants
  unfold granted
  split
  · rfl
  · rename_i limit found
    simp only [found, decide_eq_true_eq] at grants
    omega

theorem granted_of_spent {limit : UInt32} (limited : rules.maxRestarts = some limit)
    (spent : limit.toNat ≤ strikes) : rules.granted strikes = limit.toNat := by
  simp only [granted, limited]
  omega

end Rules

theorem Schedule.isSpent_granted (schedule : Schedule) (strikes : Nat) :
    schedule.isSpent (schedule.rules.granted strikes) = !schedule.rules.grants strikes := by
  unfold isSpent Rules.granted Rules.grants
  cases schedule.rules.maxRestarts with
  | none => rfl
  | some limit =>
      dsimp only
      rw [← decide_not, decide_eq_decide]
      omega

namespace Schedule

variable {schedule : Schedule} {index : Nat} {tracked : Tracked} {status : Status}

theorem applyWith_strike (pause : Nat → Nat)
    (owner : schedule.roster.owner? status.task = some index)
    (found : schedule.roster.tracked[index]? = some tracked)
    (restarts : schedule.rules.restart.restarts status.state.outcome = true) :
    schedule.applyWith pause status = schedule.restart pause index tracked status := by
  simp [applyWith, owner, found, restarts]

theorem restart_of_spent (pause : Nat → Nat) (spent : schedule.isSpent tracked.restarts = true) :
    schedule.restart pause index tracked status =
      (schedule, .error (.restartLimit status.task status.state tracked.restarts)) := by
  rw [restart, if_pos spent]

theorem restart_of_allowed (pause : Nat → Nat)
    (allowed : schedule.isSpent tracked.restarts = false) :
    schedule.restart pause index tracked status =
      (schedule.renewed index tracked).requeue (tracked.group.renew schedule.mint).1
        (pause tracked.restarts) := by
  rw [restart, if_neg (by simp [allowed])]
  rfl

theorem push?_of_requeue {group : TaskGroup} {after : Schedule}
    (taken : schedule.requeue group 0 = (after, .ok ())) :
    after.delayed = schedule.delayed ∧
      if schedule.rules.sync then
        after.pending = schedule.pending ∧
          schedule.relaunched.push? group = some after.relaunched
      else
        after.relaunched = schedule.relaunched ∧
          schedule.pending.push? group = some after.pending := by
  rw [requeue, if_neg (by simp)] at taken
  split at taken
  · rename_i sync
    split at taken
    · rename_i pushed
      cases taken
      exact ⟨rfl, by rw [if_pos sync]; exact ⟨rfl, pushed⟩⟩
    · cases taken
  · rename_i parallel
    unfold enqueue at taken
    split at taken
    · rename_i pushed
      cases taken
      exact ⟨rfl, by rw [if_neg parallel]; exact ⟨rfl, pushed⟩⟩
    · cases taken

end Schedule

namespace Course

open Schedule

variable {course : Course} {groups : List TaskGroup} {rules : Rules} {index : Nat}

/-- Whether an act is a report on a live task of the group at an index, because of which the rules
start the group again. -/
def strikes (index : Nat) (course : Course) : Act → Bool
  | .report status _ =>
    course.schedule.roster.owner? status.task == some index &&
      course.schedule.rules.restart.restarts status.state.outcome
  | _ => false

/-- Whether the group at an index is to be launched. -/
def waitsAt (course : Course) (index : Nat) : Bool :=
  course.waiting.any fun group => course.schedule.roster.indexOf? group == some index

/-- Whether an act lets the group at an index wait that did not wait before. -/
def requeues (index : Nat) (course : Course) (act : Act) : Bool :=
  !course.waitsAt index && (course.perform act).waitsAt index

/-- How many acts pass a test, each at the time at which it comes. -/
def countActs (test : Course → Act → Bool) : Course → List Act → Nat
  | _, [] => 0
  | course, act :: rest => (test course act).toNat + countActs test (course.perform act) rest

theorem Owned.waitsAt_iff (owned : course.Owned groups) :
    course.waitsAt index = true ↔ ∃ tracked,
      course.schedule.roster.tracked[index]? = some tracked ∧ tracked.group ∈ course.waiting := by
  simp only [waitsAt, List.any_eq_true, beq_iff_eq]
  constructor
  · rintro ⟨group, waits, here⟩
    obtain ⟨tracked, member, rfl⟩ := List.mem_map.mp (owned.groups_of_waiting waits)
    obtain ⟨other, found⟩ := List.mem_iff_getElem?.mp member
    have there := owned.known.coherent.indexOf? found
    rw [here, Option.some.injEq] at there
    exact ⟨tracked, there ▸ found, waits⟩
  · rintro ⟨tracked, found, waits⟩
    exact ⟨tracked.group, waits, owned.known.coherent.indexOf? found⟩

/-- A group is put under fresh identities and into its queue: after a delay, or at once if there is
none. -/
structure Renewed (course : Course) (index : Nat) (old : Tracked) (milliseconds : Nat)
    (after : Course) : Prop where
  tracked : after.schedule.roster.tracked = course.schedule.roster.tracked.set index
    ⟨(old.group.renew course.schedule.mint).1, old.restarts + 1⟩
  delayed : milliseconds ≠ 0 →
    after.schedule.pending = course.schedule.pending ∧
      after.schedule.relaunched = course.schedule.relaunched ∧
      after.schedule.delayed = course.schedule.delayed ++
        [⟨course.schedule.now + milliseconds, course.schedule.serials,
          (old.group.renew course.schedule.mint).1⟩]
  atOnce : milliseconds = 0 →
    after.schedule.delayed = course.schedule.delayed ∧
      if course.schedule.rules.sync then
        after.schedule.pending = course.schedule.pending ∧
          course.schedule.relaunched.push? (old.group.renew course.schedule.mint).1 =
            some after.schedule.relaunched
      else
        after.schedule.relaunched = course.schedule.relaunched ∧
          course.schedule.pending.push? (old.group.renew course.schedule.mint).1 =
            some after.schedule.pending

section Strikes

variable {status : Status} {pause : Nat → Nat} {tracked : Tracked}

theorem strikes_report : course.strikes index (.report status pause) = true ↔
    course.schedule.roster.owner? status.task = some index ∧
      course.schedule.rules.restart.restarts status.state.outcome = true := by
  simp [strikes]

theorem strikes_iff {act : Act} : course.strikes index act = true ↔
    ∃ status pause, act = .report status pause ∧
      course.schedule.roster.owner? status.task = some index ∧
      course.schedule.rules.restart.restarts status.state.outcome = true := by
  cases act with
  | report status pause => simp [strikes_report]
  | _ => simp [strikes]

theorem strike_refused (owner : course.schedule.roster.owner? status.task = some index)
    (found : course.schedule.roster.tracked[index]? = some tracked)
    (restarts : course.schedule.rules.restart.restarts status.state.outcome = true)
    (spent : course.schedule.isSpent tracked.restarts = true) :
    course.answer (.report status pause) =
        .error (.restartLimit status.task status.state tracked.restarts) ∧
      course.perform (.report status pause) = course := by
  have answered := (applyWith_strike pause owner found restarts).trans (restart_of_spent pause spent)
  simp [answer, perform, answered, Except.isOk, Except.toBool]

/-- A strike finds its group in flight, and within the limit makes it wait. -/
theorem Owned.strike_granted (owned : course.Owned groups) (pause : Nat → Nat)
    (fair : course.Fair (.report status pause))
    (owner : course.schedule.roster.owner? status.task = some index)
    (found : course.schedule.roster.tracked[index]? = some tracked)
    (restarts : course.schedule.rules.restart.restarts status.state.outcome = true)
    (allowed : course.schedule.isSpent tracked.restarts = false) :
    course.answer (.report status pause) = .ok () ∧
      course.Renewed index tracked (pause tracked.restarts)
        (course.perform (.report status pause)) ∧
      course.requeues index (.report status pause) = true := by
  have flying := owned.inFlight_of_fair fair owner found
  have puts := requeues_requeue (course.schedule.renewed index tracked)
    (tracked.group.renew course.schedule.mint).1 (pause tracked.restarts)
  have taken := owned.requeue_ok fair owner found puts
  have restarted : course.schedule.restart pause index tracked status = _ :=
    restart_of_allowed pause allowed
  have after := owned_perform owned fair
  rcases requeued : (course.schedule.renewed index tracked).requeue
    (tracked.group.renew course.schedule.mint).1 (pause tracked.restarts) with ⟨next, result⟩
  rw [requeued] at puts taken
  dsimp only at taken
  subst taken
  have answered : course.schedule.applyWith pause status = (next, .ok ()) :=
    (applyWith_strike pause owner found restarts).trans (restarted.trans requeued)
  have roster : next.roster =
      (course.schedule.roster.relaunch index tracked course.schedule.mint).2.1 :=
    (roster_requeues puts).1
  have performed : course.perform (.report status pause) =
      { course with schedule := next, heard := course.heard ++ [status] } := by
    simp [perform, answered, owner, Except.isOk, Except.toBool]
  have tracks : next.roster.tracked = course.schedule.roster.tracked.set index
      ⟨(tracked.group.renew course.schedule.mint).1, tracked.restarts + 1⟩ := by
    rw [roster, Roster.tracked_relaunch]
  rw [performed] at after ⊢
  refine ⟨by simp only [answer, answered], ⟨tracks, ?_, ?_⟩, ?_⟩
  · intro late
    rw [requeue, if_pos late] at requeued
    cases requeued
    exact ⟨rfl, rfl, rfl⟩
  · intro now
    rw [now] at requeued
    have pushed := push?_of_requeue requeued
    exact pushed
  · -- The group was in flight, so its only copy that waits is the one that came.
    rw [requeues, Bool.and_eq_true, Bool.not_eq_true', ← Bool.not_eq_true, owned.waitsAt_iff,
      performed, after.waitsAt_iff]
    constructor
    · rintro ⟨_, there, waits⟩
      rw [found, Option.some.injEq] at there
      exact owned.not_waiting flying (there ▸ waits)
    · refine ⟨_, tracked_requeues found puts, ?_⟩
      have queued := queued_requeues puts rfl
      exact List.mem_append_left _ (queued.symm.subset List.mem_cons_self)

theorem Owned.report_spared (owned : course.Owned groups)
    (fair : course.Fair (.report status pause))
    (spared : course.strikes index (.report status pause) = false) :
    (course.perform (.report status pause)).schedule.roster.tracked[index]? =
        course.schedule.roster.tracked[index]? ∧
      ((course.perform (.report status pause)).waitsAt index = true →
        course.waitsAt index = true) := by
  have after := owned_perform owned fair
  rw [owned.waitsAt_iff, after.waitsAt_iff]
  have performs := course.performs_perform (.report status pause)
  generalize course.perform (.report status pause) = next at performs after
  cases performs with
  | nothing => exact ⟨rfl, id⟩
  | @reported _ _ result applies =>
      cases applies with
      | @relaunched other known owner found restarts allowed _ puts =>
          have different : other ≠ index := by
            rintro rfl
            simp [strikes, owner, restarts] at spared
          have queued := queued_requeues puts (owned.requeue_ok fair owner found puts)
          have same : result.1.roster.tracked[index]? = course.schedule.roster.tracked[index]? :=
            tracked_requeues_other (Ne.symm different) puts
          refine ⟨same, ?_⟩
          rintro ⟨kept, there, waits⟩
          refine ⟨kept, same ▸ there, ?_⟩
          rcases List.mem_append.mp waits with here | out
          · rcases List.mem_cons.mp (queued.subset here) with new | before
            · -- The copy that came is of another group.
              have came := tracked_requeues found puts
              obtain ⟨task, member⟩ := List.exists_mem_of_ne_nil _ kept.group.taskIds_ne_nil
              have shared := after.known.coherent.index_unique there came member (new ▸ member)
              exact absurd shared.symm different
            · exact List.mem_append_left _ before
          · exact List.mem_append_right _ out
      | _ => exact ⟨rfl, id⟩

end Strikes

/-- What does not strike a group leaves its count alone and does not make it wait. -/
theorem Owned.spared (owned : course.Owned groups) {act : Act} (fair : course.Fair act)
    (spared : course.strikes index act = false) :
    (course.perform act).schedule.roster.tracked[index]? =
        course.schedule.roster.tracked[index]? ∧ course.requeues index act = false := by
  suffices both : (course.perform act).schedule.roster.tracked[index]? =
      course.schedule.roster.tracked[index]? ∧
        ((course.perform act).waitsAt index = true → course.waitsAt index = true) by
    refine ⟨both.1, ?_⟩
    rw [← Bool.not_eq_true, requeues, Bool.and_eq_true, Bool.not_eq_true']
    rintro ⟨absent, waits⟩
    rw [both.2 waits] at absent
    contradiction
  rcases act.report_or_quiet with ⟨status, pause, rfl⟩ | quiet
  · exact owned.report_spared fair spared
  · have after := owned_perform owned fair
    have roster := (course.quiet_perform act quiet.ne_report).roster
    rw [owned.waitsAt_iff, after.waitsAt_iff, roster]
    exact ⟨rfl, fun ⟨tracked, found, waits⟩ =>
      ⟨tracked, found, owned.waiting_quiet quiet waits⟩⟩

/-- The group at an index was struck a number of times. -/
structure Charged (groups : List TaskGroup) (rules : Rules) (index : Nat) (count : Nat)
    (course : Course) : Prop where
  owned : course.Owned groups
  under : course.schedule.rules = rules
  counter : ∀ tracked, course.schedule.roster.tracked[index]? = some tracked →
    tracked.restarts = rules.granted count

namespace Charged

variable {count : Nat}

theorem isSpent (charged : course.Charged groups rules index count) {tracked : Tracked}
    (found : course.schedule.roster.tracked[index]? = some tracked) :
    course.schedule.isSpent tracked.restarts = !rules.grants count := by
  have spent := course.schedule.isSpent_granted count
  rw [charged.under] at spent
  rw [charged.counter tracked found, spent]

theorem refused (charged : course.Charged groups rules index count) {status : Status}
    (pause : Nat → Nat) (strikes : course.strikes index (.report status pause) = true)
    (refused : rules.grants count = false) :
    course.answer (.report status pause) =
        .error (.restartLimit status.task status.state (rules.granted count)) ∧
      course.perform (.report status pause) = course := by
  obtain ⟨owner, restarts⟩ := strikes_report.mp strikes
  obtain ⟨tracked, found, -⟩ := charged.owned.known.coherent.owner?_iff.mp owner
  have spent : course.schedule.isSpent tracked.restarts = true := by
    rw [charged.isSpent found, refused]
    rfl
  rw [← charged.counter tracked found]
  exact strike_refused owner found restarts spent

theorem relaunched (charged : course.Charged groups rules index count) {status : Status}
    {pause : Nat → Nat} (fair : course.Fair (.report status pause))
    (strikes : course.strikes index (.report status pause) = true)
    (grants : rules.grants count = true) :
    course.answer (.report status pause) = .ok () ∧
      (∃ tracked, course.schedule.roster.tracked[index]? = some tracked ∧
        course.Renewed index tracked (pause count) (course.perform (.report status pause))) ∧
      course.requeues index (.report status pause) = true := by
  obtain ⟨owner, restarts⟩ := strikes_report.mp strikes
  obtain ⟨tracked, found, -⟩ := charged.owned.known.coherent.owner?_iff.mp owner
  have allowed : course.schedule.isSpent tracked.restarts = false := by
    rw [charged.isSpent found, grants]
    rfl
  obtain ⟨taken, renewed, requeued⟩ :=
    charged.owned.strike_granted pause fair owner found restarts allowed
  rw [charged.counter tracked found, Rules.granted_of_grants grants] at renewed
  exact ⟨taken, ⟨tracked, found, renewed⟩, requeued⟩

/-- An act makes a group wait exactly if it strikes it within the limit. -/
theorem requeues_eq (charged : course.Charged groups rules index count) {act : Act}
    (fair : course.Fair act) :
    course.requeues index act = (course.strikes index act && rules.grants count) := by
  cases strikes : course.strikes index act with
  | false => exact (charged.owned.spared fair strikes).2
  | true =>
      obtain ⟨status, pause, rfl, -⟩ := strikes_iff.mp strikes
      cases grants : rules.grants count with
      | true => exact (charged.relaunched fair strikes grants).2.2
      | false =>
          have same := (charged.refused pause strikes grants).2
          simp [Course.requeues, same]

theorem perform (charged : course.Charged groups rules index count) {act : Act}
    (fair : course.Fair act) :
    (course.perform act).Charged groups rules index
      (count + (course.strikes index act).toNat) := by
  refine ⟨owned_perform charged.owned fair,
    (course.fixed_perform act).rules.trans charged.under, fun tracked found => ?_⟩
  cases strikes : course.strikes index act with
  | false =>
      rw [(charged.owned.spared fair strikes).1] at found
      exact charged.counter tracked found
  | true =>
      obtain ⟨status, pause, rfl, -⟩ := strikes_iff.mp strikes
      rw [Bool.toNat_true, Rules.granted_succ]
      cases grants : rules.grants count with
      | true =>
          obtain ⟨-, ⟨old, before, renewed⟩, -⟩ := charged.relaunched fair strikes grants
          have bound := (List.getElem?_eq_some_iff.mp before).1
          rw [renewed.tracked, List.getElem?_set_self bound, Option.some.injEq] at found
          rw [← found, ← charged.counter old before]
          rfl
      | false =>
          rw [(charged.refused pause strikes grants).2] at found
          exact charged.counter tracked found

theorem play (charged : course.Charged groups rules index count) {acts : List Act}
    (fair : course.Obeys Fair acts) :
    (course.play acts).Charged groups rules index (count + countActs (strikes index) course acts) ∧
      rules.granted count + countActs (requeues index) course acts =
        rules.granted (count + countActs (strikes index) course acts) := by
  induction acts generalizing course count with
  | nil => exact ⟨charged, rfl⟩
  | cons act rest ih =>
      obtain ⟨later, counts⟩ := ih (charged.perform fair.1) fair.2
      rw [Nat.add_assoc] at later counts
      refine ⟨later, ?_⟩
      rw [countActs, countActs, ← counts, charged.requeues_eq fair.1, ← Nat.add_assoc]
      congr 1
      cases course.strikes index act with
      | false => rfl
      | true => exact (rules.granted_succ count).symm

end Charged

theorem charged_start (groups : List TaskGroup) (rules : Rules) (mint : Mint) (index : Nat) :
    (start groups rules mint).Charged groups rules index 0 := by
  refine ⟨owned_start groups rules mint, rfl, fun tracked found => ?_⟩
  rw [rules.granted_zero]
  exact Roster.restarts_addAll {} groups mint (by simp) tracked (List.mem_of_getElem? found)

theorem answer_ne_restartLimit (unlimited : course.schedule.rules.maxRestarts = none) (act : Act)
    (task : TaskId) (state : TaskState) (attempts : Nat) :
    course.answer act ≠ .error (.restartLimit task state attempts) := by
  cases act with
  | append position =>
      cases found : course.out[position]? with
      | none => simp [answer, found]
      | some group =>
          have appends := appends_append course.schedule group
          simp only [answer, found]
          generalize course.schedule.append group = result at appends
          cases appends <;> simp
  | report status pause =>
      have applies := applies_applyWith course.schedule pause status
      simp only [answer]
      generalize course.schedule.applyWith pause status = result at applies
      cases applies with
      | spent owner found restarts spent => simp [isSpent, unlimited] at spent
      | relaunched owner found restarts allowed puts => cases puts <;> simp
      | _ => simp
  | _ => simp [answer]

/-- What a run grants and refuses to the group at an index. -/
structure Budget (rules : Rules) (first : Course) (acts : List Act) (index : Nat) : Prop where
  /-- The group came to wait again once for every strike, up to the limit. -/
  requeued : countActs (requeues index) first acts =
    rules.granted (countActs (strikes index) first acts)
  within : ∀ limit, rules.maxRestarts = some limit →
    countActs (requeues index) first acts ≤ limit.toNat
  /-- The next act lets it wait again exactly if it is a strike within the limit. -/
  exactly : ∀ act, (first.play acts).Fair act →
    ((first.play acts).requeues index act = true ↔
      (first.play acts).strikes index act = true ∧
        rules.grants (countActs (strikes index) first acts) = true)
  /-- The delay is the one for the number of strikes before. -/
  relaunched : ∀ status pause, (first.play acts).Fair (.report status pause) →
    (first.play acts).strikes index (.report status pause) = true →
    rules.grants (countActs (strikes index) first acts) = true →
      (first.play acts).answer (.report status pause) = .ok () ∧
        ∃ tracked, (first.play acts).schedule.roster.tracked[index]? = some tracked ∧
          (first.play acts).Renewed index tracked (pause (countActs (strikes index) first acts))
            ((first.play acts).perform (.report status pause))
  refused : ∀ status pause limit, (first.play acts).strikes index (.report status pause) = true →
    rules.maxRestarts = some limit → limit.toNat ≤ countActs (strikes index) first acts →
      (first.play acts).answer (.report status pause) =
          .error (.restartLimit status.task status.state limit.toNat) ∧
        (first.play acts).perform (.report status pause) = first.play acts
  /-- Whatever strikes another group, or none, leaves this one's count alone. -/
  others : ∀ act, (first.play acts).Fair act → (first.play acts).strikes index act = false →
    ((first.play acts).perform act).schedule.roster.tracked[index]? =
      (first.play acts).schedule.roster.tracked[index]?
  unlimited : rules.maxRestarts = none → ∀ act task state attempts,
    (first.play acts).answer act ≠ .error (.restartLimit task state attempts)

/-- Of the strikes on a group in a fair run, those within the limit are granted and all others are
refused, each at the time at which it comes. -/
theorem budget_play (groups : List TaskGroup) (rules : Rules) (mint : Mint) {acts : List Act}
    (fair : (start groups rules mint).Obeys Fair acts) (index : Nat) :
    Budget rules (start groups rules mint) acts index := by
  obtain ⟨charged, counts⟩ := (charged_start groups rules mint index).play fair
  rw [rules.granted_zero, Nat.zero_add, Nat.zero_add] at counts
  rw [Nat.zero_add] at charged
  constructor
  case requeued => exact counts
  case within =>
    intro limit limited
    rw [counts, Rules.granted, limited]
    exact Nat.min_le_right _ _
  case exactly =>
    intro act fair
    rw [charged.requeues_eq fair, Bool.and_eq_true]
  case relaunched =>
    intro status pause fair strikes grants
    obtain ⟨taken, renewed, -⟩ := charged.relaunched fair strikes grants
    exact ⟨taken, renewed⟩
  case refused =>
    intro status pause limit strikes limited spent
    have refused : rules.grants (countActs (Course.strikes index) (start groups rules mint) acts) =
        false := by
      simp only [Rules.grants, limited, decide_eq_false_iff_not]
      omega
    have answered := charged.refused pause strikes refused
    rwa [Rules.granted_of_spent limited spent] at answered
  case others => exact fun act fair spared => (charged.owned.spared fair spared).1
  case unlimited =>
    intro unlimited act task state attempts
    exact answer_ne_restartLimit (by rw [charged.under, unlimited]) act task state attempts

/-- A group that may be relaunched once, failing twice. -/
theorem budget_of_one :
    let group := (TaskGroup.single { name := "sleep", id := .stamped 0 } ⟨1⟩).1
    let rules : Rules := { restart := .onFailure, maxRestarts := some 1 }
    let first := start [group] rules ⟨2⟩
    let failed (number : Nat) : Act :=
      .report { task := .stamped number, state := .failed } fun _ => 0
    let acts : List Act := [.pop, .launch 0, failed 3, .pop, .launch 0]
    (first.Obeys Fair acts ∧ (first.play acts).strikes 0 (failed 5) = true ∧
      countActs (strikes 0) first acts = 1) ∧ Budget rules first acts 0 := by
  intro group rules first failed acts
  have launched : ((first.perform .pop).perform (.launch 0)).Launched (.stamped 3) := by
    show ∃ group ∈ _, _
    decide +kernel
  have fair : first.Obeys Fair acts :=
    ⟨trivial, trivial, .inl launched, trivial, trivial, trivial⟩
  exact ⟨⟨fair, by decide +kernel, by decide +kernel⟩, budget_play [group] rules ⟨2⟩ fair 0⟩

end Course
end Convoy
