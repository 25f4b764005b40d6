import Convoy.Proofs.Schedule.Account
import Convoy.Proofs.Schedule.Offers
import Mathlib.Data.List.Flatten
import Mathlib.Data.List.Nodup

/-!
# No identity is launched twice

Every group that waits or was launched is numbered by the mint, apart from all others. A step moves
such groups, loses some, or adds one under fresh numbers, so they stay apart whatever is reported. No
rule on reports is needed: a relaunch of a group that still waits leaves two groups, and each of them
has its own numbers.
-/
namespace Convoy

/-- Groups that the mint numbered, no two of them with a task or an executor in common. -/
structure Mint.Numbers (mint : Mint) (groups : List TaskGroup) : Prop where
  tasks : (groups.flatMap (·.taskIds)).Nodup
  executors : (groups.map (·.executor.id)).Nodup
  issued : ∀ group ∈ groups, ∀ task ∈ group.taskIds, mint.Issued task
  issuedExecutors : ∀ group ∈ groups, mint.IssuedExecutor group.executor.id

namespace Mint.Numbers

variable {mint : Mint} {groups others : List TaskGroup}

theorem nil (mint : Mint) : mint.Numbers [] where
  tasks := List.nodup_nil
  executors := List.nodup_nil
  issued := by simp
  issuedExecutors := by simp

/-- Groups may be lost and may change places. -/
theorem subperm (numbers : mint.Numbers groups) (fewer : others.Subperm groups) :
    mint.Numbers others := by
  obtain ⟨kept, same, within⟩ := fewer
  constructor
  case tasks =>
    exact (same.flatMap_right _).nodup_iff.mp (numbers.tasks.sublist (within.flatMap _))
  case executors =>
    exact (same.map _).nodup_iff.mp (numbers.executors.sublist (within.map _))
  case issued =>
    intro group member
    exact numbers.issued group (within.subset (same.mem_iff.mpr member))
  case issuedExecutors =>
    intro group member
    exact numbers.issuedExecutors group (within.subset (same.mem_iff.mpr member))

theorem renew (numbers : mint.Numbers groups) (group : TaskGroup) :
    (group.renew mint).2.Numbers ((group.renew mint).1 :: groups) := by
  have later : mint.issued ≤ (group.renew mint).2.issued := by
    rw [group.issued_renew]
    omega
  constructor
  case tasks =>
    rw [List.flatMap_cons, List.nodup_append]
    refine ⟨group.nodup_taskIds_renew mint, numbers.tasks, ?_⟩
    rintro task new _ old rfl
    obtain ⟨other, member, present⟩ := List.mem_flatMap.mp old
    exact group.not_issued_of_mem_renew mint new (numbers.issued other member task present)
  case executors =>
    rw [List.map_cons, List.nodup_cons]
    refine ⟨fun old => ?_, numbers.executors⟩
    obtain ⟨other, member, same⟩ := List.mem_map.mp old
    exact group.not_issuedExecutor_renew mint (same ▸ numbers.issuedExecutors other member)
  case issued =>
    intro other member task present
    rcases List.mem_cons.mp member with rfl | earlier
    · exact group.issued_of_mem_renew mint present
    · exact (numbers.issued other earlier task present).mono later
  case issuedExecutors =>
    intro other member
    rcases List.mem_cons.mp member with rfl | earlier
    · exact group.issuedExecutor_renew mint
    · exact (numbers.issuedExecutors other earlier).mono later

end Mint.Numbers

theorem Roster.numbers_addAll {roster : Roster} {mint : Mint} (numbers : mint.Numbers roster.groups)
    (groups : List TaskGroup) :
    (roster.addAll groups mint).2.Numbers (roster.addAll groups mint).1.groups := by
  induction groups generalizing roster mint with
  | nil => exact numbers
  | cons group rest ih =>
      rw [addAll_cons]
      refine ih ?_
      rw [Roster.groups, tracked_replace, List.map_append]
      exact (numbers.renew group).subperm (List.perm_append_singleton _ _).subperm

namespace Schedule

variable {schedule after : Schedule} {group : TaskGroup} {milliseconds : Nat}
  {answer : Schedule × Except Failure Unit}

/-- A queue that is full loses a group, so in general only some of the groups are left. -/
theorem subperm_appends (appends : Appends schedule group answer) :
    answer.1.queued.Subperm (group :: schedule.queued) := by
  classical
  by_cases taken : answer.2 = .ok ()
  · exact (queued_appends appends taken).subperm
  · cases appends with
    | overflow sync found full =>
        refine List.subperm_ext_iff.mpr fun other _ => ?_
        simp only [queued, found, Option.toList, List.count_append, List.count_cons, List.count_nil]
        omega
    | full parallel full => exact (List.sublist_cons_self group _).subperm
    | _ => exact absurd rfl taken

theorem subperm_requeues (requeues : Requeues schedule group milliseconds answer) :
    answer.1.queued.Subperm (group :: schedule.queued) := by
  by_cases taken : answer.2 = .ok ()
  · exact (queued_requeues requeues taken).subperm
  · cases requeues with
    | relaunchedFull sync full => exact (List.sublist_cons_self group _).subperm
    | pendingFull parallel full => exact (List.sublist_cons_self group _).subperm
    | _ => exact absurd rfl taken

/-- Some groups were taken from those that wait, and the others still wait or are lost. -/
structure Takes (before after : Schedule) (taken : List TaskGroup) : Prop where
  queued : (after.queued ++ taken).Subperm before.queued
  roster : after.roster = before.roster
  mint : after.mint = before.mint

theorem Takes.refl (schedule : Schedule) : Takes schedule schedule [] :=
  ⟨(List.append_nil schedule.queued).symm ▸ .refl _, rfl, rfl⟩

theorem Takes.trans {middle : Schedule} {early late : List TaskGroup}
    (first : Takes schedule middle early) (second : Takes middle after late) :
    Takes schedule after (early ++ late) where
  queued := by
    have moved : (after.queued ++ (early ++ late)).Perm (after.queued ++ late ++ early) := by
      rw [List.append_assoc]
      exact .append_left _ List.perm_append_comm
    exact (moved.subperm.trans ((List.subperm_append_right early).mpr second.queued)).trans
      first.queued
  roster := second.roster.trans first.roster
  mint := second.mint.trans first.mint

theorem takes_pops (pops : Pops schedule group after) : Takes schedule after [group] where
  queued := ((List.perm_append_singleton _ _).trans (queued_pops pops).symm).subperm
  roster := (roster_pops pops).1
  mint := (roster_pops pops).2

/-- The group that was handed out goes back, or another one is lost for it. -/
theorem takes_appends {next : Schedule} (pops : Pops schedule group next)
    (appends : Appends next group answer) : Takes schedule answer.1 [] where
  queued := by
    rw [List.append_nil]
    exact (subperm_appends appends).trans (queued_pops pops).symm.subperm
  roster := (roster_appends appends).1.trans (roster_pops pops).1
  mint := (roster_appends appends).2.trans (roster_pops pops).2

/-- Looking at groups launches some of those that wait. -/
theorem takes_matchNext (schedule : Schedule) (agent : AgentId) (framework : FrameworkId)
    (count : Nat) (found : Match) :
    ∃ new, Takes schedule (schedule.matchNext agent framework count found).1 new ∧
      ∀ result, (schedule.matchNext agent framework count found).2 = .ok result →
        result.operations = found.operations ++ new.map (·.launchOn agent framework) := by
  induction count generalizing schedule found with
  | zero =>
      refine ⟨[], .refl schedule, fun result same => ?_⟩
      cases same
      simp
  | succ count ih =>
      unfold Schedule.matchNext
      split
      · refine ⟨[], .refl schedule, fun result same => ?_⟩
        cases same
        simp
      · rename_i group next popped
        have pops := pops_of_pop popped
        split
        · obtain ⟨new, takes, operations⟩ := ih next (found.launch group agent framework)
          refine ⟨group :: new, (takes_pops pops).trans takes, fun result same => ?_⟩
          rw [operations result same, List.map_cons, List.append_cons]
          rfl
        · have back := takes_appends pops (appends_append next group)
          split
          · rename_i handed appended
            rw [appended] at back
            obtain ⟨new, takes, operations⟩ := ih handed found
            exact ⟨new, back.trans takes, operations⟩
          · rename_i handed failure appended
            rw [appended] at back
            refine ⟨[], back, fun result same => ?_⟩
            cases same

/-- The groups that wait and those of a list are numbered apart. -/
def Numbers (schedule : Schedule) (launched : List TaskGroup) : Prop :=
  schedule.mint.Numbers (schedule.queued ++ launched)

namespace Numbers

variable {launched : List TaskGroup}

theorem start (groups : List TaskGroup) (rules : Rules) (mint : Mint) :
    (start groups rules mint).Numbers [] := by
  have numbers : ((({} : Roster).addAll groups mint).2).Numbers
      (({} : Roster).addAll groups mint).1.groups := Roster.numbers_addAll (.nil mint) groups
  simpa [Numbers, Schedule.start, queued, Queue.groups, Roster.groups] using numbers

theorem report (numbers : schedule.Numbers launched) (pause : Nat → Nat) (status : Status) :
    (schedule.applyWith pause status).1.Numbers launched := by
  have applies := applies_applyWith schedule pause status
  generalize schedule.applyWith pause status = answer at applies
  cases applies with
  | @relaunched index tracked owner found restarts allowed answer requeues =>
      -- Whatever was known of the old group, the new one is numbered apart from all that wait.
      have mint := (roster_requeues requeues).2
      rw [Numbers, mint]
      exact (Mint.Numbers.renew numbers tracked.group).subperm
        ((List.subperm_append_right launched).mpr (subperm_requeues requeues))
  | _ => exact numbers

theorem comeBack (numbers : schedule.Numbers launched) (position : Nat) :
    (schedule.comeBack position).Numbers launched := by
  rw [Numbers, (roster_comeBack schedule position).2]
  exact Mint.Numbers.subperm numbers
    ((queued_comeBack schedule position).append_right launched).subperm

theorem settle (numbers : schedule.Numbers launched) : schedule.settle.Numbers launched :=
  Mint.Numbers.subperm numbers (schedule.queued_settle.append_right launched).subperm

/-- Groups that are taken stay numbered apart. -/
theorem takes {new : List TaskGroup} (numbers : schedule.Numbers launched)
    (takes : Takes schedule after new) : after.Numbers (launched ++ new) := by
  rw [Numbers, takes.mint]
  have moved : (after.queued ++ (launched ++ new)).Perm (after.queued ++ new ++ launched) := by
    rw [List.append_assoc]
    exact .append_left _ List.perm_append_comm
  exact Mint.Numbers.subperm numbers
    (moved.subperm.trans ((List.subperm_append_right launched).mpr takes.queued))

end Numbers
end Schedule

/-- The executor that an operation launches; a task on its own has none. -/
def Operation.executor? : Operation → Option ExecutorId
  | .launch _ => none
  | .launchGroup executor _ => some executor.id

theorem TaskGroup.executor?_launchOn (group : TaskGroup) (agent : AgentId)
    (framework : FrameworkId) :
    (group.launchOn agent framework).executor? =
      if group.usesExecutor then some group.executor.id else none := by
  have same : ((group.onAgent agent).ofFramework framework).usesExecutor = group.usesExecutor := by
    simp [usesExecutor, ofFramework, onAgent, mapTasks]
  unfold launchOn launch
  rw [same]
  split <;> rfl

/-- A schedule with all operations that were launched from it. -/
structure Dispatch where
  schedule : Schedule
  operations : List Operation := []

/-- What can happen between launches. -/
inductive Occasion where
  | offer (offer : Offer) (framework : FrameworkId)
  | report (status : Status) (pause : Nat → Nat)
  | comeBack (position : Nat)
  | settle
  | pass (milliseconds : Nat)

namespace Dispatch

def start (groups : List TaskGroup) (rules : Rules) (mint : Mint) : Dispatch :=
  { schedule := .start groups rules mint }

/-- An offer launches what was matched. One that could not be matched launches nothing. -/
def meet (dispatch : Dispatch) : Occasion → Dispatch
  | .offer offer framework =>
    match dispatch.schedule.matchOffer offer framework with
    | (schedule, .ok found) =>
      { schedule := schedule, operations := dispatch.operations ++ found.operations }
    | (schedule, .error _) => { dispatch with schedule := schedule }
  | .report status pause =>
    { dispatch with schedule := (dispatch.schedule.applyWith pause status).1 }
  | .comeBack position => { dispatch with schedule := dispatch.schedule.comeBack position }
  | .settle => { dispatch with schedule := dispatch.schedule.settle }
  | .pass milliseconds => { dispatch with schedule := dispatch.schedule.pass milliseconds }

def meetAll (dispatch : Dispatch) (occasions : List Occasion) : Dispatch :=
  occasions.foldl meet dispatch

variable {dispatch : Dispatch} {launched : List TaskGroup}

/-- The operations launched certain groups, which are numbered apart from each other and from those
that wait. -/
structure Launches (dispatch : Dispatch) (launched : List TaskGroup) : Prop where
  numbers : dispatch.schedule.Numbers launched
  tasks : dispatch.operations.flatMap (·.taskIds) = launched.flatMap (·.taskIds)
  executors :
    (dispatch.operations.filterMap (·.executor?)).Sublist (launched.map (·.executor.id))

theorem taskIds_launchOn (groups : List TaskGroup) (agent : AgentId) (framework : FrameworkId) :
    (groups.map (·.launchOn agent framework)).flatMap (·.taskIds) =
      groups.flatMap (·.taskIds) := by
  rw [List.flatMap_map]
  exact List.flatMap_congr fun group _ => group.taskIds_launch agent framework

theorem executors_launchOn (groups : List TaskGroup) (agent : AgentId) (framework : FrameworkId) :
    ((groups.map (·.launchOn agent framework)).filterMap (·.executor?)).Sublist
      (groups.map (·.executor.id)) := by
  induction groups with
  | nil => exact .slnil
  | cons group rest ih =>
      rw [List.map_cons, List.filterMap_cons, group.executor?_launchOn]
      cases group.usesExecutor with
      | false => exact ih.cons _
      | true => exact ih.cons_cons _

theorem Launches.offer (launches : dispatch.Launches launched) (offer : Offer)
    (framework : FrameworkId) : ∃ all, (dispatch.meet (.offer offer framework)).Launches all := by
  obtain ⟨new, takes, operations⟩ := dispatch.schedule.takes_matchNext offer.agent framework
    dispatch.schedule.pendingSize { remaining := Ledger.ofResources offer.resources }
  have numbers := launches.numbers.takes takes
  change (dispatch.schedule.matchOffer offer framework).1.Numbers _ at numbers
  change ∀ result, (dispatch.schedule.matchOffer offer framework).2 = _ → _ at operations
  unfold meet
  dsimp only
  split
  · rename_i schedule found matched
    rw [matched] at numbers operations
    have added := operations found rfl
    rw [List.nil_append] at added
    refine ⟨launched ++ new, numbers, ?_, ?_⟩
    · rw [List.flatMap_append, List.flatMap_append, launches.tasks, added, taskIds_launchOn]
    · rw [List.filterMap_append, List.map_append, added]
      exact launches.executors.append (executors_launchOn new _ _)
  · rename_i schedule failure matched
    rw [matched] at numbers
    have fewer : (schedule.queued ++ launched).Sublist (schedule.queued ++ (launched ++ new)) :=
      .append_left (List.sublist_append_left launched new) _
    exact ⟨launched, Mint.Numbers.subperm numbers fewer.subperm, launches.tasks, launches.executors⟩

theorem Launches.meet (launches : dispatch.Launches launched) (occasion : Occasion) :
    ∃ all, (dispatch.meet occasion).Launches all := by
  obtain ⟨numbers, tasks, executors⟩ := launches
  cases occasion with
  | offer offer framework => exact Launches.offer ⟨numbers, tasks, executors⟩ offer framework
  | report status pause => exact ⟨launched, numbers.report pause status, tasks, executors⟩
  | comeBack position => exact ⟨launched, numbers.comeBack position, tasks, executors⟩
  | settle => exact ⟨launched, numbers.settle, tasks, executors⟩
  | pass milliseconds => exact ⟨launched, numbers, tasks, executors⟩

theorem Launches.meetAll (launches : dispatch.Launches launched) (occasions : List Occasion) :
    ∃ all, (dispatch.meetAll occasions).Launches all := by
  induction occasions generalizing dispatch launched with
  | nil => exact ⟨launched, launches⟩
  | cons occasion rest ih =>
      obtain ⟨more, met⟩ := launches.meet occasion
      exact ih met

/-- Whatever is offered and reported, no task is launched twice, in two operations or in one, and no
executor is launched by two operations. -/
theorem distinct_meetAll (groups : List TaskGroup) (rules : Rules) (mint : Mint)
    (occasions : List Occasion) :
    (((start groups rules mint).meetAll occasions).operations.flatMap (·.taskIds)).Nodup ∧
      (((start groups rules mint).meetAll occasions).operations.filterMap (·.executor?)).Nodup := by
  have first : (start groups rules mint).Launches [] :=
    ⟨.start groups rules mint, rfl, .slnil⟩
  obtain ⟨launched, launches⟩ := first.meetAll occasions
  have apart : ((start groups rules mint).meetAll occasions).schedule.mint.Numbers launched :=
    Mint.Numbers.subperm launches.numbers (List.sublist_append_right _ _).subperm
  constructor
  · rw [launches.tasks]
    exact apart.tasks
  · exact apart.executors.sublist launches.executors

end Dispatch
end Convoy
