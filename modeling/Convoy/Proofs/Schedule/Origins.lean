import Convoy.Proofs.Schedule.Launches

/-!
# Where launches come from

Every group that waits or is tracked is a submitted one under fresh identities, however often it was
restarted. So an operation launches a submitted group as it was given: nothing else differs but the
agent, the framework and the role of the resources, and those are the ones asked for.
-/
namespace Convoy

/-- The task is a submitted one on an agent, with all its resources in a role, under an identity that
was handed out later than the mint has counted. -/
def Task.LaunchOf (mint : Mint) (role : String) (agent : AgentId) (submitted task : Task) : Prop :=
  ∃ n, mint.issued ≤ n ∧ task = { submitted with
    id := .stamped n
    agent := some agent
    resources := submitted.resources.map fun resource => { resource with role := some role } }

/-- The operation launches a submitted group: its only task by itself, or all its tasks in order under
its executor. -/
inductive Operation.LaunchOf (mint : Mint) (role : String) (agent : AgentId)
    (framework : FrameworkId) (submitted : TaskGroup) : Operation → Prop where
  | alone {tasks : List Task} (single : submitted.tasks.length = 1)
      (same : List.Forall₂ (Task.LaunchOf mint role agent) submitted.tasks tasks) :
      LaunchOf mint role agent framework submitted (.launch tasks)
  | together {tasks : List Task} {n : Nat} (several : 1 < submitted.tasks.length)
      (fresh : mint.issued ≤ n)
      (same : List.Forall₂ (Task.LaunchOf mint role agent) submitted.tasks tasks) :
      LaunchOf mint role agent framework submitted
        (.launchGroup
          { submitted.executor with
            id := .stamped n
            framework := some framework
            resources := submitted.executor.resources.map fun resource =>
              { resource with role := some role } }
          tasks)

theorem Task.launchOf_renewAll (role : String) (agent : AgentId) {first mint : Mint}
    (later : first.issued ≤ mint.issued) (submitted : List Task) :
    List.Forall₂ (Task.LaunchOf first role agent) submitted
      ((renewAll
        (submitted.map fun task =>
          { task with resources := task.resources.map (Resource.inRole role) }) mint).1.map
        fun task => { task with agent := some agent }) := by
  induction submitted generalizing mint with
  | nil => exact .nil
  | cons task rest ih => exact .cons ⟨mint.issued, later, rfl⟩ (ih (Nat.le_succ_of_le later))

theorem TaskGroup.launchOf_renew (submitted : TaskGroup) (role : String) (agent : AgentId)
    (framework : FrameworkId) {first mint : Mint} (later : first.issued ≤ mint.issued) :
    Operation.LaunchOf first role agent framework submitted
      (((submitted.inRole role).renew mint).1.launchOn agent framework) := by
  have same := Task.launchOf_renewAll role agent (Nat.le_succ_of_le later) submitted.tasks
  let launched := (((submitted.inRole role).renew mint).1.onAgent agent).ofFramework framework
  have size : launched.tasks.length = submitted.tasks.length := same.length_eq.symm
  show Operation.LaunchOf _ _ _ _ _ launched.launch
  unfold launch usesExecutor
  by_cases several : 1 < submitted.tasks.length
  · rw [size, decide_eq_true several]
    exact .together several later same
  · have some := List.length_pos_iff.mpr submitted.hasTask
    rw [size, decide_eq_false several]
    exact .alone (by omega) same

/-- The group is a submitted one under identities that were handed out later than the mint has
counted. -/
def TaskGroup.DrawnFrom (submitted : List TaskGroup) (first : Mint) (group : TaskGroup) : Prop :=
  ∃ original ∈ submitted, ∃ mint : Mint,
    first.issued ≤ mint.issued ∧ group = (original.renew mint).1

theorem TaskGroup.DrawnFrom.renew {submitted : List TaskGroup} {first mint : Mint}
    {group : TaskGroup} (drawn : group.DrawnFrom submitted first)
    (later : first.issued ≤ mint.issued) : (group.renew mint).1.DrawnFrom submitted first := by
  obtain ⟨original, member, earlier, -, rfl⟩ := drawn
  exact ⟨original, member, mint, later, original.renew_renew earlier mint⟩

theorem TaskGroup.DrawnFrom.launchOf {submitted : List TaskGroup} {first : Mint} {role : String}
    {group : TaskGroup} (drawn : group.DrawnFrom (submitted.map (·.inRole role)) first)
    (agent : AgentId) (framework : FrameworkId) :
    ∃ original ∈ submitted, Operation.LaunchOf first role agent framework original
      (group.launchOn agent framework) := by
  obtain ⟨_, present, mint, later, rfl⟩ := drawn
  obtain ⟨original, member, rfl⟩ := List.mem_map.mp present
  exact ⟨original, member, original.launchOf_renew role agent framework later⟩

theorem Roster.drawn_addAll {submitted : List TaskGroup} {first mint : Mint} {roster : Roster}
    (drawn : ∀ group ∈ roster.groups, group.DrawnFrom submitted first)
    (later : first.issued ≤ mint.issued) {groups : List TaskGroup} (given : groups ⊆ submitted) :
    first.issued ≤ (roster.addAll groups mint).2.issued ∧
      ∀ group ∈ (roster.addAll groups mint).1.groups, group.DrawnFrom submitted first := by
  induction groups generalizing roster mint with
  | nil => exact ⟨later, drawn⟩
  | cons group rest ih =>
      rw [addAll_cons]
      refine ih ?_ ?_ (List.subset_of_cons_subset given)
      · rw [Roster.groups, tracked_replace, List.map_append]
        intro other member
        rcases List.mem_append.mp member with earlier | last
        · exact drawn other earlier
        · rw [List.mem_singleton.mp last]
          exact ⟨group, given List.mem_cons_self, mint, later, rfl⟩
      · rw [group.issued_renew]
        omega

namespace Schedule

variable {schedule after : Schedule} {submitted : List TaskGroup} {first : Mint}

/-- Whatever waits or is tracked is a submitted group under identities from this run. -/
structure Drawn (submitted : List TaskGroup) (first : Mint) (schedule : Schedule) : Prop where
  later : first.issued ≤ schedule.mint.issued
  queued : ∀ group ∈ schedule.queued, group.DrawnFrom submitted first
  tracked : ∀ group ∈ schedule.roster.groups, group.DrawnFrom submitted first

theorem drawn_start (submitted : List TaskGroup) (rules : Rules) (mint : Mint) :
    (start submitted rules mint).Drawn submitted mint := by
  have none : ∀ group ∈ ({} : Roster).groups, group.DrawnFrom submitted mint :=
    List.forall_mem_nil _
  obtain ⟨later, drawn⟩ := Roster.drawn_addAll none (Nat.le_refl _) (List.Subset.refl _)
  refine ⟨later, ?_, drawn⟩
  simpa [Schedule.start, queued, Queue.groups, Roster.groups] using drawn

theorem Drawn.takes {new : List TaskGroup} (drawn : schedule.Drawn submitted first)
    (takes : Takes schedule after new) :
    after.Drawn submitted first ∧ ∀ group ∈ new, group.DrawnFrom submitted first := by
  have within := takes.queued.subset
  refine ⟨⟨takes.mint ▸ drawn.later, fun group member => ?_, takes.roster ▸ drawn.tracked⟩,
    fun group member => ?_⟩
  · exact drawn.queued group (within (List.mem_append_left _ member))
  · exact drawn.queued group (within (List.mem_append_right _ member))

/-- A report may put a tracked group under fresh identities once more. -/
theorem Drawn.report (drawn : schedule.Drawn submitted first) (pause : Nat → Nat)
    (status : Status) : (schedule.applyWith pause status).1.Drawn submitted first := by
  have applies := applies_applyWith schedule pause status
  generalize schedule.applyWith pause status = answer at applies
  cases applies with
  | @relaunched index tracked owner found restarts allowed answer requeues =>
      obtain ⟨roster, mint⟩ := roster_requeues requeues
      obtain ⟨others, old, new⟩ := Roster.groups_relaunch found schedule.mint
      have here := drawn.tracked _ (old.mem_iff.mpr List.mem_cons_self)
      have again := here.renew drawn.later
      constructor
      case later =>
        rw [mint]
        exact Nat.le_trans drawn.later (by rw [renewed, tracked.group.issued_renew]; omega)
      case queued =>
        intro group member
        rcases List.mem_cons.mp ((subperm_requeues requeues).subset member) with rfl | earlier
        · exact again
        · exact drawn.queued group earlier
      case tracked =>
        rw [roster]
        intro group member
        rcases List.mem_cons.mp (new.mem_iff.mp member) with rfl | other
        · exact again
        · exact drawn.tracked group (old.mem_iff.mpr (List.mem_cons_of_mem _ other))
  | _ => exact ⟨drawn.later, drawn.queued, drawn.tracked⟩

theorem takes_comeBack (schedule : Schedule) (position : Nat) :
    Takes schedule (schedule.comeBack position) [] where
  queued := by
    rw [List.append_nil]
    exact (schedule.queued_comeBack position).subperm
  roster := (schedule.roster_comeBack position).1
  mint := (schedule.roster_comeBack position).2

theorem takes_settle (schedule : Schedule) : Takes schedule schedule.settle [] where
  queued := by
    rw [List.append_nil]
    exact schedule.queued_settle.subperm
  roster := rfl
  mint := rfl

/-- The operations launched tasks and executors of their own, and whatever waits is drawn from what
was submitted. -/
structure Issues (submitted : List TaskGroup) (first : Mint) (operations : List Operation)
    (schedule : Schedule) : Prop where
  drawn : schedule.Drawn submitted first
  numbered : ∃ launched, schedule.Numbers launched ∧
    (operations.flatMap (·.taskIds)).Sublist (launched.flatMap (·.taskIds)) ∧
    (operations.filterMap (·.executor?)).Sublist (launched.map (·.executor.id))

namespace Issues

variable {operations fewer : List Operation}

theorem start (submitted : List TaskGroup) (rules : Rules) (mint : Mint) :
    (start submitted rules mint).Issues submitted mint [] :=
  ⟨drawn_start submitted rules mint, [], .start submitted rules mint, .slnil, .slnil⟩

theorem sublist (issues : schedule.Issues submitted first operations)
    (within : fewer.Sublist operations) : schedule.Issues submitted first fewer := by
  obtain ⟨drawn, launched, numbers, tasks, executors⟩ := issues
  exact ⟨drawn, launched, numbers, (within.flatMap _).trans tasks,
    (within.filterMap _).trans executors⟩

theorem takes (issues : schedule.Issues submitted first operations)
    (takes : Takes schedule after []) : after.Issues submitted first operations := by
  obtain ⟨drawn, launched, numbers, tasks, executors⟩ := issues
  have moved := numbers.takes takes
  rw [List.append_nil] at moved
  exact ⟨(drawn.takes takes).1, launched, moved, tasks, executors⟩

theorem congr (issues : schedule.Issues submitted first operations)
    (queued : after.queued = schedule.queued) (roster : after.roster = schedule.roster)
    (mint : after.mint = schedule.mint) : after.Issues submitted first operations :=
  issues.takes ⟨by rw [List.append_nil, queued], roster, mint⟩

theorem report (issues : schedule.Issues submitted first operations) (pause : Nat → Nat)
    (status : Status) :
    (schedule.applyWith pause status).1.Issues submitted first operations := by
  obtain ⟨drawn, launched, numbers, tasks, executors⟩ := issues
  exact ⟨drawn.report pause status, launched, numbers.report pause status, tasks, executors⟩

/-- An offer launches submitted groups, on its agent and for the framework. -/
theorem matchOffer {groups : List TaskGroup} {role : String}
    (issues : schedule.Issues (groups.map (·.inRole role)) first operations) (offer : Offer)
    (framework : FrameworkId) :
    (schedule.matchOffer offer framework).1.Issues (groups.map (·.inRole role)) first operations ∧
      ∀ found, (schedule.matchOffer offer framework).2 = .ok found →
        (schedule.matchOffer offer framework).1.Issues (groups.map (·.inRole role)) first
          (operations ++ found.operations) ∧
        ∀ operation ∈ found.operations, ∃ group ∈ groups,
          Operation.LaunchOf first role offer.agent framework group operation := by
  obtain ⟨new, taken, launches⟩ := schedule.takes_matchNext offer.agent framework
    schedule.pendingSize { remaining := Ledger.ofResources offer.resources }
  change Takes schedule (schedule.matchOffer offer framework).1 new at taken
  change ∀ result, (schedule.matchOffer offer framework).2 = _ → _ at launches
  obtain ⟨drawn, launched, numbers, tasks, executors⟩ := issues
  obtain ⟨still, sources⟩ := drawn.takes taken
  have apart := numbers.takes taken
  refine ⟨⟨still, launched ++ new, apart, ?_, ?_⟩, fun found matched => ?_⟩
  · rw [List.flatMap_append]
    exact tasks.trans (List.sublist_append_left _ _)
  · rw [List.map_append]
    exact executors.trans (List.sublist_append_left _ _)
  · have added := launches found matched
    rw [List.nil_append] at added
    refine ⟨⟨still, launched ++ new, apart, ?_, ?_⟩, ?_⟩
    · rw [added, List.flatMap_append, List.flatMap_append, Dispatch.taskIds_launchOn]
      exact tasks.append (.refl _)
    · rw [added, List.filterMap_append, List.map_append]
      exact executors.append (Dispatch.executors_launchOn new _ _)
    · rw [added]
      intro operation member
      obtain ⟨group, present, rfl⟩ := List.mem_map.mp member
      exact (sources group present).launchOf offer.agent framework

end Issues

theorem Issues.distinct {operations : List Operation}
    (issues : schedule.Issues submitted first operations) :
    (operations.flatMap (·.taskIds)).Nodup ∧ (operations.filterMap (·.executor?)).Nodup := by
  obtain ⟨-, launched, numbers, tasks, executors⟩ := issues
  have apart : schedule.mint.Numbers launched :=
    Mint.Numbers.subperm numbers (List.sublist_append_right _ _).subperm
  exact ⟨apart.tasks.sublist tasks, apart.executors.sublist executors⟩

end Schedule
end Convoy
