import Convoy.Proofs.Ledger.Amounts
import Convoy.Proofs.Schedule.Steps
import Convoy.Schedule.Offers

/-!
# Offers are conserved

Whatever is launched on an offer is taken from it once. What the launches require and what is left
make up the offer, and no group is lost on the way.
-/
namespace Convoy

/-- The operation that launches the group on an agent and for a framework. -/
def TaskGroup.launchOn (group : TaskGroup) (agent : AgentId) (framework : FrameworkId) :
    Operation :=
  ((group.onAgent agent).ofFramework framework).launch

/-- What launches of the groups, one after another, leave of a ledger. Each group was covered by what
was left at its launch. -/
inductive Spends : Ledger → List TaskGroup → Ledger → Prop where
  | nothing (ledger : Ledger) : Spends ledger [] ledger
  | launch {ledger left : Ledger} {group : TaskGroup} {rest : List TaskGroup}
      (fits : ledger.contains group.requirement = true)
      (later : Spends (ledger.subtract group.requirement) rest left) :
      Spends ledger (group :: rest) left

/-- The launches divide the numbers of what was offered among them, and leave the others. -/
structure Divides (offered : Ledger) (launched : List TaskGroup) (left : Ledger) : Prop where
  covered : ∀ name, ∀ group ∈ launched, ∀ number ∈ group.requirement.range name,
    number ∈ offered.range name
  disjoint : ∀ name, launched.Pairwise fun first second =>
    ∀ number ∈ first.requirement.range name, number ∉ second.requirement.range name
  range : ∀ name number, number ∈ left.range name ↔
    number ∈ offered.range name ∧ ∀ group ∈ launched, number ∉ group.requirement.range name

namespace Divides

variable {offered left final : Ledger} {launched more : List TaskGroup} {group : TaskGroup}

theorem start (offered : Ledger) : Divides offered [] offered where
  covered name group member := by contradiction
  disjoint name := .nil
  range name number := by simp

theorem launch (divides : Divides offered launched left)
    (fits : left.contains group.requirement = true) :
    Divides offered (launched ++ [group]) (left.subtract group.requirement) := by
  constructor
  case covered =>
    intro name other member number required
    rcases List.mem_append.mp member with earlier | last
    · exact divides.covered name other earlier number required
    · rw [List.mem_singleton.mp last] at required
      exact ((divides.range name number).mp (Ledger.mem_range_of_contains fits required)).1
  case disjoint =>
    intro name
    refine List.pairwise_append.mpr ⟨divides.disjoint name, List.pairwise_singleton _ _, ?_⟩
    intro first earlier last member number inFirst inLast
    rw [List.mem_singleton.mp member] at inLast
    have free := (divides.range name number).mp (Ledger.mem_range_of_contains fits inLast)
    exact free.2 first earlier inFirst
  case range =>
    intro name number
    rw [Ledger.mem_range_subtract, divides.range, and_assoc]
    simp only [List.mem_append, List.mem_singleton, or_imp, forall_and, forall_eq]

theorem spend (divides : Divides offered launched left) (spends : Spends left more final) :
    Divides offered (launched ++ more) final := by
  induction spends generalizing launched with
  | nothing ledger => rwa [List.append_nil]
  | launch fits later ih =>
      rw [List.append_cons]
      exact ih (divides.launch fits)

/-- Nothing about the groups matters but what they require. -/
theorem congr {others : List TaskGroup} (divides : Divides offered launched left)
    (same : others.map (·.requirement) = launched.map (·.requirement)) :
    Divides offered others left := by
  have forall_iff (p : Ledger → Prop) :
      (∀ group ∈ others, p group.requirement) ↔ ∀ group ∈ launched, p group.requirement := by
    rw [← List.forall_mem_map, same, List.forall_mem_map]
  constructor
  case covered =>
    intro name
    exact (forall_iff fun needs => ∀ number ∈ needs.range name, number ∈ offered.range name).mpr
      (divides.covered name)
  case disjoint =>
    intro name
    let apart (first second : Ledger) : Prop :=
      ∀ number ∈ first.range name, number ∉ second.range name
    have pairs : (launched.map (·.requirement)).Pairwise apart :=
      List.pairwise_map.mpr (divides.disjoint name)
    rw [← same] at pairs
    exact List.pairwise_map.mp pairs
  case range =>
    intro name number
    rw [divides.range, forall_iff fun needs => number ∉ needs.range name]

/-- A number that a launched group requires is offered, and no other launched group requires it. -/
theorem sole {before rest : List TaskGroup} {name : String} {number : UInt64}
    (divides : Divides offered (before ++ group :: rest) left)
    (required : number ∈ group.requirement.range name) :
    number ∈ offered.range name ∧
      ∀ other ∈ before ++ rest, number ∉ other.requirement.range name := by
  refine ⟨divides.covered name group List.mem_append_cons_self number required, ?_⟩
  have apart := (List.pairwise_middle fun disjoint number inSecond inFirst =>
    disjoint number inFirst inSecond).mp (divides.disjoint name)
  exact fun other member => (List.pairwise_cons.mp apart).1 other member number required

end Divides

/-- The launches and what is left make up what was offered. Amounts are added up as integers, so no
sum wraps around. -/
structure Conserves (offered : Ledger) (launched : List TaskGroup) (left : Ledger) : Prop where
  amount : ∀ name, (offered.amount name).toInt =
    (left.amount name).toInt + (launched.map fun group => (group.requirement.amount name).toInt).sum
  nonneg : left.Nonneg
  covered : ∀ name, ∀ group ∈ launched, ∀ number ∈ group.requirement.range name,
    number ∈ offered.range name
  disjoint : ∀ name, launched.Pairwise fun first second =>
    ∀ number ∈ first.requirement.range name, number ∉ second.requirement.range name
  range : ∀ name number, number ∈ left.range name ↔
    number ∈ offered.range name ∧ ∀ group ∈ launched, number ∉ group.requirement.range name

namespace Conserves

variable {offered left final : Ledger} {launched more : List TaskGroup} {group : TaskGroup}

theorem divides (conserves : Conserves offered launched left) : Divides offered launched left :=
  ⟨conserves.covered, conserves.disjoint, conserves.range⟩

theorem start (nonneg : offered.Nonneg) : Conserves offered [] offered where
  amount name := by simp
  nonneg := nonneg
  covered := (Divides.start offered).covered
  disjoint := (Divides.start offered).disjoint
  range := (Divides.start offered).range

theorem launch (conserves : Conserves offered launched left)
    (fits : left.contains group.requirement = true) (nonneg : group.requirement.Nonneg) :
    Conserves offered (launched ++ [group]) (left.subtract group.requirement) := by
  have less (name : String) := Ledger.toInt_amount_subtract fits (conserves.nonneg name) (nonneg name)
  have divides := conserves.divides.launch fits
  refine ⟨fun name => ?_, Ledger.nonneg_subtract conserves.nonneg _, divides.covered,
    divides.disjoint, divides.range⟩
  have before := conserves.amount name
  rw [less]
  simp only [List.map_append, List.map_cons, List.map_nil, List.sum_append, List.sum_cons,
    List.sum_nil]
  omega

theorem spend (conserves : Conserves offered launched left) (spends : Spends left more final)
    (nonneg : ∀ group ∈ more, group.requirement.Nonneg) :
    Conserves offered (launched ++ more) final := by
  induction spends generalizing launched with
  | nothing ledger => rwa [List.append_nil]
  | launch fits later ih =>
      obtain ⟨here, rest⟩ := List.forall_mem_cons.mp nonneg
      rw [List.append_cons]
      exact ih (conserves.launch fits here) rest

end Conserves

namespace Schedule

variable {schedule after : Schedule} {group : TaskGroup}

/-- The groups that can be handed out without a relaunch or a settling of queues before. -/
def ready (schedule : Schedule) : List TaskGroup :=
  schedule.held.toList ++ schedule.pending.items ++ schedule.relaunched.items

theorem ready_nexts (nexts : Nexts schedule group after) :
    schedule.ready.Perm (group :: after.ready) := by
  cases nexts with
  | held found =>
      simp only [ready, found, Option.toList, List.nil_append, List.cons_append]
      exact .refl _
  | pending absent taken =>
      simp only [ready, absent, Option.toList, List.nil_append, Queue.items_take? taken,
        List.cons_append]
      exact .refl _

theorem ready_pops (pops : Pops schedule group after) :
    schedule.ready.Perm (group :: after.ready) := by
  cases pops with
  | relaunched sync taken =>
      simp only [ready, Queue.items_take? taken]
      exact List.perm_middle
  | opened sync empty gate next =>
      have perm := ready_nexts next
      exact perm
  | parallel parallel next => exact ready_nexts next

theorem ready_appends {answer : Schedule × Except Failure Unit}
    (appends : Appends schedule group answer) (taken : answer.2 = .ok ()) :
    answer.1.ready.Perm (group :: schedule.ready) := by
  cases appends with
  | held sync empty =>
      simp only [ready, empty, Option.toList, List.nil_append, List.cons_append]
      exact .refl _
  | displaced sync found pushed =>
      simp only [ready, found, Option.toList, Queue.items_push? pushed, List.cons_append,
        List.nil_append, List.append_assoc]
      exact .cons _ List.perm_middle
  | queued parallel pushed =>
      simp only [ready, Queue.items_push? pushed, List.append_assoc, List.singleton_append]
      rw [← List.append_assoc, ← List.append_assoc]
      exact List.perm_middle
  | overflow sync found full => contradiction
  | full parallel full => contradiction

/-- Looking at groups launches some of those that are ready, and the others stay ready. -/
theorem spends_matchNext {agent : AgentId} {framework : FrameworkId} {found result : Match}
    {count : Nat}
    (matched : schedule.matchNext agent framework count found = (after, .ok result)) :
    ∃ launched : List TaskGroup,
      result.operations = found.operations ++ launched.map (·.launchOn agent framework) ∧
      schedule.ready.Perm (launched ++ after.ready) ∧
      Spends found.remaining launched result.remaining := by
  induction count generalizing schedule found with
  | zero =>
      cases matched
      exact ⟨[], (List.append_nil _).symm, .refl _, .nothing _⟩
  | succ count ih =>
      unfold matchNext at matched
      split at matched
      · cases matched
        exact ⟨[], (List.append_nil _).symm, .refl _, .nothing _⟩
      · rename_i group next popped
        have left := ready_pops (pops_of_pop popped)
        split at matched
        · rename_i fits
          obtain ⟨launched, operations, perm, spends⟩ := ih matched
          refine ⟨group :: launched, ?_, left.trans (perm.cons group), .launch fits spends⟩
          rw [operations, List.map_cons, List.append_cons]
          rfl
        · split at matched
          · rename_i back appended
            have perm := ready_appends (appends_append next group) (by rw [appended])
            rw [appended] at perm
            -- The group that did not fit went back, so the same groups are ready as before.
            obtain ⟨launched, operations, rest, spends⟩ := ih matched
            exact ⟨launched, operations, (left.trans perm.symm).trans rest, spends⟩
          · cases matched

theorem spends_matchOffer {offer : Offer} {framework : FrameworkId} {result : Match}
    (matched : schedule.matchOffer offer framework = (after, .ok result)) :
    ∃ launched : List TaskGroup,
      result.operations = launched.map (·.launchOn offer.agent framework) ∧
      schedule.ready.Perm (launched ++ after.ready) ∧
      Spends (Ledger.ofResources offer.resources) launched result.remaining :=
  spends_matchNext matched

theorem conserves_matchNext {agent : AgentId} {framework : FrameworkId} {offered : Ledger}
    {launched : List TaskGroup} {found result : Match} {count : Nat}
    (operations : found.operations = launched.map (·.launchOn agent framework))
    (conserves : Conserves offered launched found.remaining)
    (nonneg : ∀ group ∈ schedule.ready, group.requirement.Nonneg)
    (matched : schedule.matchNext agent framework count found = (after, .ok result)) :
    ∃ all : List TaskGroup, result.operations = all.map (·.launchOn agent framework) ∧
      (launched ++ schedule.ready).Perm (all ++ after.ready) ∧
      Conserves offered all result.remaining := by
  obtain ⟨more, launches, perm, spends⟩ := spends_matchNext matched
  have amounts : ∀ group ∈ more, group.requirement.Nonneg := fun group member =>
    nonneg group (perm.symm.subset (List.mem_append_left _ member))
  refine ⟨launched ++ more, ?_, ?_, conserves.spend spends amounts⟩
  · rw [launches, operations, List.map_append]
  · rw [List.append_assoc]
    exact .append_left _ perm

/-- Every launch on an offer is of a group that waited, the other groups still wait, and the offer
is what the launches require and what is left. -/
theorem conserves_matchOffer {offer : Offer} {framework : FrameworkId} {result : Match}
    (offered : (Ledger.ofResources offer.resources).Nonneg)
    (required : ∀ group ∈ schedule.ready, group.requirement.Nonneg)
    (matched : schedule.matchOffer offer framework = (after, .ok result)) :
    ∃ launched : List TaskGroup,
      result.operations = launched.map (·.launchOn offer.agent framework) ∧
      schedule.ready.Perm (launched ++ after.ready) ∧
      Conserves (Ledger.ofResources offer.resources) launched result.remaining := by
  have nothing : Conserves (Ledger.ofResources offer.resources) []
      ({ remaining := Ledger.ofResources offer.resources } : Match).remaining :=
    Conserves.start offered
  exact conserves_matchNext rfl nothing required matched

theorem conserves_port :
    let offer : Offer :=
      { id := ⟨"offer", by decide⟩
        agent := ⟨"agent", by decide⟩
        resources :=
          [.scalar "cpus" 2.0, .scalar "mem" 64.0, .scalar "disk" 64.0, .ranges "ports" [⟨80, 90⟩]] }
    let framework : FrameworkId := ⟨"framework", by decide⟩
    let web := (TaskGroup.single
      { name := "web", id := .stamped 0
        resources := [.scalar "cpus" 0.7, .ranges "ports" [⟨80, 81⟩]] } ⟨1⟩).1
    let cache := (TaskGroup.single
      { name := "cache", id := .stamped 2
        resources := [.scalar "mem" 32.0, .scalar "cpus" 0.2, .ranges "ports" [⟨85, 85⟩]] } ⟨3⟩).1
    let schedule := start [web, cache] {} ⟨4⟩
    ∃ after result launched,
      schedule.matchOffer offer framework = (after, .ok result) ∧
        launched.length = 2 ∧
        result.operations = launched.map (·.launchOn offer.agent framework) ∧
        schedule.ready.Perm (launched ++ after.ready) ∧
        Conserves (Ledger.ofResources offer.resources) launched result.remaining := by
  intro offer framework web cache schedule
  have offered : (Ledger.ofResources offer.resources).Nonneg := by decide +kernel
  have required : ∀ group ∈ schedule.ready, group.requirement.Nonneg := by decide +kernel
  have matched : ∃ result, (schedule.matchOffer offer framework).2 = .ok result ∧
      result.operations.length = 2 := ⟨_, rfl, rfl⟩
  obtain ⟨result, accepted, both⟩ := matched
  have matched : schedule.matchOffer offer framework =
      ((schedule.matchOffer offer framework).1, .ok result) := by rw [← accepted]
  obtain ⟨launched, operations, parts⟩ := conserves_matchOffer offered required matched
  rw [operations, List.length_map] at both
  exact ⟨_, result, launched, matched, both, operations, parts⟩

end Schedule
end Convoy
