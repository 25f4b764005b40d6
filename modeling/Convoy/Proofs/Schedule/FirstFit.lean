import Convoy.Proofs.Schedule.Offers
import Convoy.Proofs.Schedule.Parallel

/-!
# Matching is first fit

Where groups run side by side, matching an offer turns the queue once around: each group is taken from
the front, and one that does not fit goes to the back. What comes of it is told by a fold that visits
the groups in order and splits them into those launched and those kept. No group that was kept fits
what is left at the end.
-/
namespace Convoy

/-- A queue split in two, with what an offer has left. -/
structure FirstFit where
  launched : List TaskGroup := []
  kept : List TaskGroup := []
  remaining : Ledger

namespace FirstFit

/-- Launches the group if what is left holds all that it requires, and keeps it otherwise. -/
def visit (fit : FirstFit) (group : TaskGroup) : FirstFit :=
  if fit.remaining.contains group.requirement then
    { fit with
      launched := fit.launched ++ [group]
      remaining := fit.remaining.subtract group.requirement }
  else { fit with kept := fit.kept ++ [group] }

def ofQueue (offered : Ledger) (groups : List TaskGroup) : FirstFit :=
  groups.foldl visit { remaining := offered }

def toMatch (fit : FirstFit) (agent : AgentId) (framework : FrameworkId) : Match where
  operations := fit.launched.map (·.launchOn agent framework)
  remaining := fit.remaining

variable {fit : FirstFit} {group : TaskGroup}

theorem visit_of_fits (fits : fit.remaining.contains group.requirement = true) :
    fit.visit group =
      { fit with
        launched := fit.launched ++ [group]
        remaining := fit.remaining.subtract group.requirement } :=
  if_pos fits

theorem toMatch_of_fits (fits : fit.remaining.contains group.requirement = true) (agent : AgentId)
    (framework : FrameworkId) :
    (fit.visit group).toMatch agent framework =
      (fit.toMatch agent framework).launch group agent framework := by
  rw [visit_of_fits fits, toMatch, Match.launch, List.map_append]
  rfl

theorem visit_of_not_fits (fits : fit.remaining.contains group.requirement = false) :
    fit.visit group = { fit with kept := fit.kept ++ [group] } := by
  rw [visit, fits]
  rfl

theorem split_visitAll (fit : FirstFit) (groups : List TaskGroup) :
    ∃ launched kept : List TaskGroup,
      (groups.foldl visit fit).launched = fit.launched ++ launched ∧
      (groups.foldl visit fit).kept = fit.kept ++ kept ∧
      launched.Sublist groups ∧ kept.Sublist groups ∧ groups.Perm (launched ++ kept) := by
  induction groups generalizing fit with
  | nil => exact ⟨[], [], (List.append_nil _).symm, (List.append_nil _).symm, .slnil, .slnil, .nil⟩
  | cons group rest ih =>
      obtain ⟨launched, kept, launched_eq, kept_eq, inOrder, stayed, perm⟩ := ih (fit.visit group)
      rw [List.foldl_cons, launched_eq, kept_eq]
      cases fits : fit.remaining.contains group.requirement with
      | true =>
          rw [visit_of_fits fits]
          exact ⟨group :: launched, kept, (List.append_cons ..).symm, rfl, inOrder.cons_cons group,
            stayed.cons group, perm.cons group⟩
      | false =>
          rw [visit_of_not_fits fits]
          exact ⟨launched, group :: kept, rfl, (List.append_cons ..).symm, inOrder.cons group,
            stayed.cons_cons group, (perm.cons group).trans List.perm_middle.symm⟩

theorem split_ofQueue (offered : Ledger) (groups : List TaskGroup) :
    (ofQueue offered groups).launched.Sublist groups ∧
      (ofQueue offered groups).kept.Sublist groups ∧
      groups.Perm ((ofQueue offered groups).launched ++ (ofQueue offered groups).kept) := by
  obtain ⟨launched, kept, launched_eq, kept_eq, parts⟩ :=
    split_visitAll { remaining := offered } groups
  rw [List.nil_append] at launched_eq kept_eq
  rw [ofQueue, launched_eq, kept_eq]
  exact parts

/-- Nothing that was kept fits what is left. -/
def Maximal (fit : FirstFit) : Prop :=
  ∀ group ∈ fit.kept, fit.remaining.contains group.requirement = false

theorem Maximal.visit (maximal : fit.Maximal) (nonneg : group.requirement.Nonneg) :
    (fit.visit group).Maximal := by
  cases fits : fit.remaining.contains group.requirement with
  | true =>
      rw [visit_of_fits fits]
      intro other kept
      -- What fits less would have fitted more.
      refine Bool.eq_false_iff.mpr fun covers => ?_
      have before := maximal other kept
      rw [Ledger.contains_of_subtract fits nonneg covers] at before
      contradiction
  | false =>
      rw [visit_of_not_fits fits]
      intro other kept
      rcases List.mem_append.mp kept with earlier | last
      · exact maximal other earlier
      · rw [List.mem_singleton.mp last]
        exact fits

theorem Maximal.visitAll (maximal : fit.Maximal) {groups : List TaskGroup}
    (nonneg : ∀ group ∈ groups, group.requirement.Nonneg) :
    (groups.foldl FirstFit.visit fit).Maximal := by
  induction groups generalizing fit with
  | nil => exact maximal
  | cons group rest ih =>
      obtain ⟨here, later⟩ := List.forall_mem_cons.mp nonneg
      exact ih (maximal.visit here) later

end FirstFit

namespace Schedule

variable {schedule after : Schedule} {agent : AgentId} {framework : FrameworkId}

/-- As many looks as there are groups in front take each of them from the front once. -/
theorem firstFit_matchNext {fit : FirstFit} {front : List TaskGroup} {result : Match}
    (parallel : schedule.Parallel) (items : schedule.pending.items = front ++ fit.kept)
    (matched : schedule.matchNext agent framework front.length (fit.toMatch agent framework) =
      (after, .ok result)) :
    result = (front.foldl FirstFit.visit fit).toMatch agent framework ∧
      after.pending.items = (front.foldl FirstFit.visit fit).kept := by
  -- The kept groups are generalized: they stand behind those that were not looked at yet.
  induction front generalizing schedule fit with
  | nil =>
      cases matched
      exact ⟨rfl, items⟩
  | cons group rest ih =>
      have items : schedule.pending.items = group :: (rest ++ fit.kept) := items
      obtain ⟨next, taken, left⟩ := Queue.exists_take? items
      have between := parallel.withPending (Queue.bounded_take? taken parallel.bounded)
      rw [List.length_cons, matchNext, parallel.pop_eq, taken] at matched
      dsimp only [Option.map_some] at matched
      rw [List.foldl_cons]
      cases fits : fit.remaining.contains group.requirement with
      | true =>
          have accepts : (fit.toMatch agent framework).fits group = true := fits
          rw [if_pos accepts, ← FirstFit.toMatch_of_fits fits] at matched
          refine ih between ?_ matched
          rw [FirstFit.visit_of_fits fits]
          exact left
      | false =>
          have refuses : ¬ (fit.toMatch agent framework).fits group = true :=
            Bool.eq_false_iff.mp fits
          rw [if_neg refuses, between.append_eq, enqueue] at matched
          dsimp only at matched
          cases pushed : next.push? group with
          | none =>
              rw [pushed] at matched
              cases matched
          | some back =>
              rw [pushed] at matched
              have kept := FirstFit.visit_of_not_fits fits
              refine ih (between.withPending (Queue.bounded_push? pushed)) ?_ ?_
              · show back.items = _
                rw [kept, Queue.items_push? pushed, left, List.append_assoc]
              · rw [kept]
                exact matched

theorem matchNext_ok (parallel : schedule.Parallel) (quiet : schedule.pending.waiting = [])
    (agent : AgentId) (framework : FrameworkId) (count : Nat) (found : Match) :
    ∃ items result, schedule.matchNext agent framework count found =
      ({ schedule with pending := { schedule.pending with items := items } }, .ok result) := by
  induction count generalizing schedule found with
  | zero => exact ⟨schedule.pending.items, found, rfl⟩
  | succ count ih =>
      rw [matchNext, parallel.pop_eq]
      cases taken : schedule.pending.take? with
      | none => exact ⟨schedule.pending.items, found, rfl⟩
      | some first =>
          obtain ⟨group, next⟩ := first
          have bounded := Queue.bounded_take? taken parallel.bounded
          have between := parallel.withPending bounded
          have next_eq := Queue.take?_eq_some taken quiet
          dsimp only [Option.map_some]
          split
          · obtain ⟨items, result, later⟩ := ih between (by rw [next_eq]; exact quiet)
              (found.launch group agent framework)
            refine ⟨items, result, later.trans ?_⟩
            rw [next_eq]
          · -- Nobody waits, so the place that the group left is still free.
            have pushed := Queue.push?_take? taken quiet parallel.bounded
            rw [between.append_eq, enqueue]
            dsimp only
            rw [pushed]
            dsimp only
            obtain ⟨items, result, later⟩ := ih
              (parallel.withPending (Queue.bounded_push? pushed)) quiet found
            exact ⟨items, result, later⟩

theorem firstFit_matchOffer {offer : Offer} {result : Match} (parallel : schedule.Parallel)
    (matched : schedule.matchOffer offer framework = (after, .ok result)) :
    let fit := FirstFit.ofQueue (Ledger.ofResources offer.resources) schedule.pending.items
    result = fit.toMatch offer.agent framework ∧ after.pending.items = fit.kept := by
  rw [matchOffer, parallel.pendingSize_eq] at matched
  let first : FirstFit := { remaining := Ledger.ofResources offer.resources }
  have items : schedule.pending.items = schedule.pending.items ++ first.kept :=
    (List.append_nil _).symm
  exact firstFit_matchNext parallel items matched

/-- No relaunch that waits for a place in the queue gets one while the offer is matched. -/
def Undisturbed (schedule : Schedule) (offer : Offer) (framework : FrameworkId) : Prop :=
  (schedule.matchOffer offer framework).1.pending.entering = schedule.pending.entering

theorem entering_nexts {group : TaskGroup} (nexts : Nexts schedule group after) :
    schedule.pending.entering <+: after.pending.entering := by
  cases nexts with
  | held found => exact List.prefix_refl _
  | pending absent taken => exact Queue.entering_take? taken

theorem entering_pops {group : TaskGroup} (pops : Pops schedule group after) :
    schedule.pending.entering <+: after.pending.entering := by
  cases pops with
  | relaunched sync taken => exact List.prefix_refl _
  | opened sync empty gate next =>
      have grown := entering_nexts next
      exact grown
  | parallel parallel next => exact entering_nexts next

theorem entering_appends {group : TaskGroup} {answer : Schedule × Except Failure Unit}
    (appends : Appends schedule group answer) :
    answer.1.pending.entering = schedule.pending.entering := by
  cases appends with
  | displaced sync found pushed => rw [Queue.push?_eq_some pushed]
  | queued parallel pushed => rw [Queue.push?_eq_some pushed]
  | _ => rfl

theorem entering_matchNext_of_pop {group : TaskGroup} {next : Schedule} {count : Nat}
    (popped : schedule.pop = some (group, next))
    (later : ∀ (schedule : Schedule) (found : Match), schedule.pending.entering <+:
      (schedule.matchNext agent framework count found).1.pending.entering) (found : Match) :
    next.pending.entering <+:
      (schedule.matchNext agent framework (count + 1) found).1.pending.entering := by
  rw [matchNext, popped]
  dsimp only
  split
  · exact later next _
  · have same := entering_appends (appends_append next group)
    split
    · rename_i back appended
      rw [appended] at same
      exact same ▸ later back found
    · rename_i back failure appended
      rw [appended] at same
      exact same ▸ List.prefix_refl _

theorem entering_matchNext (schedule : Schedule) (agent : AgentId) (framework : FrameworkId)
    (count : Nat) (found : Match) :
    schedule.pending.entering <+:
      (schedule.matchNext agent framework count found).1.pending.entering := by
  induction count generalizing schedule found with
  | zero => exact List.prefix_refl _
  | succ count ih =>
      cases popped : schedule.pop with
      | none =>
          rw [matchNext, popped]
      | some first =>
          obtain ⟨group, next⟩ := first
          exact (entering_pops (pops_of_pop popped)).trans
            (entering_matchNext_of_pop popped ih found)

/-- Matching leaves those who wait for a place alone only if there are none, or nothing is looked at:
the first group that is taken lets one of them have its place. -/
theorem Parallel.undisturbed_iff {offer : Offer} (parallel : schedule.Parallel) :
    schedule.Undisturbed offer framework ↔
      schedule.pending.waiting = [] ∨ schedule.pending.items = [] := by
  constructor
  · intro undisturbed
    cases waiting : schedule.pending.waiting with
    | nil => exact .inl rfl
    | cons first later =>
        cases items : schedule.pending.items with
        | nil => exact .inr rfl
        | cons group rest =>
            let next : Queue := { schedule.pending with
              items := rest
              entering := schedule.pending.entering ++ [⟨first, true⟩]
              waiting := later }
            have taken : schedule.pending.take? = some (group, next) := by
              simp only [Queue.take?, items, waiting, next]
            have popped : schedule.pop = some (group, { schedule with pending := next }) := by
              rw [parallel.pop_eq, taken]
              rfl
            have entered := entering_matchNext_of_pop popped
              (fun schedule => schedule.entering_matchNext offer.agent framework rest.length)
              { remaining := Ledger.ofResources offer.resources }
            rw [Undisturbed, matchOffer, parallel.pendingSize_eq, items, List.length_cons]
              at undisturbed
            rw [undisturbed] at entered
            have length := entered.length_le
            simp [next] at length
  · rintro (quiet | empty)
    · obtain ⟨items, result, matched⟩ := matchNext_ok parallel quiet offer.agent framework
        schedule.pendingSize { remaining := Ledger.ofResources offer.resources }
      rw [Undisturbed, matchOffer, matched]
    · rw [Undisturbed, matchOffer, parallel.pendingSize_eq, empty]
      rfl

theorem Parallel.matchOffer_eq {offer : Offer} (parallel : schedule.Parallel)
    (undisturbed : schedule.Undisturbed offer framework) :
    let fit := FirstFit.ofQueue (Ledger.ofResources offer.resources) schedule.pending.items
    schedule.matchOffer offer framework =
      ({ schedule with pending := { schedule.pending with items := fit.kept } },
        .ok (fit.toMatch offer.agent framework)) := by
  intro fit
  rcases parallel.undisturbed_iff.mp undisturbed with quiet | empty
  · obtain ⟨items, result, matched⟩ := matchNext_ok parallel quiet offer.agent framework
      schedule.pendingSize { remaining := Ledger.ofResources offer.resources }
    obtain ⟨result_eq, items_eq⟩ := firstFit_matchOffer parallel matched
    rw [matchOffer, matched, result_eq]
    dsimp only at items_eq
    rw [items_eq]
  · have nothing : fit = { remaining := Ledger.ofResources offer.resources } := by
      simp only [fit, FirstFit.ofQueue, empty, List.foldl_nil]
    have same : { schedule.pending with items := [] } = schedule.pending := by rw [← empty]
    rw [matchOffer, parallel.pendingSize_eq, empty, nothing]
    dsimp only
    rw [same]
    rfl

variable {groups : List TaskGroup} {rules : Rules} {offer : Offer}

/-- Matching an offer is the fold that visits the queue once, at any time of a run without `sync`. The
groups that are launched, and those that stay, keep their order. -/
theorem firstFit_play (parallel : rules.sync = false) (mint : Mint) (acts : List Act)
    (undisturbed :
      ((Course.start groups rules mint).play acts).schedule.Undisturbed offer framework) :
    let schedule := ((Course.start groups rules mint).play acts).schedule
    let queue := schedule.pending.items
    let fit := FirstFit.ofQueue (Ledger.ofResources offer.resources) queue
    schedule.matchOffer offer framework =
        ({ schedule with pending := { schedule.pending with items := fit.kept } },
          .ok (fit.toMatch offer.agent framework)) ∧
      fit.launched.Sublist queue ∧ fit.kept.Sublist queue ∧
      queue.Perm (fit.launched ++ fit.kept) :=
  ⟨(parallel_play parallel mint acts).matchOffer_eq undisturbed, FirstFit.split_ofQueue _ _⟩

theorem firstFit_two :
    let offer : Offer :=
      { id := ⟨"offer", by decide⟩
        agent := ⟨"agent", by decide⟩
        resources := [.scalar "cpus" 2.0] }
    let framework : FrameworkId := ⟨"framework", by decide⟩
    let group (name : String) (cpus : Float) (number : Nat) : TaskGroup :=
      { tasks := [{ name := name, id := .stamped number, resources := [.scalar "cpus" cpus] }]
        networks := []
        executor := { id := .stamped (number + 1) }
        hasTask := by simp }
    let groups := [group "large" 3.0 0, group "small" 1.0 2]
    let schedule := ((Course.start groups {} ⟨4⟩).play []).schedule
    let queue := schedule.pending.items
    let fit := FirstFit.ofQueue (Ledger.ofResources offer.resources) queue
    schedule.Undisturbed offer framework ∧
      (schedule.matchOffer offer framework =
        ({ schedule with pending := { schedule.pending with items := fit.kept } },
          .ok (fit.toMatch offer.agent framework)) ∧
      fit.launched.Sublist queue ∧ fit.kept.Sublist queue ∧
      queue.Perm (fit.launched ++ fit.kept)) := by
  intro offer framework group groups schedule queue fit
  have undisturbed : schedule.Undisturbed offer framework := rfl
  exact ⟨undisturbed, firstFit_play rfl ⟨4⟩ [] undisturbed⟩

/-- After an offer is matched, no group in the queue fits what is left of it. -/
theorem maximal_play (parallel : rules.sync = false) (mint : Mint) (acts : List Act)
    {result : Match}
    (nonneg : ∀ group ∈ ((Course.start groups rules mint).play acts).schedule.pending.items,
      group.requirement.Nonneg)
    (matched : ((Course.start groups rules mint).play acts).schedule.matchOffer offer framework =
      (after, .ok result)) :
    ∀ group ∈ after.pending.items, result.remaining.contains group.requirement = false := by
  obtain ⟨result_eq, items_eq⟩ :=
    firstFit_matchOffer (parallel_play parallel mint acts) matched
  rw [result_eq, items_eq]
  have nothing : FirstFit.Maximal { remaining := Ledger.ofResources offer.resources } :=
    fun group member => by contradiction
  exact nothing.visitAll nonneg

theorem maximal_two :
    let offer : Offer :=
      { id := ⟨"offer", by decide⟩
        agent := ⟨"agent", by decide⟩
        resources := [.scalar "cpus" 2.0] }
    let framework : FrameworkId := ⟨"framework", by decide⟩
    let group (name : String) (cpus : Float) (number : Nat) : TaskGroup :=
      { tasks := [{ name := name, id := .stamped number, resources := [.scalar "cpus" cpus] }]
        networks := []
        executor := { id := .stamped (number + 1) }
        hasTask := by simp }
    let groups := [group "large" 3.0 0, group "small" 1.0 2]
    let schedule := ((Course.start groups {} ⟨4⟩).play []).schedule
    ∃ after result, schedule.matchOffer offer framework = (after, .ok result) ∧
      after.pending.items = [((group "large" 3.0 0).renew ⟨4⟩).1] ∧
      ∀ group ∈ after.pending.items, result.remaining.contains group.requirement = false := by
  intro offer framework group groups schedule
  have nonneg : ∀ group ∈ schedule.pending.items, group.requirement.Nonneg := by
    decide +kernel
  have matched : ∃ result, (schedule.matchOffer offer framework).2 = .ok result := ⟨_, rfl⟩
  obtain ⟨result, accepted⟩ := matched
  have matched : schedule.matchOffer offer framework =
      ((schedule.matchOffer offer framework).1, .ok result) := by rw [← accepted]
  exact ⟨_, result, matched, rfl, maximal_play rfl ⟨4⟩ [] nonneg matched⟩

end Schedule
end Convoy
