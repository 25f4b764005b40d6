import Convoy.Proofs.Schedule.Offers

/-!
# How much is launched on an offer

A group may declare amounts below zero. They count as covered whatever is offered, and the launch adds
them to what is left, unless 64 bits cannot hold the sum: then nothing is left. So launches take more
than was offered only by what others of them give back, and where none gives anything back, an offer
never grows. Numbers are never given back.
-/
namespace Convoy

/-- What is left where there is enough. The difference wraps around only below zero. -/
theorem Ledger.toInt_spend {known count : Int64} (offered : 0 ≤ known)
    (enough : count ≤ 0 ∨ count ≤ known) :
    (spend known count).toInt =
      if known.toInt - count.toInt ≤ Int64.maxValue.toInt then known.toInt - count.toInt else 0 := by
  have zero : (0 : Int64).toInt = 0 := rfl
  have bound : Int64.maxValue.toInt = 9223372036854775807 := rfl
  have least := count.le_toInt
  have most := known.toInt_lt
  have difference := Int64.toInt_sub known count
  rw [spend_eq]
  simp only [Int64.le_iff_toInt_le, zero] at offered enough ⊢
  by_cases held : known.toInt - count.toInt ≤ Int64.maxValue.toInt
  · rw [Int.bmod_eq_of_le (by omega) (by omega)] at difference
    rw [if_pos held, difference]
    split
    · rw [zero]
      omega
    · exact difference
  · have wrapped : (known.toInt - count.toInt).bmod (2 ^ 64) < 0 := by
      have turned : (known.toInt - count.toInt - (2 ^ 64 : Nat)).bmod (2 ^ 64) =
          (known.toInt - count.toInt).bmod (2 ^ 64) := Int.sub_bmod_right _ _
      rw [← turned, Int.bmod_eq_of_le (by omega) (by omega)]
      omega
    rw [if_neg held, difference, if_pos wrapped.le, zero]

/-- What the groups take of a name, each that takes any of it. -/
def demanded (groups : List TaskGroup) (name : String) : Int :=
  (groups.map fun group => max (group.requirement.amount name).toInt 0).sum

/-- What the groups give back of a name, each that requires an amount below zero. -/
def released (groups : List TaskGroup) (name : String) : Int :=
  (groups.map fun group => max (-(group.requirement.amount name).toInt) 0).sum

theorem demanded_cons (group : TaskGroup) (rest : List TaskGroup) (name : String) :
    demanded (group :: rest) name =
      max (group.requirement.amount name).toInt 0 + demanded rest name := by
  rw [demanded, List.map_cons, List.sum_cons, demanded]

theorem released_cons (group : TaskGroup) (rest : List TaskGroup) (name : String) :
    released (group :: rest) name =
      max (-(group.requirement.amount name).toInt) 0 + released rest name := by
  rw [released, List.map_cons, List.sum_cons, released]

theorem demanded_nonneg (groups : List TaskGroup) (name : String) : 0 ≤ demanded groups name := by
  refine List.sum_nonneg fun count member => ?_
  obtain ⟨group, -, rfl⟩ := List.mem_map.mp member
  exact le_max_right _ _

theorem released_nonneg (groups : List TaskGroup) (name : String) : 0 ≤ released groups name := by
  refine List.sum_nonneg fun count member => ?_
  obtain ⟨group, -, rfl⟩ := List.mem_map.mp member
  exact le_max_right _ _

theorem released_eq_zero {groups : List TaskGroup} {name : String}
    (nonneg : ∀ group ∈ groups, 0 ≤ group.requirement.amount name) : released groups name = 0 := by
  induction groups with
  | nil => rfl
  | cons group rest ih =>
      obtain ⟨here, later⟩ := List.forall_mem_cons.mp nonneg
      have here : 0 ≤ (group.requirement.amount name).toInt := Int64.le_iff_toInt_le.mp here
      rw [released_cons, ih later]
      omega

/-- What launches leave of an offer, whatever amounts their groups declare. -/
structure Limited (offered : Ledger) (launched : List TaskGroup) (left : Ledger) : Prop where
  nonneg : left.Nonneg
  /-- What is taken and what is left come out of the offer and of what is given back. -/
  within : ∀ name, (left.amount name).toInt + demanded launched name ≤
    (offered.amount name).toInt + released launched name
  /-- Nothing is lost, as long as 64 bits hold the offer with all that is given back. -/
  balance : ∀ name, (offered.amounts.get? name).isSome = true →
    (offered.amount name).toInt + released launched name ≤ Int64.maxValue.toInt →
      (left.amount name).toInt + demanded launched name =
        (offered.amount name).toInt + released launched name
  /-- Nothing is given back to a name that is not offered. -/
  absent : ∀ name, offered.amounts.get? name = none →
    left.amounts.get? name = none ∧ demanded launched name = 0
  /-- Where nothing is given back, the offer does not grow and holds all that is taken. -/
  steady : ∀ name, (∀ group ∈ launched, 0 ≤ group.requirement.amount name) →
    left.amount name ≤ offered.amount name ∧
      demanded launched name ≤ (offered.amount name).toInt
  range : ∀ name number, number ∈ left.range name → number ∈ offered.range name

namespace Spends

variable {offered left : Ledger} {launched : List TaskGroup} {group : TaskGroup} {name : String}

theorem nonneg (spends : Spends offered launched left) (nonneg : offered.Nonneg) :
    left.Nonneg := by
  induction spends with
  | nothing ledger => exact nonneg
  | launch fits later ih => exact ih (Ledger.nonneg_subtract nonneg _)

theorem absent (spends : Spends offered launched left) (nonneg : offered.Nonneg)
    (absent : offered.amounts.get? name = none) :
    left.amounts.get? name = none ∧ demanded launched name = 0 := by
  induction spends with
  | nothing ledger => exact ⟨absent, rfl⟩
  | @launch ledger left group rest fits later ih =>
      have enough := Ledger.amount_le_of_contains fits (nonneg name)
      have still : (ledger.subtract group.requirement).amounts.get? name = _ :=
        Ledger.amounts_subtract_of_nonneg (nonneg name)
      rw [absent] at still
      obtain ⟨none, taken⟩ := ih (Ledger.nonneg_subtract nonneg _) still
      rw [Ledger.amount.eq_def ledger, absent, Option.getD_none] at enough
      have enough : (group.requirement.amount name).toInt ≤ 0 := Int64.le_iff_toInt_le.mp enough
      rw [demanded_cons, taken]
      exact ⟨none, by omega⟩

/-- What one launch leaves of a name that is offered. -/
theorem toInt_amount_subtract {ledger : Ledger} (nonneg : ledger.Nonneg)
    (fits : ledger.contains group.requirement = true) {known : Int64}
    (found : ledger.amounts.get? name = some known) :
    (ledger.subtract group.requirement).amounts.get? name =
        some (Ledger.spend known (group.requirement.amount name)) ∧
      (Ledger.spend known (group.requirement.amount name)).toInt =
        if known.toInt - (group.requirement.amount name).toInt ≤ Int64.maxValue.toInt then
          known.toInt - (group.requirement.amount name).toInt
        else 0 := by
  have offered := nonneg name
  have enough := (Ledger.contains_iff.mp fits).1 name
  rw [Ledger.amount.eq_def ledger, found, Option.getD_some] at offered enough
  refine ⟨?_, Ledger.toInt_spend offered enough⟩
  rw [Ledger.amounts_subtract_of_nonneg (nonneg name), found, Option.map_some]

theorem balance (spends : Spends offered launched left) (nonneg : offered.Nonneg) {known : Int64}
    (found : offered.amounts.get? name = some known) :
    (left.amount name).toInt + demanded launched name ≤ known.toInt + released launched name ∧
      (known.toInt + released launched name ≤ Int64.maxValue.toInt →
        (left.amount name).toInt + demanded launched name =
          known.toInt + released launched name) := by
  induction spends generalizing known with
  | nothing ledger => simp [Ledger.amount, found, demanded, released]
  | @launch ledger left group rest fits later ih =>
      obtain ⟨next, toInt_next⟩ := toInt_amount_subtract nonneg fits found
      obtain ⟨within, whole⟩ := ih (Ledger.nonneg_subtract nonneg _) next
      have given := released_nonneg rest name
      have most := known.toInt_le
      have least := nonneg name
      rw [Ledger.amount, found, Option.getD_some] at least
      have least : 0 ≤ known.toInt := Int64.le_iff_toInt_le.mp least
      rw [toInt_next] at within whole
      rw [demanded_cons, released_cons]
      split at within <;> rename_i held
      · rw [if_pos held] at whole
        refine ⟨by omega, fun bounded => ?_⟩
        have later := whole (by omega)
        omega
      · exact ⟨by omega, fun bounded => by omega⟩

theorem limited (spends : Spends offered launched left) (nonneg : offered.Nonneg) :
    Limited offered launched left := by
  have within (name : String) : (left.amount name).toInt + demanded launched name ≤
      (offered.amount name).toInt + released launched name := by
    cases found : offered.amounts.get? name with
    | some known =>
        have balance := (spends.balance nonneg found).1
        rwa [Ledger.amount.eq_def offered, found, Option.getD_some]
    | none =>
        obtain ⟨nothing, taken⟩ := spends.absent nonneg found
        have given := released_nonneg launched name
        rw [Ledger.amount, Ledger.amount, nothing, found, taken]
        exact Int.add_le_add_left given _
  constructor
  case nonneg => exact spends.nonneg nonneg
  case within => exact within
  case balance =>
    intro name some
    obtain ⟨known, found⟩ := Option.isSome_iff_exists.mp some
    rw [Ledger.amount.eq_def offered, found, Option.getD_some]
    exact (spends.balance nonneg found).2
  case absent => exact fun name none => spends.absent nonneg none
  case steady =>
    intro name given
    have within := within name
    have left := Int64.le_iff_toInt_le.mp (spends.nonneg nonneg name)
    have taken := demanded_nonneg launched name
    rw [released_eq_zero given] at within
    have zero : (0 : Int64).toInt = 0 := rfl
    exact ⟨Int64.le_iff_toInt_le.mpr (by omega), by omega⟩
  case range =>
    intro name number member
    exact (((Divides.start offered).spend spends).range name number).mp member |>.1

end Spends

namespace Schedule

variable {schedule after : Schedule}

/-- Whatever amounts groups declare, the launches on an offer take no more of it than it has and
than others of them give back. Without groups that give back, no amount and no set of numbers grows. -/
theorem limited_matchOffer {offer : Offer} {framework : FrameworkId} {result : Match}
    (offered : (Ledger.ofResources offer.resources).Nonneg)
    (matched : schedule.matchOffer offer framework = (after, .ok result)) :
    ∃ launched : List TaskGroup,
      result.operations = launched.map (·.launchOn offer.agent framework) ∧
      schedule.ready.Perm (launched ++ after.ready) ∧
      Limited (Ledger.ofResources offer.resources) launched result.remaining := by
  obtain ⟨launched, operations, perm, spends⟩ := spends_matchOffer matched
  exact ⟨launched, operations, perm, spends.limited offered⟩

set_option maxRecDepth 4000 in
theorem limited_giving :
    let offer : Offer :=
      { id := ⟨"offer", by decide⟩
        agent := ⟨"agent", by decide⟩
        resources := [.scalar "cpus" 1.0, .scalar "mem" 64.0, .scalar "disk" 64.0] }
    let framework : FrameworkId := ⟨"framework", by decide⟩
    let giving := (TaskGroup.single
      { name := "giving", id := .stamped 0, resources := [.scalar "cpus" (-3.0)] } ⟨1⟩).1
    let taking := (TaskGroup.single
      { name := "taking", id := .stamped 2, resources := [.scalar "cpus" 2.0] } ⟨3⟩).1
    let schedule := start [giving, taking] {} ⟨4⟩
    ∃ after result launched,
      schedule.matchOffer offer framework = (after, .ok result) ∧
        result.operations = launched.map (·.launchOn offer.agent framework) ∧
        schedule.ready.Perm (launched ++ after.ready) ∧
        Limited (Ledger.ofResources offer.resources) launched result.remaining := by
  intro offer framework giving taking schedule
  have offered : (Ledger.ofResources offer.resources).Nonneg := by decide +kernel
  have matched : ∃ result, (schedule.matchOffer offer framework).2 = .ok result := ⟨_, rfl⟩
  obtain ⟨result, accepted⟩ := matched
  have matched : schedule.matchOffer offer framework =
      ((schedule.matchOffer offer framework).1, .ok result) := by rw [← accepted]
  obtain ⟨launched, parts⟩ := limited_matchOffer offered matched
  exact ⟨_, result, launched, matched, parts⟩

set_option maxRecDepth 4000 in
/-- A group that gives back makes an offer of one processor carry a group that takes two, and two are
left. -/
theorem offer_grows :
    let offer : Offer :=
      { id := ⟨"offer", by decide⟩
        agent := ⟨"agent", by decide⟩
        resources := [.scalar "cpus" 1.0, .scalar "mem" 64.0, .scalar "disk" 64.0] }
    let framework : FrameworkId := ⟨"framework", by decide⟩
    let giving := (TaskGroup.single
      { name := "giving", id := .stamped 0, resources := [.scalar "cpus" (-3.0)] } ⟨1⟩).1
    let taking := (TaskGroup.single
      { name := "taking", id := .stamped 2, resources := [.scalar "cpus" 2.0] } ⟨3⟩).1
    let schedule := start [giving, taking] {} ⟨4⟩
    let launched := [(giving.renew ⟨4⟩).1, (taking.renew ⟨6⟩).1]
    ∃ after result, schedule.matchOffer offer framework = (after, .ok result) ∧
      result.operations = launched.map (·.launchOn offer.agent framework) ∧
      (Ledger.ofResources offer.resources).Nonneg ∧
      (Ledger.ofResources offer.resources).amount "cpus" = 1000 ∧
      result.remaining.amount "cpus" = 2000 ∧ demanded launched "cpus" = 2000 := by
  intro offer framework giving taking schedule launched
  refine ⟨_, _, rfl, rfl, ?offered, ?before, ?left, ?taken⟩
  all_goals decide +kernel

end Schedule
end Convoy
