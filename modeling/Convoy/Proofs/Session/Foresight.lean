import Convoy.Proofs.Schedule.Lineage
import Convoy.Proofs.Session.Turns
import Convoy.Proofs.TaskGroup.Resemblance
import Convoy.Shell.Plan

/-!
# The plan is what runs

A plan puts the groups of a file in a role and shows their launches. A run puts them in the same role
and then renews them, queues them, binds them to what is offered and renews them again after each
restart. None of this changes more than identities, so every operation of a run is the one that the
plan shows for its group, and takes from its offer what the table of the plan says.
-/
namespace Convoy

/-- The offers that a call accepts and what it launches on them. -/
structure Acceptance where
  answered : List OfferId
  operations : List Operation

def Call.acceptance? (call : Call) : Option Acceptance :=
  match call.body with
  | .accept answered operations _ => some ⟨answered, operations⟩
  | _ => none

namespace Notice

def acceptance? : Notice → Option Acceptance
  | .call sent => sent.acceptance?
  | .event _ => none

def offers : Notice → List Offer
  | .event (.offers given) => given
  | _ => []

theorem acceptance?_eq_none {notice : Notice} (other : notice.isAcceptance = false) :
    notice.acceptance? = none := by
  cases notice with
  | event heard => rfl
  | call call =>
      obtain ⟨framework, body⟩ := call
      cases body with
      | accept offers operations filters => contradiction
      | _ => rfl

end Notice

namespace Server

/-- The acceptance that is to be sent next. -/
def acceptance? : Server → Option Acceptance
  | .accepting _ accept _ => accept.acceptance?
  | _ => none

/-- The offers that are still to be answered. -/
def offers : Server → List Offer
  | .answering _ offers | .accepting _ _ offers => offers
  | _ => []

end Server

namespace Plan

/-- What the table has in a column of the row at an index. -/
def cell? (plan : Plan) (index : Nat) (column : String) : Option String := do
  let row ← (rowsFrom 0 plan.groups)[index]?
  row[heading.idxOf column]?

/-- A cell tells the amount of a name that a launch costs: there is as much before it, and as much less
after it. -/
structure CostsAmount (cell : Option String) (name : String) (before after : Ledger)
    (count : Int64) : Prop where
  told : cell = some (Decimal.plain (ofThousandths count))
  covered : count ≤ 0 ∨ count ≤ before.amount name
  taken : 0 ≤ count → 0 ≤ before.amount name →
    (before.amount name).toInt - (after.amount name).toInt = count.toInt
  /-- An amount below zero is added to what is offered of the name. -/
  left : 0 ≤ before.amount name →
    after.amounts.get? name = (before.amounts.get? name).map (Ledger.spend · count)

def spansText (spans : List Span) : String :=
  "[" ++ ", ".intercalate (spans.map fun span => toString span.first ++ "-" ++ toString span.last) ++
    "]"

/-- A cell tells the numbers of a name that a launch costs: all are there before it, and none of them
after it. -/
structure CostsNumbers (cell : Option String) (name : String) (before after : Ledger)
    (spans : List Span) : Prop where
  told : cell = some (spansText spans) ∨ cell = some "-" ∧ spans = []
  covered : ∀ number, Among spans number → number ∈ before.range name
  taken : ∀ number, number ∈ after.range name ↔ number ∈ before.range name ∧ ¬ Among spans number

/-- The columns of the row at an index tell what a launch costs. -/
structure Costs (plan : Plan) (index : Nat) (before after : Ledger) : Prop where
  cpus : ∃ count, CostsAmount (plan.cell? index "CPUS") "cpus" before after count
  mem : ∃ count, CostsAmount (plan.cell? index "MEM") "mem" before after count
  disk : ∃ count, CostsAmount (plan.cell? index "DISK") "disk" before after count
  ports : ∃ spans, CostsNumbers (plan.cell? index "PORTS") "ports" before after spans

/-- At an index the plan prints the operation that launches a group, but for identities. -/
def Prints (plan : Plan) (index : Nat) (operation : Operation) : Prop :=
  ∃ planned, plan.operations[index]? = some planned ∧ planned.Resembles operation

/-- The plan accounts for launches of groups, one after another, on what an offer holds and for what
they leave of it. Each of them is the group at one index, and is launched as the plan prints it there
and at the cost that the plan tells. -/
inductive Accounts (plan : Plan) (rosters : List Roster) (launch : TaskGroup → Operation) :
    Ledger → List TaskGroup → Ledger → Prop where
  | nothing (ledger : Ledger) : Accounts plan rosters launch ledger [] ledger
  | launch {before after left : Ledger} {group : TaskGroup} {rest : List TaskGroup} {index : Nat}
      (belongs : group.BelongsOnlyTo rosters index) (prints : plan.Prints index (launch group))
      (costs : plan.Costs index before after)
      (later : Accounts plan rosters launch after rest left) :
      Accounts plan rosters launch before (group :: rest) left

/-- The plan foretells an acceptance. It comes of matching one of the offers in the course of a run,
and the plan accounts for the groups that are launched and for what is left of the offer. -/
def Foretells (plan : Plan) (rosters : List Roster) (offered : List Offer)
    (acceptance : Acceptance) : Prop :=
  ∃ offer ∈ offered, ∃ (schedule : Schedule) (framework : FrameworkId) (found : Match)
      (launched : List TaskGroup),
    schedule.roster ∈ rosters ∧ (schedule.matchOffer offer framework).2 = .ok found ∧
    acceptance = ⟨[offer.id], found.operations⟩ ∧
    found.operations = launched.map (·.launchOn offer.agent framework) ∧
    plan.Accounts rosters (·.launchOn offer.agent framework) (Ledger.ofResources offer.resources)
      launched found.remaining

variable {plan : Plan} {index : Nat}

theorem integerText_ofNat (n : Nat) : Decimal.integerText n = toString n := by
  rw [Decimal.integerText, if_neg (by omega)]
  rfl

theorem text_eq_spansText (set : SpanSet) : set.text = spansText set.spans := by
  unfold SpanSet.text spansText
  simp only [integerText_ofNat]
  rfl

theorem getElem?_rowsFrom (start : Nat) (groups : List TaskGroup) (index : Nat) :
    (rowsFrom start groups)[index]? = groups[index]?.map (row (start + index)) := by
  induction groups generalizing start index with
  | nil => rfl
  | cons group rest ih =>
      cases index with
      | zero => rfl
      | succ index =>
          simp only [rowsFrom, List.getElem?_cons_succ, ih]
          rw [Nat.add_right_comm, Nat.add_assoc]

theorem prints_of_resembles {planned group : TaskGroup} (found : plan.groups[index]? = some planned)
    (resembles : planned.Resembles group) (agent : AgentId) (framework : FrameworkId) :
    plan.Prints index (group.launchOn agent framework) := by
  refine ⟨planned.launch, by rw [operations, List.getElem?_map, found, Option.map_some], ?_⟩
  exact (resembles.trans (group.resembles_bound agent framework)).launch

section
variable {before required : Ledger} {name : String}

theorem costsAmount_subtract (covers : before.contains required = true) :
    CostsAmount (some (quantity required name)) name before (before.subtract required)
      (required.amount name) where
  told := by
    unfold quantity Ledger.scalar? Ledger.amount
    cases required.amounts.get? name <;> rfl
  covered := (Ledger.contains_iff.mp covers).1 name
  taken low offered := by
    rw [Ledger.toInt_amount_subtract covers offered low]
    omega
  left offered := Ledger.amounts_subtract_of_nonneg offered

theorem costsNumbers_subtract (covers : before.contains required = true) :
    CostsNumbers
      (some (match required.ranges.get? name with
        | some set => set.text
        | none => "-"))
      name before (before.subtract required) (required.range name).spans where
  told := by
    unfold Ledger.range
    cases required.ranges.get? name with
    | none => exact .inr ⟨rfl, rfl⟩
    | some set => exact .inl (congrArg some (text_eq_spansText set))
  covered number among := Ledger.mem_range_of_contains covers among
  taken number := Ledger.mem_range_subtract

end

theorem cell?_eq {planned : TaskGroup} (found : plan.groups[index]? = some planned)
    (column : String) : plan.cell? index column = (row index planned)[heading.idxOf column]? := by
  rw [cell?, getElem?_rowsFrom, found, Option.map_some, Nat.zero_add]
  rfl

/-- The row of a group tells what its launch costs, and so do the rows of groups that resemble it. -/
theorem costs_of_resembles {planned group : TaskGroup} (found : plan.groups[index]? = some planned)
    (resembles : planned.Resembles group) {before : Ledger}
    (fits : before.contains group.requirement = true) :
    plan.Costs index before (before.subtract group.requirement) := by
  have cell := cell?_eq found
  rw [resembles.requirement] at fits ⊢
  have amount (name : String) :
      CostsAmount (some (quantity planned.requirement name)) name before _ _ :=
    costsAmount_subtract fits
  constructor
  case cpus =>
    rw [cell]
    exact ⟨_, amount "cpus"⟩
  case mem =>
    rw [cell]
    exact ⟨_, amount "mem"⟩
  case disk =>
    rw [cell]
    exact ⟨_, amount "disk"⟩
  case ports =>
    rw [cell]
    exact ⟨_, costsNumbers_subtract fits⟩

theorem accounts_of_spends {rosters : List Roster} {agent : AgentId} {framework : FrameworkId}
    {offered left : Ledger} {launched : List TaskGroup} (spends : Spends offered launched left)
    (planned : ∀ group ∈ launched, ∃ index original, group.BelongsOnlyTo rosters index ∧
      plan.groups[index]? = some original ∧ original.Resembles group) :
    plan.Accounts rosters (·.launchOn agent framework) offered launched left := by
  induction spends with
  | nothing ledger => exact .nothing ledger
  | launch fits later ih =>
      obtain ⟨here, others⟩ := List.forall_mem_cons.mp planned
      obtain ⟨index, original, belongs, found, resembles⟩ := here
      exact .launch belongs (prints_of_resembles found resembles agent framework)
        (costs_of_resembles found resembles fits) (ih others)

theorem Accounts.mono {rosters later : List Roster} {launch : TaskGroup → Operation}
    {offered left : Ledger} {launched : List TaskGroup} {mint : Mint}
    (accounts : plan.Accounts rosters launch offered launched left) (chronicle : Chronicle mint later)
    (within : rosters ⊆ later) : plan.Accounts later launch offered launched left := by
  induction accounts with
  | nothing ledger => exact .nothing ledger
  | launch belongs prints costs _ ih =>
      exact .launch (chronicle.belongsOnlyTo (((belongs _).mpr rfl).mono within)) prints costs ih

theorem Foretells.mono {rosters later : List Roster} {offered more : List Offer}
    {acceptance : Acceptance} {mint : Mint} (foretells : plan.Foretells rosters offered acceptance)
    (chronicle : Chronicle mint later) (within : rosters ⊆ later) (came : offered ⊆ more) :
    plan.Foretells later more acceptance := by
  obtain ⟨offer, given, schedule, framework, found, launched, present, matched, answered, operations,
    accounts⟩ := foretells
  exact ⟨offer, came given, schedule, framework, found, launched, within present, matched, answered,
    operations, accounts.mono chronicle within⟩

end Plan

theorem TaskGroup.RenewalOf.resembles {group original : TaskGroup}
    (renewal : group.RenewalOf original) : original.Resembles group := by
  obtain ⟨mint, rfl⟩ := renewal
  exact original.resembles_renew mint

/-- What is launched on an offer is foretold by a plan of groups that resemble the submitted ones. -/
theorem Schedule.Lineage.foretells {schedule : Schedule} {submitted : List TaskGroup}
    {rosters : List Roster} {plan : Plan} (lineage : schedule.Lineage submitted rosters)
    (resemble : List.Forall₂ TaskGroup.Resembles plan.groups submitted) {offer : Offer}
    {offered : List Offer} (came : offer ∈ offered) {framework : FrameworkId} {found : Match}
    (matched : (schedule.matchOffer offer framework).2 = .ok found) :
    plan.Foretells rosters offered ⟨[offer.id], found.operations⟩ := by
  obtain ⟨launched, operations, spends, descend⟩ := lineage.matchOffer matched
  refine ⟨offer, came, schedule, framework, found, launched, lineage.present, matched, rfl, operations,
    Plan.accounts_of_spends spends fun group member => ?_⟩
  obtain ⟨index, original, given, renewal, belongs⟩ := descend group member
  obtain ⟨bound, rfl⟩ := List.getElem?_eq_some_iff.mp given
  have listed : index < plan.groups.length := resemble.length_eq ▸ bound
  have alike : plan.groups[index].Resembles submitted[index] := resemble.get listed bound
  exact ⟨index, plan.groups[index], lineage.chronicle.belongsOnlyTo belongs,
    List.getElem?_eq_getElem listed, alike.trans renewal.resembles⟩

theorem Schedule.Lineage.stirs {schedule after : Schedule} {submitted : List TaskGroup}
    {rosters : List Roster} (lineage : schedule.Lineage submitted rosters)
    (stirs : schedule.Stirs after) : after.Lineage submitted (rosters ++ [after.roster]) := by
  have same (queued : after.queued = schedule.queued) (roster : after.roster = schedule.roster)
      (mint : after.mint = schedule.mint) : after.Lineage submitted (rosters ++ [after.roster]) :=
    lineage.takes ⟨by rw [List.append_nil, queued], roster, mint⟩
  cases stirs with
  | reported status => exact lineage.report _ status
  | cameBack position => exact lineage.takes (schedule.takes_comeBack position)
  | settled => exact lineage.takes schedule.takes_settle
  | _ => exact same rfl rfl rfl

namespace Loops

open Schedule

variable {loops after : Loops} {plan : Plan} {submitted : List TaskGroup} {past : List Roster}

/-- All offers that came. -/
def offered (loops : Loops) : List Offer :=
  loops.router.notices.flatMap Notice.offers

/-- What was accepted so far, or is to be accepted next. -/
def acceptances (loops : Loops) : List Acceptance :=
  loops.router.notices.filterMap Notice.acceptance? ++ loops.server.acceptance?.toList

theorem acceptances_of_silent (silent : loops.server.acceptance? = none) :
    loops.acceptances = loops.router.notices.filterMap Notice.acceptance? := by
  rw [acceptances, silent, Option.toList_none, List.append_nil]

theorem acceptances_subset (silent : after.server.acceptance? = none)
    (sent : after.router.notices.filterMap Notice.acceptance? ⊆ loops.acceptances) :
    after.acceptances ⊆ loops.acceptances := by
  rwa [acceptances_of_silent silent]

theorem sent_subset (loops : Loops) :
    loops.router.notices.filterMap Notice.acceptance? ⊆ loops.acceptances :=
  List.subset_append_left _ _

/-- The rosters of the loops while they take their turns. -/
def rosters (loops : Loops) : List Turn → List Roster
  | [] => [loops.schedule.roster]
  | turn :: rest => loops.schedule.roster :: rosters (loops.turn turn) rest

/-- All that was accepted is foretold, and so is what is to be accepted next. -/
structure Foreseen (plan : Plan) (submitted : List TaskGroup) (past : List Roster) (loops : Loops) :
    Prop where
  lineage : loops.schedule.Lineage submitted past
  offers : loops.server.offers ⊆ loops.offered
  accepted : ∀ acceptance ∈ loops.acceptances, plan.Foretells past loops.offered acceptance

/-- Nothing new is accepted. -/
theorem Foreseen.next (foreseen : loops.Foreseen plan submitted past)
    (lineage : after.schedule.Lineage submitted (past ++ [after.schedule.roster]))
    (offered : loops.offered ⊆ after.offered) (offers : after.server.offers ⊆ after.offered)
    (accepted : after.acceptances ⊆ loops.acceptances) :
    after.Foreseen plan submitted (past ++ [after.schedule.roster]) where
  lineage := lineage
  offers := offers
  accepted acceptance member :=
    (foreseen.accepted acceptance (accepted member)).mono lineage.chronicle
      (List.subset_append_left _ _) offered

theorem Foreseen.deals (foreseen : loops.Foreseen plan submitted past)
    (resemble : List.Forall₂ TaskGroup.Resembles plan.groups submitted) {framework : FrameworkId}
    {offer : Offer} {rest : List Offer}
    (stands : loops.server = .answering framework (offer :: rest)) :
    (loops.answer framework (offer :: rest)).Foreseen plan submitted
      (past ++ [(loops.answer framework (offer :: rest)).schedule.roster]) := by
  have offers := foreseen.offers
  rw [stands] at offers
  obtain ⟨came, others⟩ := List.cons_subset.mp offers
  have foretells (found : Match)
      (matched : (loops.schedule.matchOffer offer framework).2 = .ok found) :=
    foreseen.lineage.foretells resemble came matched
  obtain ⟨new, takes, -⟩ := loops.schedule.takes_matchNext offer.agent framework
    loops.schedule.pendingSize { remaining := Ledger.ofResources offer.resources }
  change Takes _ (loops.schedule.matchOffer offer framework).1 new at takes
  have lineage := foreseen.lineage.takes takes
  have silent : loops.acceptances = loops.router.notices.filterMap Notice.acceptance? :=
    acceptances_of_silent (by rw [stands]; rfl)
  unfold answer
  dsimp only
  generalize loops.schedule.matchOffer offer framework = answer at foretells lineage
  obtain ⟨schedule, failure | found⟩ := answer
  · exact foreseen.next lineage (List.Subset.refl _) (List.nil_subset _)
      (acceptances_subset rfl loops.sent_subset)
  · refine ⟨lineage, others, fun acceptance member => ?_⟩
    have foretold : plan.Foretells past loops.offered acceptance := by
      rcases List.mem_append.mp member with earlier | last
      · exact foreseen.accepted acceptance (silent ▸ earlier)
      · cases List.mem_singleton.mp last
        exact foretells found rfl
    exact foretold.mono lineage.chronicle (List.subset_append_left _ _) (List.Subset.refl _)

/-- The acceptance goes from what is to be sent to what was sent. -/
theorem Foreseen.accepts (foreseen : loops.Foreseen plan submitted past) {framework : FrameworkId}
    {accept : Call} {offers : List Offer} (stands : loops.server = .accepting framework accept offers) :
    (loops.follow (loops.router.call accept) (.answering framework offers)).Foreseen plan submitted
      (past ++ [(loops.follow (loops.router.call accept)
        (.answering framework offers)).schedule.roster]) := by
  have came := foreseen.offers
  rw [stands] at came
  have last : (Notice.call (loops.router.sign accept)).acceptance? = accept.acceptance? := by
    rw [Notice.acceptance?, Call.acceptance?, loops.router.body_sign, Call.acceptance?]
  have sent : (loops.router.call accept).1.notices.filterMap Notice.acceptance? ⊆
      loops.acceptances := by
    show (loops.router.notices ++ [Notice.call (loops.router.sign accept)]).filterMap _ ⊆ _
    rw [List.filterMap_append, List.filterMap_cons, List.filterMap_nil, last, acceptances, stands,
      Server.acceptance?]
    cases accept.acceptance? <;> exact List.Subset.refl _
  have offered : loops.offered ⊆ (loops.router.call accept).1.notices.flatMap Notice.offers := by
    show _ ⊆ (loops.router.notices ++ [Notice.call (loops.router.sign accept)]).flatMap _
    rw [List.flatMap_append]
    exact List.subset_append_left _ _
  have lineage : (loops.router.call accept).1.schedule.Lineage submitted
      (past ++ [(loops.router.call accept).1.schedule.roster]) :=
    foreseen.lineage.stirs (.refl loops.schedule)
  unfold follow
  split <;> rename_i answer <;> rw [answer] at sent offered lineage
  · exact foreseen.next lineage offered (List.Subset.trans came offered)
      (acceptances_subset rfl sent)
  · exact foreseen.next lineage offered (List.nil_subset _) (acceptances_subset rfl sent)

theorem Foreseen.works (foreseen : loops.Foreseen plan submitted past)
    (resemble : List.Forall₂ TaskGroup.Resembles plan.groups submitted) (works : Works loops after) :
    after.Foreseen plan submitted (past ++ [after.schedule.roster]) := by
  cases works with
  | deals stands => exact foreseen.deals resemble stands
  | accepts stands => exact foreseen.accepts stands
  | @speaks after more stirs notices other silent asked =>
      have offered : after.offered = loops.offered ++ more.flatMap Notice.offers := by
        rw [Loops.offered, notices, List.flatMap_append, Loops.offered]
      have quiet : more.filterMap Notice.acceptance? = [] :=
        List.filterMap_eq_nil_iff.mpr fun notice member => Notice.acceptance?_eq_none (other notice member)
      refine foreseen.next (foreseen.lineage.stirs stirs) ?_ ?_ ?_
      · rw [offered]
        exact List.subset_append_left _ _
      · rw [offered]
        cases stands : after.server with
        | accepting framework accept offers => exact absurd stands (silent framework accept offers)
        | answering framework offers =>
            obtain ⟨-, rfl⟩ := asked framework offers stands
            simp [Server.offers, Notice.offers]
        | _ => exact List.nil_subset _
      · have same : after.router.notices.filterMap Notice.acceptance? =
            loops.router.notices.filterMap Notice.acceptance? := by
          rw [notices, List.filterMap_append, quiet, List.append_nil]
        refine acceptances_subset ?_ (same ▸ loops.sent_subset)
        cases stands : after.server with
        | accepting framework accept offers => exact absurd stands (silent framework accept offers)
        | _ => rfl

theorem Foreseen.turn (foreseen : loops.Foreseen plan submitted past)
    (resemble : List.Forall₂ TaskGroup.Resembles plan.groups submitted) (turn : Turn) :
    (loops.turn turn).Foreseen plan submitted (past ++ [(loops.turn turn).schedule.roster]) := by
  have turns := loops.turns_turn turn
  generalize loops.turn turn = after at turns
  cases turns with
  | works moved works => exact foreseen.works resemble works
  | aside policy attempt fixed server framework notices stirs =>
      have offered : after.offered = loops.offered := by rw [Loops.offered, notices, Loops.offered]
      refine foreseen.next (foreseen.lineage.stirs stirs) (offered ▸ List.Subset.refl _) ?_ ?_
      · rw [server, offered]
        exact foreseen.offers
      · rw [acceptances, notices, server, acceptances]
        exact List.Subset.refl _
  | @closes server closed cause =>
      refine foreseen.next (foreseen.lineage.stirs (.refl _)) (List.Subset.refl _) ?_
        (acceptances_subset ?_ loops.sent_subset)
      · cases server <;> first | exact List.nil_subset _ | contradiction
      · cases server <;> first | rfl | contradiction

theorem foreseen_playTurns (earlier : List Roster)
    (foreseen : loops.Foreseen plan submitted (earlier ++ [loops.schedule.roster]))
    (resemble : List.Forall₂ TaskGroup.Resembles plan.groups submitted) (turns : List Turn) :
    (loops.playTurns turns).Foreseen plan submitted (earlier ++ loops.rosters turns) := by
  induction turns generalizing loops earlier with
  | nil => exact foreseen
  | cons turn rest ih =>
      have later := ih _ (foreseen.turn resemble turn)
      rwa [List.append_assoc] at later

theorem foreseen_start (profile : Profile) (groups : List TaskGroup) (mint : Mint) (draws : Draws)
    (plan : Plan) :
    (start profile groups mint draws).Foreseen plan (groups.map (·.inRole profile.registration.role))
      [(start profile groups mint draws).schedule.roster] where
  lineage := (lineage_start _ profile.rules mint).congr rfl rfl rfl
  offers := List.nil_subset _
  accepted := List.forall_mem_nil _

/-- A file is planned, and read again for a run. However the loops take their turns, whatever is
offered and reported and however often groups are restarted, the plan foretells each acceptance: a
group that is launched belongs to just one index, is launched as the plan prints it there, and costs
the offer what is in the row. Each run takes some such turns, whatever befalls it. -/
theorem foretold_playTurns {text : String} {mint late after last : Mint}
    {planned groups : List TaskGroup} (read : GroupFile.parse text mint = .ok (planned, after))
    (reread : GroupFile.parse text late = .ok (groups, last)) (profile : Profile) (first : Mint)
    (draws : Draws) :
    let plan := Plan.ofGroups planned false profile.registration.role
    let loops := start profile groups first draws
    (∀ turns, ∀ acceptance ∈ (loops.playTurns turns).router.notices.filterMap Notice.acceptance?,
      plan.Foretells (loops.rosters turns) (loops.playTurns turns).offered acceptance) ∧
    ∀ incidents, ∃ turns taken, loops.playTurns turns =
      ((Run.start profile groups first draws).undergoAll incidents).loops taken := by
  intro plan loops
  have resemble : List.Forall₂ TaskGroup.Resembles plan.groups
      (groups.map (·.inRole profile.registration.role)) :=
    List.rel_map (fun _ _ alike => alike.inRole profile.registration.role)
      (GroupFile.resembles_of_parse read reread)
  constructor
  · intro turns acceptance member
    have foreseen := foreseen_playTurns [] (foreseen_start profile groups first draws plan) resemble
      turns
    exact foreseen.accepted acceptance (sent_subset _ member)
  · exact playTurns_undergoAll profile groups first draws

set_option maxRecDepth 4000 in
theorem items_relaunched :
    Yaml.items? ("- tasks: [{name: a}, {}]\n- container:\n    type: DOCKER\n    docker:\n" ++
      "      port_mappings:\n      - host_port: 80\n        container_port: 8080\n") = some
    [.map [(.text "tasks", .list [.map [(.text "name", .text "a")], .map []])],
      .map [(.text "container", .map [(.text "type", .text "DOCKER"), (.text "docker", .map
        [(.text "port_mappings", .list
          [.map [(.text "host_port", .int 80), (.text "container_port", .int 8080)]])])])]] := by
  unfold Yaml.items?
  conv in Yaml.tokens? _ => cbv
  rfl

/-- A file with two groups is planned and run. Both are launched on one offer, and the second one,
which publishes a port, is launched again on another offer after it failed. -/
theorem foretold_playTurns_two :
    let text := "- tasks: [{name: a}, {}]\n- container:\n    type: DOCKER\n    docker:\n" ++
      "      port_mappings:\n      - host_port: 80\n        container_port: 8080\n"
    let profile : Profile := { registration := { role := "dev" }, restart := .always }
    let offer (id : OfferId) : Offer :=
      { id := id
        agent := ⟨"agent", by decide⟩
        resources := [.scalar "cpus" 1.0, .scalar "mem" 512.0, .scalar "disk" 512.0,
          .ranges "ports" [⟨80, 81⟩]] }
    let inbox : List Event :=
      [.subscribed ⟨"framework", by decide⟩ none none, .offers [offer ⟨"first", by decide⟩],
        .update { task := .stamped 14, state := .failed }, .offers [offer ⟨"second", by decide⟩]]
    let moves : List Move :=
      [.watch, .link fun link => { link with inbox := inbox.map .event }] ++
        List.replicate 10 .serve ++ .take :: List.replicate 4 .serve
    ∃ planned groups after last,
      GroupFile.parse text ⟨0⟩ = .ok (planned, after) ∧
      GroupFile.parse text ⟨5⟩ = .ok (groups, last) ∧
      let plan := Plan.ofGroups planned false profile.registration.role
      let loops := start profile groups ⟨10⟩ .middle
      let turns := moves.map .move
      let accepted := (loops.playTurns turns).router.notices.filterMap Notice.acceptance?
      accepted.map (·.operations.map Operation.taskIds) =
          [[[.stamped 11, .stamped 12], [.stamped 14]], [[.stamped 16]]] ∧
        ["CPUS", "MEM", "DISK", "PORTS"].map (plan.cell? 0) =
          [some "0.3", some "96", some "96", some "-"] ∧
        ["CPUS", "MEM", "DISK", "PORTS"].map (plan.cell? 1) =
          [some "0.1", some "32", some "32", some "[80-80]"] ∧
        ∀ acceptance ∈ accepted,
          plan.Foretells (loops.rosters turns) (loops.playTurns turns).offered acceptance := by
  intro text profile offer inbox moves
  have played : ∃ planned groups after last,
      GroupFile.parse text ⟨0⟩ = .ok (planned, after) ∧
      GroupFile.parse text ⟨5⟩ = .ok (groups, last) ∧
      let plan := Plan.ofGroups planned false profile.registration.role
      let accepted := ((start profile groups ⟨10⟩ .middle).playTurns
        (moves.map .move)).router.notices.filterMap Notice.acceptance?
      accepted.map (·.operations.map Operation.taskIds) =
          [[[.stamped 11, .stamped 12], [.stamped 14]], [[.stamped 16]]] ∧
        ["CPUS", "MEM", "DISK", "PORTS"].map (plan.cell? 0) =
          [some "0.3", some "96", some "96", some "-"] ∧
        ["CPUS", "MEM", "DISK", "PORTS"].map (plan.cell? 1) =
          [some "0.1", some "32", some "32", some "[80-80]"] := by
    rw [GroupFile.parse, items_relaunched, GroupFile.parse, items_relaunched]
    exact ⟨_, _, _, _, rfl, rfl, by decide +kernel, by decide +kernel, by decide +kernel⟩
  obtain ⟨planned, groups, after, last, read, reread, launches, first, second⟩ := played
  exact ⟨planned, groups, after, last, read, reread, launches, first, second,
    (foretold_playTurns read reread profile ⟨10⟩ .middle).1 (moves.map .move)⟩

end Loops
end Convoy
