import Convoy.Proofs.Schedule.Origins

/-!
# Whose launch it is

A roster gives each live task the index of its group. A relaunch strikes the tasks of a group and
enrolls new ones, so tasks that were launched long ago are in earlier rosters only. Still no two
rosters of a run differ about a task, and whatever waits is the submitted group at one index, be its
tasks live or struck.
-/
namespace Convoy

/-- The rosters know tasks that were issued, and never differ about the owner of one. -/
structure Chronicle (mint : Mint) (rosters : List Roster) : Prop where
  issued : ∀ roster ∈ rosters, ∀ task index,
    roster.owner? task = some index → mint.Issued task
  constant : ∀ first ∈ rosters, ∀ second ∈ rosters, ∀ task index other,
    first.owner? task = some index → second.owner? task = some other → index = other

/-- In one of the rosters, all tasks of the group are owned by the index. -/
def TaskGroup.BelongsTo (group : TaskGroup) (rosters : List Roster) (index : Nat) : Prop :=
  ∃ roster ∈ rosters, ∀ task ∈ group.taskIds, roster.owner? task = some index

/-- The group belongs to the index and to no other one. -/
def TaskGroup.BelongsOnlyTo (group : TaskGroup) (rosters : List Roster) (index : Nat) : Prop :=
  ∀ other, group.BelongsTo rosters other ↔ other = index

theorem TaskGroup.BelongsTo.mono {group : TaskGroup} {rosters more : List Roster} {index : Nat}
    (belongs : group.BelongsTo rosters index) (within : rosters ⊆ more) :
    group.BelongsTo more index := by
  obtain ⟨roster, member, owned⟩ := belongs
  exact ⟨roster, within member, owned⟩

namespace Chronicle

variable {mint late : Mint} {rosters : List Roster}

theorem of_coherent {roster : Roster} (coherent : roster.Coherent mint) :
    Chronicle mint [roster] where
  issued := by
    intro first member task index owner
    cases List.mem_singleton.mp member
    exact coherent.issued_of_owner owner
  constant := by
    intro first member second among task index other owner owned
    cases List.mem_singleton.mp member
    cases List.mem_singleton.mp among
    exact Option.some.inj (owner.symm.trans owned)

/-- A next roster knows no task but those of the earlier ones and new ones of one group. -/
theorem append (chronicle : Chronicle mint rosters) {next : Roster} (fresh : Nat)
    (later : mint.issued ≤ late.issued)
    (known : ∀ task index, next.owner? task = some index →
      (∃ roster ∈ rosters, roster.owner? task = some index) ∨
        ¬ mint.Issued task ∧ late.Issued task ∧ index = fresh) :
    Chronicle late (rosters ++ [next]) := by
  have sources : ∀ roster ∈ rosters ++ [next], ∀ task index, roster.owner? task = some index →
      (∃ earlier ∈ rosters, earlier.owner? task = some index) ∨
        ¬ mint.Issued task ∧ late.Issued task ∧ index = fresh := by
    intro roster member task index owner
    rcases List.mem_append.mp member with earlier | last
    · exact .inl ⟨roster, earlier, owner⟩
    · cases List.mem_singleton.mp last
      exact known task index owner
  constructor
  case issued =>
    intro roster member task index owner
    rcases sources roster member task index owner with ⟨earlier, among, owned⟩ | ⟨-, issued, -⟩
    · exact (chronicle.issued earlier among task index owned).mono later
    · exact issued
  case constant =>
    intro first member second among task index other owner owned
    rcases sources first member task index owner with ⟨a, inA, ofA⟩ | ⟨new, -, here⟩ <;>
      rcases sources second among task other owned with ⟨b, inB, ofB⟩ | ⟨fresh, -, there⟩
    · exact chronicle.constant a inA b inB task index other ofA ofB
    · exact absurd (chronicle.issued a inA task index ofA) fresh
    · exact absurd (chronicle.issued b inB task other ofB) new
    · exact here.trans there.symm

/-- A group never belongs to two indexes. -/
theorem belongsOnlyTo (chronicle : Chronicle mint rosters) {group : TaskGroup} {index : Nat}
    (belongs : group.BelongsTo rosters index) : group.BelongsOnlyTo rosters index := by
  intro other
  constructor
  · rintro ⟨first, member, owned⟩
    obtain ⟨second, among, owner⟩ := belongs
    obtain ⟨task, present⟩ := List.exists_mem_of_ne_nil _ group.taskIds_ne_nil
    exact chronicle.constant first member second among task other index (owned task present)
      (owner task present)
  · rintro rfl
    exact belongs

end Chronicle

/-- The group is a submitted one under fresh identities, the one at the index that it belongs to. -/
def TaskGroup.Descends (submitted : List TaskGroup) (rosters : List Roster) (group : TaskGroup) :
    Prop :=
  ∃ index original, submitted[index]? = some original ∧ group.RenewalOf original ∧
    group.BelongsTo rosters index

theorem TaskGroup.Descends.mono {submitted : List TaskGroup} {rosters more : List Roster}
    {group : TaskGroup} (descends : group.Descends submitted rosters) (within : rosters ⊆ more) :
    group.Descends submitted more := by
  obtain ⟨index, original, given, renewal, belongs⟩ := descends
  exact ⟨index, original, given, renewal, belongs.mono within⟩

theorem Roster.Coherent.descends {roster : Roster} {mint : Mint} {submitted : List TaskGroup}
    {rosters : List Roster} {index : Nat} {tracked : Tracked} (coherent : roster.Coherent mint)
    (tracks : roster.Tracks submitted) (present : roster ∈ rosters)
    (found : roster.tracked[index]? = some tracked) :
    tracked.group.Descends submitted rosters := by
  have bound := (List.getElem?_eq_some_iff.mp found).1
  rw [tracks.size] at bound
  have given := List.getElem?_eq_getElem bound
  exact ⟨index, submitted[index], given, tracks.renewal index tracked _ found given, roster, present,
    fun task member => coherent.owner?_iff.mpr ⟨tracked, found, member⟩⟩

namespace Schedule

variable {schedule after : Schedule} {submitted : List TaskGroup} {rosters : List Roster}

/-- The rosters of the run up to now, and the submitted group behind whatever waits. -/
structure Lineage (submitted : List TaskGroup) (rosters : List Roster) (schedule : Schedule) :
    Prop where
  coherent : schedule.roster.Coherent schedule.mint
  tracks : schedule.roster.Tracks submitted
  present : schedule.roster ∈ rosters
  chronicle : Chronicle schedule.mint rosters
  queued : ∀ group ∈ schedule.queued, group.Descends submitted rosters

theorem lineage_start (submitted : List TaskGroup) (rules : Rules) (mint : Mint) :
    (start submitted rules mint).Lineage submitted [(start submitted rules mint).roster] := by
  let roster := (start submitted rules mint).roster
  have known := Course.known_start submitted rules mint
  have coherent : roster.Coherent (start submitted rules mint).mint := known.coherent
  have descend : ∀ group ∈ roster.groups, group.Descends submitted [roster] := by
    intro group member
    obtain ⟨tracked, listed, rfl⟩ := List.mem_map.mp member
    obtain ⟨index, found⟩ := List.mem_iff_getElem?.mp listed
    exact coherent.descends known.tracks (List.mem_singleton_self _) found
  refine ⟨coherent, known.tracks, List.mem_singleton_self _, .of_coherent coherent, ?_⟩
  simpa [roster, Schedule.start, queued, Queue.groups, Roster.groups] using descend

theorem Lineage.congr (lineage : schedule.Lineage submitted rosters)
    (queued : after.queued = schedule.queued) (roster : after.roster = schedule.roster)
    (mint : after.mint = schedule.mint) : after.Lineage submitted rosters := by
  obtain ⟨coherent, tracks, present, chronicle, descend⟩ := lineage
  constructor
  case coherent => rwa [roster, mint]
  case tracks => rwa [roster]
  case present => rwa [roster]
  case chronicle => rwa [mint]
  case queued => rwa [queued]

/-- No task changes its owner, and nothing new waits. -/
theorem Lineage.keep (lineage : schedule.Lineage submitted rosters)
    (coherent : after.roster.Coherent after.mint)
    (tracked : after.roster.tracked = schedule.roster.tracked)
    (owners : after.roster.owners = schedule.roster.owners) (mint : after.mint = schedule.mint)
    (queued : after.queued ⊆ schedule.queued) :
    after.Lineage submitted (rosters ++ [after.roster]) where
  coherent := coherent
  tracks := by
    refine ⟨tracked ▸ lineage.tracks.size, ?_⟩
    rw [tracked]
    exact lineage.tracks.renewal
  present := List.mem_append_right _ (List.mem_singleton_self _)
  chronicle := by
    refine lineage.chronicle.append 0 (by rw [mint]) fun task index owner => ?_
    rw [Roster.owner?, owners] at owner
    exact .inl ⟨schedule.roster, lineage.present, owner⟩
  queued group member := (lineage.queued group (queued member)).mono (List.subset_append_left _ _)

theorem Lineage.takes {new : List TaskGroup} (lineage : schedule.Lineage submitted rosters)
    (takes : Takes schedule after new) : after.Lineage submitted (rosters ++ [after.roster]) := by
  have coherent : after.roster.Coherent after.mint := by
    rw [takes.roster, takes.mint]
    exact lineage.coherent
  exact lineage.keep coherent (by rw [takes.roster]) (by rw [takes.roster]) takes.mint
    fun group member => takes.queued.subset (List.mem_append_left _ member)

/-- A report leaves the owners of tasks alone, or strikes the tasks of one group for new ones. -/
theorem Lineage.report (lineage : schedule.Lineage submitted rosters) (pause : Nat → Nat)
    (status : Status) :
    (schedule.applyWith pause status).1.Lineage submitted
      (rosters ++ [(schedule.applyWith pause status).1.roster]) := by
  have same := lineage.takes (.refl schedule)
  have applies := applies_applyWith schedule pause status
  generalize schedule.applyWith pause status = answer at applies
  cases applies with
  | @relaunched index tracked owner found restarts allowed answer requeues =>
      obtain ⟨roster, mint⟩ := roster_requeues requeues
      have here : answer.1.roster ∈ rosters ++ [answer.1.roster] :=
        List.mem_append_right _ (List.mem_singleton_self _)
      have coherent : answer.1.roster.Coherent answer.1.mint := by
        rw [roster, mint]
        exact lineage.coherent.relaunch found
      have tracks : answer.1.roster.Tracks submitted := by
        rw [roster]
        exact lineage.tracks.relaunch found schedule.mint
      refine ⟨coherent, tracks, here, ?_, ?_⟩
      · rw [roster, mint]
        refine lineage.chronicle.append index ?_ fun task other owned => ?_
        · rw [renewed, tracked.group.issued_renew]
          omega
        · rw [renewed, Roster.owner?_relaunch] at owned
          split at owned
          · rename_i new
            exact .inr ⟨tracked.group.not_issued_of_mem_renew _ new,
              tracked.group.issued_of_mem_renew _ new, (Option.some.inj owned).symm⟩
          · split at owned
            · contradiction
            · exact .inl ⟨schedule.roster, lineage.present, owned⟩
      · intro group member
        rcases List.mem_cons.mp ((subperm_requeues requeues).subset member) with rfl | earlier
        · exact coherent.descends tracks here (tracked_requeues found requeues)
        · exact (lineage.queued group earlier).mono (List.subset_append_left _ _)
  | recorded owner final sound =>
      exact lineage.keep (lineage.coherent.report owner status.state) rfl rfl rfl
        (List.Subset.refl _)
  | _ => exact same

theorem ready_subset_queued (schedule : Schedule) : schedule.ready ⊆ schedule.queued := by
  intro group member
  simp only [ready, queued, Queue.groups, List.mem_append] at member ⊢
  tauto

/-- An offer launches submitted groups, each of them because it fits on what the ones before it left. -/
theorem Lineage.matchOffer (lineage : schedule.Lineage submitted rosters) {offer : Offer}
    {framework : FrameworkId} {found : Match}
    (matched : (schedule.matchOffer offer framework).2 = .ok found) :
    ∃ launched, found.operations = launched.map (·.launchOn offer.agent framework) ∧
      Spends (Ledger.ofResources offer.resources) launched found.remaining ∧
      ∀ group ∈ launched, group.Descends submitted rosters := by
  obtain ⟨launched, operations, perm, spends⟩ := spends_matchOffer (Prod.ext rfl matched)
  refine ⟨launched, operations, spends, fun group member => ?_⟩
  exact lineage.queued group
    (schedule.ready_subset_queued (perm.symm.subset (List.mem_append_left _ member)))

end Schedule
end Convoy
