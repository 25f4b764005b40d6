import Convoy.Schedule.Roster
import Convoy.Proofs.Identity.Renewal
import Mathlib.Data.List.Perm.Basic

/-!
# Coherent rosters

A roster keeps two tables beside its groups. It is coherent when both have the present tasks of the
groups as their keys, no task twice, and the first sends a task to the group that it belongs to.
`Coherent.replace` is the one argument behind seeding and relaunching: the old tasks of one group are
struck and tasks that were never issued are enrolled in their place.
-/
namespace Convoy.Roster

open Data

variable {roster : Roster} {mint late : Mint} {index : Nat}

theorem get?_enroll (roster : Roster) (index : Nat) (tasks : List TaskId) (name : String) :
    (roster.enroll index tasks).owners.get? name =
        (if name ∈ tasks.map (·.text) then some index else roster.owners.get? name) ∧
      (roster.enroll index tasks).states.get? name =
        (if name ∈ tasks.map (·.text) then some .starting else roster.states.get? name) := by
  induction tasks generalizing roster with
  | nil => simp [enroll]
  | cons task rest ih =>
      rw [enroll, (ih _).1, (ih _).2]
      simp only [Table.get?_put, List.map_cons, List.mem_cons]
      by_cases later : name ∈ rest.map (·.text)
      · simp [later]
      · simp [later]

theorem get?_strike (roster : Roster) (tasks : List TaskId) (name : String) :
    (roster.strike tasks).owners.get? name =
        (if name ∈ tasks.map (·.text) then none else roster.owners.get? name) ∧
      (roster.strike tasks).states.get? name =
        (if name ∈ tasks.map (·.text) then none else roster.states.get? name) := by
  induction tasks generalizing roster with
  | nil => simp [strike]
  | cons task rest ih =>
      rw [strike, (ih _).1, (ih _).2]
      simp only [Table.get?_erase, List.map_cons, List.mem_cons]
      by_cases later : name ∈ rest.map (·.text)
      · simp [later]
      · simp [later]

theorem tracked_enroll (roster : Roster) (index : Nat) (tasks : List TaskId) :
    (roster.enroll index tasks).tracked = roster.tracked := by
  induction tasks generalizing roster with
  | nil => rfl
  | cons task rest ih => rw [enroll, ih]

theorem tracked_strike (roster : Roster) (tasks : List TaskId) :
    (roster.strike tasks).tracked = roster.tracked := by
  induction tasks generalizing roster with
  | nil => rfl
  | cons task rest ih => rw [strike, ih]

theorem mem_map_text {tasks : List TaskId} {task : TaskId} :
    task.text ∈ tasks.map (·.text) ↔ task ∈ tasks := by
  constructor
  · intro member
    obtain ⟨other, found, same⟩ := List.mem_map.mp member
    rwa [← Identifier.ext_text same]
  · exact List.mem_map_of_mem

/-- The roster in which the group at an index gave way to another one: the old tasks are struck and
the new ones enrolled. -/
def replace (roster : Roster) (index : Nat) (old : List TaskId) (tracked : List Tracked)
    (new : List TaskId) : Roster :=
  { roster.strike old with tracked := tracked }.enroll index new

theorem owners_replace (old new : List TaskId) (tracked : List Tracked) (name : String) :
    (roster.replace index old tracked new).owners.get? name =
      if name ∈ new.map (·.text) then some index
      else if name ∈ old.map (·.text) then none
      else roster.owners.get? name := by
  rw [replace, (get?_enroll ..).1, (get?_strike ..).1]

theorem states_replace (old new : List TaskId) (tracked : List Tracked) (name : String) :
    (roster.replace index old tracked new).states.get? name =
      if name ∈ new.map (·.text) then some .starting
      else if name ∈ old.map (·.text) then none
      else roster.states.get? name := by
  rw [replace, (get?_enroll ..).2, (get?_strike ..).2]

theorem tracked_replace (old new : List TaskId) (tracked : List Tracked) :
    (roster.replace index old tracked new).tracked = tracked := by
  rw [replace, tracked_enroll]

theorem relaunch_eq (roster : Roster) (index : Nat) (old : Tracked) (mint : Mint) :
    roster.relaunch index old mint =
      ({ group := (old.group.renew mint).1, restarts := old.restarts + 1 },
        roster.replace index old.group.taskIds
          (roster.tracked.set index
            { group := (old.group.renew mint).1, restarts := old.restarts + 1 })
          (old.group.renew mint).1.taskIds,
        (old.group.renew mint).2) := by
  simp only [relaunch, replace, tracked_strike]

theorem tracked_relaunch (roster : Roster) (index : Nat) (old : Tracked) (mint : Mint) :
    (roster.relaunch index old mint).2.1.tracked =
      roster.tracked.set index
        { group := (old.group.renew mint).1, restarts := old.restarts + 1 } := by
  rw [relaunch_eq, tracked_replace]

theorem tracked_relaunch_self {old : Tracked} (found : roster.tracked[index]? = some old)
    (mint : Mint) :
    (roster.relaunch index old mint).2.1.tracked[index]? =
      some { group := (old.group.renew mint).1, restarts := old.restarts + 1 } := by
  rw [tracked_relaunch, List.getElem?_set_self (List.getElem?_eq_some_iff.mp found).1]

theorem tracked_relaunch_other {other : Nat} (different : other ≠ index) (old : Tracked)
    (mint : Mint) :
    (roster.relaunch index old mint).2.1.tracked[other]? = roster.tracked[other]? := by
  rw [tracked_relaunch, List.getElem?_set_ne different.symm]

theorem owner?_relaunch (roster : Roster) (index : Nat) (old : Tracked) (mint : Mint)
    (task : TaskId) :
    (roster.relaunch index old mint).2.1.owner? task =
      if task ∈ (old.group.renew mint).1.taskIds then some index
      else if task ∈ old.group.taskIds then none
      else roster.owner? task := by
  rw [relaunch_eq]
  show Table.get? _ task.text = _
  simp only [owners_replace, mem_map_text]
  rfl

theorem state?_relaunch (roster : Roster) (index : Nat) (old : Tracked) (mint : Mint)
    (task : TaskId) :
    (roster.relaunch index old mint).2.1.state? task =
      if task ∈ (old.group.renew mint).1.taskIds then some .starting
      else if task ∈ old.group.taskIds then none
      else roster.state? task := by
  rw [relaunch_eq]
  show Table.get? _ task.text = _
  simp only [states_replace, mem_map_text]
  rfl

theorem addAll_cons (roster : Roster) (group : TaskGroup) (rest : List TaskGroup) (mint : Mint) :
    roster.addAll (group :: rest) mint =
      (roster.replace roster.tracked.length []
        (roster.tracked ++ [{ group := (group.renew mint).1 }])
        (group.renew mint).1.taskIds).addAll rest (group.renew mint).2 :=
  rfl

/-- Owners and states have the present tasks of the groups as keys, each task once, and every task is
owned by the index of its group. All these tasks come from the mint. -/
structure Coherent (roster : Roster) (mint : Mint) : Prop where
  owned : ∀ name index, roster.owners.get? name = some index ↔
    ∃ tracked, roster.tracked[index]? = some tracked ∧
      name ∈ tracked.group.taskIds.map (·.text)
  watched : ∀ name, (roster.states.get? name).isSome = (roster.owners.get? name).isSome
  distinct : ∀ tracked ∈ roster.tracked, tracked.group.taskIds.Nodup
  issued : ∀ tracked ∈ roster.tracked, ∀ task ∈ tracked.group.taskIds, mint.Issued task

namespace Coherent

theorem owner?_iff (coherent : roster.Coherent mint) {task : TaskId} :
    roster.owner? task = some index ↔
      ∃ tracked, roster.tracked[index]? = some tracked ∧ task ∈ tracked.group.taskIds := by
  simp only [owner?, coherent.owned, mem_map_text]

theorem issued_of_owner (coherent : roster.Coherent mint) {task : TaskId}
    (live : roster.owner? task = some index) : mint.Issued task := by
  obtain ⟨tracked, found, member⟩ := coherent.owner?_iff.mp live
  exact coherent.issued tracked (List.mem_of_getElem? found) task member

theorem mono (coherent : roster.Coherent mint) (later : mint.issued ≤ late.issued) :
    roster.Coherent late :=
  { coherent with
    issued := fun tracked member task present =>
      (coherent.issued tracked member task present).mono later }

/-- Two groups that share a task stand at one index. -/
theorem index_unique (coherent : roster.Coherent mint) {first second : Nat} {a b : Tracked}
    {task : TaskId} (atFirst : roster.tracked[first]? = some a)
    (atSecond : roster.tracked[second]? = some b) (inFirst : task ∈ a.group.taskIds)
    (inSecond : task ∈ b.group.taskIds) : first = second := by
  have owner := coherent.owner?_iff.mpr ⟨a, atFirst, inFirst⟩
  rw [coherent.owner?_iff.mpr ⟨b, atSecond, inSecond⟩] at owner
  exact (Option.some.inj owner).symm

theorem empty (mint : Mint) : ({} : Roster).Coherent mint where
  owned := by simp
  watched := by simp
  distinct := by simp
  issued := by simp

/-- After a group gave way at an index, a name is owned by the index of the group that has it. -/
theorem owned_replace {old : List TaskId} {next : Tracked} {tracked : List Tracked}
    (coherent : roster.Coherent mint)
    (before : ∀ name, roster.owners.get? name = some index ↔ name ∈ old.map (·.text))
    (here : tracked[index]? = some next)
    (elsewhere : ∀ other, other ≠ index → tracked[other]? = roster.tracked[other]?)
    (fresh : ∀ task ∈ next.group.taskIds, ¬ mint.Issued task) (name : String) (other : Nat) :
    (roster.replace index old tracked next.group.taskIds).owners.get? name = some other ↔
      ∃ known, tracked[other]? = some known ∧ name ∈ known.group.taskIds.map (·.text) := by
  rw [owners_replace]
  by_cases new : name ∈ next.group.taskIds.map (·.text)
  · rw [if_pos new, Option.some.injEq]
    constructor
    · rintro rfl
      exact ⟨next, here, new⟩
    · rintro ⟨known, found, member⟩
      refine Decidable.byContradiction fun different => ?_
      rw [elsewhere other (Ne.symm different)] at found
      -- A task enrolled just now would belong to a group that was there before.
      obtain ⟨task, inKnown, rfl⟩ := List.mem_map.mp member
      exact fresh task (mem_map_text.mp new)
        (coherent.issued known (List.mem_of_getElem? found) task inKnown)
  · rw [if_neg new]
    by_cases same : other = index
    · subst other
      have absent : ¬ ∃ known, tracked[index]? = some known ∧
          name ∈ known.group.taskIds.map (·.text) := by
        rintro ⟨known, found, member⟩
        rw [here, Option.some.injEq] at found
        subst known
        exact new member
      simp only [absent, iff_false]
      by_cases struck : name ∈ old.map (·.text)
      · simp [struck]
      · rw [if_neg struck, before name]
        exact struck
    · rw [elsewhere other same, ← coherent.owned name other]
      by_cases struck : name ∈ old.map (·.text)
      · have owner := (before name).mpr struck
        simp [struck, owner, Ne.symm same]
      · rw [if_neg struck]

theorem replace {old : List TaskId} {next : Tracked} {tracked : List Tracked}
    (coherent : roster.Coherent mint)
    (before : ∀ name, roster.owners.get? name = some index ↔ name ∈ old.map (·.text))
    (here : tracked[index]? = some next)
    (elsewhere : ∀ other, other ≠ index → tracked[other]? = roster.tracked[other]?)
    (fresh : ∀ task ∈ next.group.taskIds, ¬ mint.Issued task)
    (issued : ∀ task ∈ next.group.taskIds, late.Issued task)
    (nodup : next.group.taskIds.Nodup) (later : mint.issued ≤ late.issued) :
    (roster.replace index old tracked next.group.taskIds).Coherent late := by
  have members : ∀ known ∈ tracked, known = next ∨ known ∈ roster.tracked := by
    intro known member
    obtain ⟨other, found⟩ := List.mem_iff_getElem?.mp member
    by_cases same : other = index
    · left
      subst other
      exact Option.some.inj (found.symm.trans here)
    · right
      rw [elsewhere other same] at found
      exact List.mem_of_getElem? found
  constructor
  case owned =>
    intro name other
    rw [tracked_replace]
    exact coherent.owned_replace before here elsewhere fresh name other
  case watched =>
    intro name
    rw [owners_replace, states_replace]
    split
    · rfl
    · split
      · rfl
      · exact coherent.watched name
  case distinct =>
    rw [tracked_replace]
    intro known member
    rcases members known member with rfl | earlier
    · exact nodup
    · exact coherent.distinct known earlier
  case issued =>
    rw [tracked_replace]
    intro known member task present
    rcases members known member with rfl | earlier
    · exact issued task present
    · exact (coherent.issued known earlier task present).mono later

/-- The tasks of the group at an index are the names that the index owns. -/
theorem owned_here (coherent : roster.Coherent mint) {tracked : Tracked}
    (found : roster.tracked[index]? = some tracked) (name : String) :
    roster.owners.get? name = some index ↔ name ∈ tracked.group.taskIds.map (·.text) := by
  rw [coherent.owned name index, found]
  simp

theorem relaunch (coherent : roster.Coherent mint) {old : Tracked}
    (found : roster.tracked[index]? = some old) :
    (roster.relaunch index old mint).2.1.Coherent (old.group.renew mint).2 := by
  have bound := (List.getElem?_eq_some_iff.mp found).1
  let next : Tracked := { group := (old.group.renew mint).1, restarts := old.restarts + 1 }
  have here : (roster.tracked.set index next)[index]? = some next := by simp [bound]
  rw [relaunch_eq]
  refine coherent.replace (coherent.owned_here found) here ?_
    (fun _ => old.group.not_issued_of_mem_renew mint) (fun _ => old.group.issued_of_mem_renew mint)
    (old.group.nodup_taskIds_renew mint) ?_
  · intro other different
    rw [List.getElem?_set_ne (Ne.symm different)]
  · rw [old.group.issued_renew]
    omega

theorem addAll (coherent : roster.Coherent mint) (groups : List TaskGroup) :
    (roster.addAll groups mint).1.Coherent (roster.addAll groups mint).2 := by
  induction groups generalizing roster mint with
  | nil => exact coherent
  | cons group rest ih =>
      rw [addAll_cons]
      have none : ∀ name, roster.owners.get? name = some roster.tracked.length ↔
          name ∈ ([] : List TaskId).map (·.text) := by
        intro name
        simp [coherent.owned name]
      let next : Tracked := { group := (group.renew mint).1 }
      have here : (roster.tracked ++ [next])[roster.tracked.length]? = some next := by simp
      refine ih (coherent.replace none here ?_
        (fun _ => group.not_issued_of_mem_renew mint) (fun _ => group.issued_of_mem_renew mint)
        (group.nodup_taskIds_renew mint) ?_)
      · intro other different
        rcases Nat.lt_or_gt_of_ne different with before | beyond
        · rw [List.getElem?_append_left before]
        · rw [List.getElem?_eq_none (by simp; omega), List.getElem?_eq_none (by omega)]
      · rw [group.issued_renew]
        omega

theorem report (coherent : roster.Coherent mint) {task : TaskId}
    (live : roster.owner? task = some index) (state : TaskState) :
    (roster.report task state).Coherent mint := by
  refine { coherent with watched := fun name => ?_ }
  show ((roster.states.put task.text state).get? name).isSome = _
  rw [Table.get?_put]
  split
  · rename_i same
    subst name
    show true = (roster.owner? task).isSome
    rw [live, Option.isSome_some]
  · exact coherent.watched name

theorem state?_isSome (coherent : roster.Coherent mint) (task : TaskId) :
    (roster.state? task).isSome = (roster.owner? task).isSome :=
  coherent.watched task.text

end Coherent

/-- The groups under their present identities. -/
def groups (roster : Roster) : List TaskGroup :=
  roster.tracked.map (·.group)

namespace Coherent

theorem live_of_mem (coherent : roster.Coherent mint) {group : TaskGroup}
    (member : group ∈ roster.groups) {task : TaskId} (present : task ∈ group.taskIds) :
    (roster.owner? task).isSome := by
  obtain ⟨tracked, there, rfl⟩ := List.mem_map.mp member
  obtain ⟨index, found⟩ := List.mem_iff_getElem?.mp there
  rw [coherent.owner?_iff.mpr ⟨tracked, found, present⟩, Option.isSome_some]

theorem group_unique (coherent : roster.Coherent mint) {first second : TaskGroup} {task : TaskId}
    (inFirst : first ∈ roster.groups) (inSecond : second ∈ roster.groups)
    (ofFirst : task ∈ first.taskIds) (ofSecond : task ∈ second.taskIds) : first = second := by
  obtain ⟨a, thereFirst, rfl⟩ := List.mem_map.mp inFirst
  obtain ⟨b, thereSecond, rfl⟩ := List.mem_map.mp inSecond
  obtain ⟨i, atFirst⟩ := List.mem_iff_getElem?.mp thereFirst
  obtain ⟨j, atSecond⟩ := List.mem_iff_getElem?.mp thereSecond
  have same := coherent.index_unique atFirst atSecond ofFirst ofSecond
  subst j
  rw [atFirst, Option.some.injEq] at atSecond
  rw [atSecond]

theorem nodup_groups (coherent : roster.Coherent mint) : roster.groups.Nodup := by
  rw [groups, List.Nodup, List.pairwise_map, List.pairwise_iff_getElem]
  intro first second firstBound secondBound before same
  obtain ⟨task, present⟩ := List.exists_mem_of_ne_nil _
    (roster.tracked[first].group.taskIds_ne_nil)
  have equal := coherent.index_unique (List.getElem?_eq_getElem firstBound)
    (List.getElem?_eq_getElem secondBound) present (same ▸ present)
  omega

theorem struck_relaunch {old : Tracked} (coherent : roster.Coherent mint)
    (found : roster.tracked[index]? = some old) {task : TaskId} (present : task ∈ old.group.taskIds) :
    (roster.relaunch index old mint).2.1.owner? task = none := by
  have issued := coherent.issued old (List.mem_of_getElem? found) task present
  rw [owner?_relaunch, if_neg, if_pos present]
  exact fun new => old.group.not_issued_of_mem_renew mint new issued

end Coherent

theorem groups_relaunch {old : Tracked} (found : roster.tracked[index]? = some old) (mint : Mint) :
    ∃ others, roster.groups.Perm (old.group :: others) ∧
      (roster.relaunch index old mint).2.1.groups.Perm ((old.group.renew mint).1 :: others) := by
  obtain ⟨bound, rfl⟩ := List.getElem?_eq_some_iff.mp found
  refine ⟨(roster.tracked.eraseIdx index).map (·.group), ?_, ?_⟩
  · exact (List.getElem_cons_eraseIdx_perm bound).symm.map (·.group)
  · rw [groups, tracked_relaunch]
    exact (List.set_perm_cons_eraseIdx bound _).map (·.group)

/-- Every task of the group reported last that it finished. -/
def Done (roster : Roster) (tracked : Tracked) : Prop :=
  ∀ task ∈ tracked.group.taskIds, roster.state? task = some .finished

theorem groupFinished_iff {tracked : Tracked} (found : roster.tracked[index]? = some tracked) :
    roster.groupFinished index = true ↔ roster.Done tracked := by
  simp only [groupFinished, found, List.all_eq_true, beq_iff_eq, Done]

theorem finished_iff (coherent : roster.Coherent mint) :
    roster.finished = true ↔ ∀ tracked ∈ roster.tracked, roster.Done tracked := by
  simp only [finished, List.all_eq_true, beq_iff_eq, Prod.forall, Table.mem_entries_iff]
  constructor
  · intro all tracked member task present
    obtain ⟨index, found⟩ := List.mem_iff_getElem?.mp member
    have live := coherent.owner?_iff.mpr ⟨tracked, found, present⟩
    have known := coherent.state?_isSome task
    rw [live, Option.isSome_some, Option.isSome_iff_exists] at known
    obtain ⟨state, found⟩ := known
    rw [found, all task.text state found]
  · intro done name state found
    have known := coherent.watched name
    rw [found, Option.isSome_some, eq_comm, Option.isSome_iff_exists] at known
    obtain ⟨index, owner⟩ := known
    obtain ⟨tracked, there, member⟩ := (coherent.owned name index).mp owner
    obtain ⟨task, present, rfl⟩ := List.mem_map.mp member
    have finished := done tracked (List.mem_of_getElem? there) task present
    exact Option.some.inj (found.symm.trans finished)

theorem state?_report (roster : Roster) (task other : TaskId) (state : TaskState) :
    (roster.report task state).state? other =
      if other = task then some state else roster.state? other := by
  show (roster.states.put task.text state).get? other.text = _
  rw [Table.get?_put]
  by_cases same : other = task
  · simp [same]
  · rw [if_neg fun equal => same (Identifier.ext_text equal), if_neg same]
    rfl

namespace Coherent

/-- A relaunch leaves the states of all tasks but the old ones alone. -/
theorem state?_relaunch_of_live {old : Tracked} (coherent : roster.Coherent mint)
    {task : TaskId} (live : (roster.owner? task).isSome) (other : task ∉ old.group.taskIds) :
    (roster.relaunch index old mint).2.1.state? task = roster.state? task := by
  obtain ⟨owner, owned⟩ := Option.isSome_iff_exists.mp live
  rw [state?_relaunch, if_neg, if_neg other]
  intro new
  exact old.group.not_issued_of_mem_renew mint new (coherent.issued_of_owner owned)

theorem done_report {tracked : Tracked} {other : Nat} {task : TaskId}
    (coherent : roster.Coherent mint) (owner : roster.owner? task = some index)
    (found : roster.tracked[other]? = some tracked) (different : other ≠ index)
    (state : TaskState) : (roster.report task state).Done tracked ↔ roster.Done tracked := by
  refine forall_congr' fun member => forall_congr' fun present => ?_
  rw [state?_report, if_neg]
  rintro rfl
  rw [coherent.owner?_iff.mpr ⟨tracked, found, present⟩, Option.some.injEq] at owner
  exact different owner

theorem done_relaunch {old tracked : Tracked} {other : Nat} (coherent : roster.Coherent mint)
    (here : roster.tracked[index]? = some old) (found : roster.tracked[other]? = some tracked)
    (different : other ≠ index) :
    (roster.relaunch index old mint).2.1.Done tracked ↔ roster.Done tracked := by
  refine forall_congr' fun task => forall_congr' fun present => ?_
  have owner := coherent.owner?_iff.mpr ⟨tracked, found, present⟩
  rw [coherent.state?_relaunch_of_live (by rw [owner, Option.isSome_some])]
  intro struck
  exact different (coherent.index_unique found here present struck)

end Coherent

theorem not_done_of_starting {tracked : Tracked}
    (starting : ∀ task ∈ tracked.group.taskIds, roster.state? task = some .starting) :
    ¬ roster.Done tracked := by
  intro done
  obtain ⟨task, member⟩ := List.exists_mem_of_ne_nil _ tracked.group.taskIds_ne_nil
  have finished := done task member
  rw [starting task member] at finished
  contradiction

theorem starting_addAll (roster : Roster) (groups : List TaskGroup) (mint : Mint)
    (starting : ∀ name state, roster.states.get? name = some state → state = .starting) :
    ∀ name state, (roster.addAll groups mint).1.states.get? name = some state →
      state = .starting := by
  induction groups generalizing roster mint with
  | nil => exact starting
  | cons group rest ih =>
      rw [addAll_cons]
      refine ih _ (group.renew mint).2 fun name state found => ?_
      rw [states_replace] at found
      split at found
      · exact (Option.some.inj found).symm
      · exact starting name state (by simpa using found)

theorem restarts_addAll (roster : Roster) (groups : List TaskGroup) (mint : Mint)
    (fresh : ∀ tracked ∈ roster.tracked, tracked.restarts = 0) :
    ∀ tracked ∈ (roster.addAll groups mint).1.tracked, tracked.restarts = 0 := by
  induction groups generalizing roster mint with
  | nil => exact fresh
  | cons group rest ih =>
      rw [addAll_cons]
      refine ih _ (group.renew mint).2 fun tracked member => ?_
      rw [tracked_replace] at member
      rcases List.mem_append.mp member with before | new
      · exact fresh tracked before
      · rw [List.mem_singleton.mp new]

/-- The roster tracks the submitted groups, in their order and under fresh identities. -/
structure Tracks (roster : Roster) (groups : List TaskGroup) : Prop where
  size : roster.tracked.length = groups.length
  renewal : ∀ (index : Nat) (tracked : Tracked) (group : TaskGroup),
    roster.tracked[index]? = some tracked →
    groups[index]? = some group → tracked.group.RenewalOf group

theorem Tracks.add {known : List TaskGroup} (tracks : roster.Tracks known) (group : TaskGroup)
    (mint : Mint) :
    (roster.replace roster.tracked.length []
      (roster.tracked ++ [{ group := (group.renew mint).1 }])
      (group.renew mint).1.taskIds).Tracks (known ++ [group]) := by
  refine ⟨by simp [tracked_replace, tracks.size], ?_⟩
  intro index tracked submitted found given
  rw [tracked_replace] at found
  by_cases early : index < known.length
  · rw [List.getElem?_append_left (by rw [tracks.size]; exact early)] at found
    rw [List.getElem?_append_left early] at given
    exact tracks.renewal index tracked submitted found given
  · rw [List.getElem?_append_right (by rw [tracks.size]; omega), tracks.size] at found
    rw [List.getElem?_append_right (by omega)] at given
    cases last : index - known.length with
    | zero =>
        simp only [last, List.getElem?_cons_zero, Option.some.injEq] at found given
        subst tracked submitted
        exact ⟨mint, rfl⟩
    | succ beyond => simp [last] at found

theorem Tracks.addAll {known : List TaskGroup} (tracks : roster.Tracks known)
    (groups : List TaskGroup) (mint : Mint) :
    (roster.addAll groups mint).1.Tracks (known ++ groups) := by
  induction groups generalizing roster mint known with
  | nil => simpa [Roster.addAll] using tracks
  | cons group rest ih =>
      rw [addAll_cons, List.append_cons known]
      exact ih (tracks.add group mint) (group.renew mint).2

theorem Tracks.relaunch {groups : List TaskGroup} {old : Tracked} (tracks : roster.Tracks groups)
    (found : roster.tracked[index]? = some old) (mint : Mint) :
    (roster.relaunch index old mint).2.1.Tracks groups := by
  refine ⟨by simp [tracked_relaunch, tracks.size], ?_⟩
  intro other tracked group there given
  by_cases same : other = index
  · subst other
    rw [tracked_relaunch_self found, Option.some.injEq] at there
    subst tracked
    exact (tracks.renewal index old group found given).renew mint
  · rw [tracked_relaunch_other same] at there
    exact tracks.renewal other tracked group there given

end Convoy.Roster
