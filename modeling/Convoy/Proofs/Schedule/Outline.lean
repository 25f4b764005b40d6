import Convoy.Proofs.Identity.Restamping
import Convoy.Proofs.Schedule.Budget
import Mathlib.Data.Multiset.MapFold

/-!
# Reports in another order

Relaunches number their tasks as they come, so a report is addressed here by what no order changes:
the index of the group, the attempt, and the position of the task. The outline of a schedule is all
that such reports read and write, with the groups of the queue in no order. On it reports on two
groups commute but for the stamps that they take, and all interleavings of the reports on each
group come to the same.
-/
namespace Convoy

open Equiv (Perm)

/-- A report addressed by the place of its task; which task the status names does not matter. -/
structure News where
  index : Nat
  attempt : Nat
  position : Nat
  status : Status

/-- The reports on each group are the same and come in the same order. -/
def SameStreams (reports others : List News) : Prop :=
  ∀ index, reports.filter (·.index = index) = others.filter (·.index = index)

namespace SameStreams

variable {news next : News} {rest others : List News}

theorem eq_nil (same : SameStreams [] others) : others = [] := by
  refine List.eq_nil_iff_forall_not_mem.mpr fun news member => ?_
  have empty := List.filter_eq_nil_iff.mp (same news.index).symm news member
  simp at empty

/-- The first report comes in the other list too, after reports on other groups. -/
theorem split (same : SameStreams (news :: rest) others) :
    ∃ before behind, others = before ++ news :: behind ∧
      (∀ other ∈ before, other.index ≠ news.index) ∧ SameStreams rest (before ++ behind) := by
  have first := (same news.index).symm
  rw [List.filter_cons_of_pos (by simp)] at first
  obtain ⟨before, behind, rfl, different, -, later⟩ := List.filter_eq_cons_iff.mp first
  refine ⟨before, behind, rfl, fun other member => by simpa using different other member, ?_⟩
  intro index
  by_cases here : news.index = index
  · subst index
    have none := List.filter_eq_nil_iff.mpr different
    rw [List.filter_append, none, later, List.nil_append]
  · have stream := same index
    rw [List.filter_cons_of_neg (by simpa using here), List.filter_append,
      List.filter_cons_of_neg (by simpa using here)] at stream
    rw [stream, List.filter_append]

theorem pair (different : news.index ≠ next.index) : SameStreams [news, next] [next, news] := by
  intro index
  by_cases here : news.index = index
  · simp [here, show next.index ≠ index from here ▸ different.symm]
  · simp [List.filter_cons, here]

end SameStreams

/-- A group under its present identities, and the states of its tasks in their order. -/
structure Station where
  group : TaskGroup
  restarts : Nat
  states : List (Option TaskState)

/-- What becomes of a group by a report. -/
inductive Reaction where
  | refused
  | again
  | noted (states : List (Option TaskState))

namespace Station

/-- News of another attempt, or of a task that the group does not have, change nothing. -/
def reaction (station : Station) (rules : Rules) (news : News) : Reaction :=
  if station.restarts = news.attempt ∧ news.position < station.states.length then
    if rules.restart.restarts news.status.state.outcome then
      if rules.grants station.restarts then .again else .refused
    else if news.status.state.outcome = .failed then .refused
    else .noted (station.states.set news.position (some news.status.state))
  else .noted station.states

def relaunched (station : Station) (group : TaskGroup) : Station where
  group := group
  restarts := station.restarts + 1
  states := station.states.map fun _ => some .starting

noncomputable def restamp (stamps : Perm Nat) (station : Station) : Station :=
  { station with group := station.group.restamp stamps }

end Station

structure Outline where
  rules : Rules
  mint : Mint
  stations : List Station
  pending : Multiset TaskGroup
  load : Nat
  capacity : Nat
  relaunched : Queue
  held : Option TaskGroup
  delayed : List Delayed

namespace Outline

variable {outline middle after other : Outline} {index : Nat} {station : Station} {news next : News}
  {early : Mint} {stamps : Perm Nat}

def put (outline : Outline) (index : Nat) (station : Station) : Outline :=
  { outline with stations := outline.stations.set index station }

def relaunch (outline : Outline) (index : Nat) (station : Station) : Outline :=
  let renewed := station.group.renew outline.mint
  { outline with
    mint := renewed.2
    stations := outline.stations.set index (station.relaunched renewed.1)
    pending := renewed.1 ::ₘ outline.pending
    load := outline.load + 1 }

/-- The outline after news that are not refused. -/
def hear? (outline : Outline) (news : News) : Option Outline :=
  match outline.stations[news.index]? with
  | none => some outline
  | some station =>
    match station.reaction outline.rules news with
    | .refused => none
    | .noted states => some (outline.put news.index { station with states := states })
    | .again =>
      if outline.load < outline.capacity then some (outline.relaunch news.index station) else none

def hearAll? (outline : Outline) (reports : List News) : Option Outline :=
  reports.foldlM hear? outline

/-- The ways in which news can be taken in. -/
inductive Hears (outline : Outline) (news : News) : Outline → Prop where
  | unknown (absent : outline.stations[news.index]? = none) : Hears outline news outline
  | noted {station : Station} {states : List (Option TaskState)}
      (found : outline.stations[news.index]? = some station)
      (reaction : station.reaction outline.rules news = .noted states) :
      Hears outline news (outline.put news.index { station with states := states })
  | again {station : Station} (found : outline.stations[news.index]? = some station)
      (reaction : station.reaction outline.rules news = .again)
      (room : outline.load < outline.capacity) :
      Hears outline news (outline.relaunch news.index station)

theorem hear?_eq_some : outline.hear? news = some after ↔ Hears outline news after := by
  constructor
  · intro heard
    unfold hear? at heard
    split at heard
    · rename_i absent
      cases heard
      exact .unknown absent
    · rename_i station found
      split at heard
      · contradiction
      · rename_i reaction
        cases heard
        exact .noted found reaction
      · rename_i reaction
        split at heard
        · rename_i room
          cases heard
          exact .again found reaction room
        · contradiction
  · intro hears
    unfold hear?
    cases hears with
    | unknown absent => rw [absent]
    | noted found reaction => simp only [found, reaction]
    | again found reaction room => simp only [found, reaction, if_pos room]

theorem hear?_of_refused (found : outline.stations[news.index]? = some station)
    (reaction : station.reaction outline.rules news = .refused) : outline.hear? news = none := by
  simp only [hear?, found, reaction]

theorem hear?_of_full (found : outline.stations[news.index]? = some station)
    (reaction : station.reaction outline.rules news = .again)
    (full : ¬ outline.load < outline.capacity) : outline.hear? news = none := by
  simp only [hear?, found, reaction, if_neg full]

theorem hearAll?_cons {rest : List News} : outline.hearAll? (news :: rest) = some after ↔
    ∃ middle, Hears outline news middle ∧ middle.hearAll? rest = some after := by
  simp only [hearAll?, List.foldlM_cons, Option.bind_eq_bind, Option.bind_eq_some_iff,
    hear?_eq_some]

theorem hearAll?_append {reports rest : List News} :
    outline.hearAll? (reports ++ rest) = some after ↔
      ∃ middle, outline.hearAll? reports = some middle ∧ middle.hearAll? rest = some after := by
  simp only [hearAll?, List.foldlM_append, Option.bind_eq_bind, Option.bind_eq_some_iff]

theorem Hears.elsewhere (hears : Hears outline news after) (different : index ≠ news.index) :
    after.stations[index]? = outline.stations[index]? := by
  cases hears with
  | unknown absent => rfl
  | noted found reaction => exact List.getElem?_set_ne different.symm
  | again found reaction room => exact List.getElem?_set_ne different.symm

theorem Hears.later (hears : Hears outline news after) :
    outline.mint.issued ≤ after.mint.issued := by
  cases hears with
  | unknown absent => exact Nat.le_refl _
  | noted found reaction => exact Nat.le_refl _
  | @again station found reaction room =>
      rw [relaunch, station.group.issued_renew]
      omega

noncomputable def restamp (stamps : Perm Nat) (outline : Outline) : Outline :=
  { outline with
    stations := outline.stations.map (Station.restamp stamps)
    pending := outline.pending.map (TaskGroup.restamp stamps) }

theorem restamp_one (outline : Outline) : outline.restamp 1 = outline := by
  have groups : TaskGroup.restamp 1 = id := funext TaskGroup.restamp_one
  have stations : Station.restamp 1 = id := by
    funext station
    rw [Station.restamp, groups]
    rfl
  rw [restamp, stations, groups, List.map_id, Multiset.map_id]

theorem restamp_mul (outline : Outline) (stamps others : Perm Nat) :
    outline.restamp (others * stamps) = (outline.restamp stamps).restamp others := by
  have groups : TaskGroup.restamp (others * stamps) =
      TaskGroup.restamp others ∘ TaskGroup.restamp stamps :=
    funext fun group => group.restamp_mul stamps others
  have stations : Station.restamp (others * stamps) =
      Station.restamp others ∘ Station.restamp stamps := by
    funext station
    rw [Station.restamp, groups]
    rfl
  simp only [restamp, stations, groups, List.map_map, Multiset.map_map]

theorem restamp_put (outline : Outline) (index : Nat) (station : Station) :
    (outline.put index station).restamp stamps =
      (outline.restamp stamps).put index (station.restamp stamps) := by
  simp only [restamp, put, List.map_set]

theorem restamp_relaunch (moves : MovesBetween early outline.mint stamps) (index : Nat)
    (station : Station) : (outline.relaunch index station).restamp stamps =
      (outline.restamp stamps).relaunch index (station.restamp stamps) := by
  have fresh : (station.group.renew outline.mint).1.restamp stamps =
      (station.group.renew outline.mint).1 :=
    TaskGroup.restamp_renew fun k _ => moves.of_le (Nat.le_add_right _ _)
  have renewed := station.group.renew_restamp stamps outline.mint
  simp only [restamp, relaunch, Station.restamp, Station.relaunched, renewed, List.map_set,
    Multiset.map_cons, fresh]

theorem Hears.restamp (hears : Hears outline news after)
    (moves : MovesBetween early outline.mint stamps) :
    Hears (outline.restamp stamps) news (after.restamp stamps) := by
  have at_index (index : Nat) : (outline.restamp stamps).stations[index]? =
      outline.stations[index]?.map (Station.restamp stamps) := List.getElem?_map
  cases hears with
  | unknown absent => exact .unknown (by rw [at_index, absent, Option.map_none])
  | @noted station states found reaction =>
      rw [restamp_put]
      have known : (outline.restamp stamps).stations[news.index]? =
          some (station.restamp stamps) := by rw [at_index, found, Option.map_some]
      exact .noted known reaction
  | @again station found reaction room =>
      rw [restamp_relaunch moves]
      exact .again (by rw [at_index, found, Option.map_some]) reaction room

/-- The second outline is the first one but for stamps that were handed out since an early mint. -/
def Alike (early : Mint) (first second : Outline) : Prop :=
  ∃ stamps, MovesBetween early first.mint stamps ∧ second = first.restamp stamps

namespace Alike

theorem of_eq (same : after = outline) : Alike early outline after :=
  ⟨1, .one, same.trans outline.restamp_one.symm⟩

theorem trans (first : Alike early outline middle) (second : Alike early middle after) :
    Alike early outline after := by
  obtain ⟨stamps, moves, rfl⟩ := first
  obtain ⟨others, moved, rfl⟩ := second
  exact ⟨others * stamps, moves.mul moved, (outline.restamp_mul stamps others).symm⟩

theorem mono {late : Mint} (alike : Alike late outline after) (later : early.issued ≤ late.issued) :
    Alike early outline after := by
  obtain ⟨stamps, moves, same⟩ := alike
  exact ⟨stamps, moves.mono later, same⟩

theorem hears (alike : Alike early outline other) (heard : Hears outline news after) :
    ∃ next, Hears other news next ∧ Alike early after next := by
  obtain ⟨stamps, moves, rfl⟩ := alike
  refine ⟨after.restamp stamps, heard.restamp moves, stamps, fun n moved => ?_, rfl⟩
  have within := moves n moved
  exact ⟨within.1, Nat.lt_of_lt_of_le within.2 heard.later⟩

theorem hearAll? {reports : List News} (alike : Alike early outline other)
    (heard : outline.hearAll? reports = some after) :
    ∃ next, other.hearAll? reports = some next ∧ Alike early after next := by
  induction reports generalizing outline other with
  | nil => exact ⟨other, rfl, Option.some.inj heard ▸ alike⟩
  | cons first rest ih =>
      obtain ⟨middle, hears, later⟩ := hearAll?_cons.mp heard
      obtain ⟨next, taken, still⟩ := alike.hears hears
      obtain ⟨last, all, end_alike⟩ := ih still later
      exact ⟨last, hearAll?_cons.mpr ⟨next, taken, all⟩, end_alike⟩

end Alike

/-- All groups have stamps that were handed out. -/
structure Stamped (outline : Outline) : Prop where
  stations : ∀ station ∈ outline.stations, station.group.Stamped outline.mint
  pending : ∀ group ∈ outline.pending, group.Stamped outline.mint

theorem Stamped.hears (stamped : outline.Stamped) (hears : Hears outline news after) :
    after.Stamped := by
  have later := hears.later
  cases hears with
  | unknown absent => exact stamped
  | @noted station states found reaction =>
      refine ⟨fun known member => ?_, stamped.pending⟩
      rcases List.mem_or_eq_of_mem_set member with before | rfl
      · exact stamped.stations known before
      · exact stamped.stations station (List.mem_of_getElem? found)
  | @again station found reaction room =>
      have fresh := TaskGroup.Stamped.renew station.group outline.mint
      constructor
      case stations =>
        intro known member
        rcases List.mem_or_eq_of_mem_set member with before | rfl
        · exact (stamped.stations known before).mono later
        · exact fresh
      case pending =>
        intro group member
        rcases Multiset.mem_cons.mp member with rfl | before
        · exact fresh
        · exact (stamped.pending group before).mono later

theorem Stamped.restamp {late : Mint} (stamped : outline.Stamped)
    (moves : MovesBetween outline.mint late stamps) :
    outline.stations.map (Station.restamp stamps) = outline.stations ∧
      outline.pending.map (TaskGroup.restamp stamps) = outline.pending := by
  constructor
  · refine (List.map_congr_left fun station member => ?_).trans (List.map_id _)
    rw [Station.restamp, (stamped.stations station member).restamp moves]
    rfl
  · refine (Multiset.map_congr rfl fun group member => ?_).trans (Multiset.map_id _)
    exact (stamped.pending group member).restamp moves

/-- Two relaunches take two blocks of stamps, the other way round in the other order. -/
theorem relaunch_comm (stamped : outline.Stamped) {first second : Nat} (different : first ≠ second)
    (one two : Station) : Alike outline.mint ((outline.relaunch first one).relaunch second two)
      ((outline.relaunch second two).relaunch first one) := by
  let stamps := exchange outline.mint.issued (1 + one.group.size) (1 + two.group.size)
  have moves : MovesBetween outline.mint
      ((outline.relaunch first one).relaunch second two).mint stamps := by
    simp only [relaunch, TaskGroup.mint_renew]
    exact .exchange _ _ _
  have here : (one.group.renew outline.mint).1.restamp stamps =
      (one.group.renew ⟨outline.mint.issued + (1 + two.group.size)⟩).1 :=
    TaskGroup.restamp_renew fun _ within => exchange_first within
  have there : (two.group.renew ⟨outline.mint.issued + (1 + one.group.size)⟩).1.restamp stamps =
      (two.group.renew outline.mint).1 :=
    TaskGroup.restamp_renew fun _ within => exchange_second within
  obtain ⟨stations, pending⟩ := stamped.restamp moves
  refine ⟨stamps, moves, ?_⟩
  simp only [relaunch, restamp, Station.restamp, Station.relaunched, List.map_set,
    Multiset.map_cons, here, there, TaskGroup.mint_renew] at stations pending ⊢
  rw [stations, pending, List.set_comm _ _ different, Multiset.cons_swap, Nat.add_right_comm]

/-- News on two groups can be taken in in either order. -/
theorem Hears.swap (stamped : outline.Stamped) (different : news.index ≠ next.index)
    (first : Hears outline news middle) (second : Hears middle next after) :
    ∃ between last, Hears outline next between ∧ Hears between news last ∧
      Alike outline.mint after last := by
  cases first with
  | unknown absent =>
      exact ⟨after, after, second, .unknown ((second.elsewhere different).trans absent), .of_eq rfl⟩
  | @noted station states found reaction =>
      have apart := Hears.elsewhere (.noted found reaction) different.symm
      cases second with
      | unknown absent =>
          exact ⟨outline, _, .unknown (apart.symm.trans absent), .noted found reaction, .of_eq rfl⟩
      | noted known decided =>
          have hears : Hears outline next _ := .noted (apart.symm.trans known) decided
          refine ⟨_, _, hears, .noted ((hears.elsewhere different).trans found) reaction, .of_eq ?_⟩
          simp only [put, List.set_comm _ _ different]
      | again known decided room =>
          have hears : Hears outline next _ := .again (apart.symm.trans known) decided room
          refine ⟨_, _, hears, .noted ((hears.elsewhere different).trans found) reaction, .of_eq ?_⟩
          simp only [put, relaunch, List.set_comm _ _ different]
  | @again station found reaction room =>
      have apart := Hears.elsewhere (.again found reaction room) different.symm
      cases second with
      | unknown absent =>
          exact ⟨outline, _, .unknown (apart.symm.trans absent), .again found reaction room,
            .of_eq rfl⟩
      | noted known decided =>
          have hears : Hears outline next _ := .noted (apart.symm.trans known) decided
          refine ⟨_, _, hears, .again ((hears.elsewhere different).trans found) reaction room,
            .of_eq ?_⟩
          simp only [put, relaunch, List.set_comm _ _ different]
      | again known decided more =>
          -- There was room for two, so there is room for either first.
          have hears : Hears outline next _ := .again (apart.symm.trans known) decided room
          exact ⟨_, _, hears, .again ((hears.elsewhere different).trans found) reaction more,
            relaunch_comm stamped different _ _⟩

/-- News can be put off until after news on other groups. -/
theorem hearAll?_put_off (stamped : outline.Stamped) {others : List News}
    (different : ∀ other ∈ others, other.index ≠ news.index)
    (heard : outline.hearAll? (news :: others) = some after) :
    ∃ last, outline.hearAll? (others ++ [news]) = some last ∧ Alike outline.mint after last := by
  induction others generalizing outline after with
  | nil => exact ⟨after, heard, .of_eq rfl⟩
  | cons first rest ih =>
      obtain ⟨middle, hears, later⟩ := hearAll?_cons.mp heard
      obtain ⟨second, follows, later⟩ := hearAll?_cons.mp later
      have apart := different first List.mem_cons_self
      obtain ⟨between, last, early, late, alike⟩ := hears.swap stamped apart.symm follows
      obtain ⟨moved, taken, same⟩ := alike.hearAll? later
      obtain ⟨final, all, again⟩ := ih (stamped.hears early)
        (fun other member => different other (List.mem_cons_of_mem _ member))
        (hearAll?_cons.mpr ⟨last, late, taken⟩)
      exact ⟨final, hearAll?_cons.mpr ⟨between, early, all⟩, same.trans (again.mono early.later)⟩

/-- Interleavings of the same news on each group come to the same, or are refused both. -/
theorem hearAll?_interleaved (stamped : outline.Stamped) {reports others : List News}
    (streams : SameStreams reports others) (heard : outline.hearAll? reports = some after) :
    ∃ last, outline.hearAll? others = some last ∧ Alike outline.mint after last := by
  induction reports generalizing outline after others with
  | nil => exact ⟨after, streams.eq_nil ▸ heard, .of_eq rfl⟩
  | cons news rest ih =>
      obtain ⟨middle, hears, later⟩ := hearAll?_cons.mp heard
      obtain ⟨before, behind, rfl, different, remaining⟩ := streams.split
      obtain ⟨ahead, taken, alike⟩ := ih (stamped.hears hears) remaining later
      -- So the first news can come first, and from there be put off to where they are.
      obtain ⟨cut, front, back⟩ := hearAll?_append.mp taken
      obtain ⟨moved, put, same⟩ :=
        hearAll?_put_off stamped different (hearAll?_cons.mpr ⟨middle, hears, front⟩)
      obtain ⟨last, all, again⟩ := same.hearAll? back
      refine ⟨last, ?_, (alike.mono hears.later).trans again⟩
      rw [List.append_cons]
      exact hearAll?_append.mpr ⟨moved, put, all⟩

end Outline
end Convoy
