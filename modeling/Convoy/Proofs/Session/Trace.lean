import Convoy.Proofs.Session.Deeds

/-!
# Every report once, every offer answered

The watch applies the reports of the events that were handled, each once and in order, for as long as
it is at work. Every offer that comes after a confirmed subscription is answered where no report is on
a group before it was launched.
-/
namespace Convoy

namespace Schedule

/-- The reports among deeds that find the watch at work. -/
def applied (schedule : Schedule) : List Deed → List Status
  | [] => []
  | deed :: rest =>
    let here := match schedule.monitor with
      | .watching => deed.report?.toList
      | _ => []
    here ++ applied (schedule.after deed) rest

/-- No report among deeds is on a group that waits to be launched. -/
def SparesAll (schedule : Schedule) : List Deed → Prop
  | [] => True
  | deed :: rest =>
    (∀ status, deed.report? = some status → schedule.Spares status) ∧
      SparesAll (schedule.after deed) rest

variable {schedule : Schedule} {groups : List TaskGroup}

theorem watching_of_after {deed : Deed} (watches : (schedule.after deed).monitor = .watching) :
    schedule.monitor = .watching := by
  have checked (before : Schedule) (still : before.check.monitor = .watching) :
      before.monitor = .watching := by
    unfold check at still
    cases monitor : before.monitor with
    | watching => rfl
    | _ => simp [monitor] at still
  cases deed with
  | offer framework offer => exact (schedule.flags_matchOffer offer framework).1.symm.trans watches
  | report status =>
    change (schedule.update status).monitor = _ at watches
    unfold update at watches
    cases monitor : schedule.monitor with
    | watching => rfl
    | _ =>
      have stands : schedule.settle.monitor = _ := monitor
      simp [stands] at watches
  | pass milliseconds => exact (schedule.flags_advance milliseconds).1.symm.trans watches
  | settle => exact watches
  | stop =>
    exact checked { schedule with stopping := true } watches
  | _ => exact watches

theorem watching_of_follow {deeds : List Deed}
    (watches : (schedule.follow deeds).monitor = .watching) : schedule.monitor = .watching := by
  induction deeds generalizing schedule with
  | nil => exact watches
  | cons deed rest ih => exact watching_of_after (ih watches)

theorem applied_eq_nil (deeds : List Deed) (idle : schedule.monitor ≠ .watching) :
    schedule.applied deeds = [] := by
  induction deeds generalizing schedule with
  | nil => rfl
  | cons deed rest ih =>
    rw [applied, ih fun watches => idle (watching_of_after watches), List.append_nil]
    split
    · rename_i monitor
      exact absurd monitor idle
    · rfl

/-- A report is applied to a schedule, and after it the watch goes on or stops. A failure stops it. -/
structure TakesIn (schedule : Schedule) (status : Status) (after : Schedule) : Prop where
  applied : after = { (schedule.settle.apply status).1 with
    monitor := after.monitor, stopping := after.stopping }
  failed : ∀ failure, (schedule.settle.apply status).2 = .error failure →
    after.monitor = .stopped (.error failure)

/-- What deeds make of a schedule by applying certain reports, in order. The reports are those of the
deeds that find the watch at work, and no other deed tells the schedule anything. -/
inductive AppliesAll : Schedule → List Deed → List Status → Schedule → Prop where
  | nothing (schedule : Schedule) : AppliesAll schedule [] [] schedule
  | report {schedule next after : Schedule} {status : Status} {rest : List Deed}
      {applied : List Status} (watches : schedule.monitor = .watching)
      (takes : schedule.TakesIn status next) (later : AppliesAll next rest applied after) :
      AppliesAll schedule (.report status :: rest) (status :: applied) after
  | other {schedule next after : Schedule} {deed : Deed} {rest : List Deed} {applied : List Status}
      (passes : ∀ status, deed = .report status → schedule.monitor ≠ .watching)
      (untold : schedule.Untold next) (later : AppliesAll next rest applied after) :
      AppliesAll schedule (deed :: rest) applied after

theorem takesIn_update (status : Status) (watches : schedule.monitor = .watching) :
    schedule.TakesIn status (schedule.update status) := by
  have settled : schedule.settle.monitor = .watching := watches
  have flags := (schedule.settle.flags_apply status).1
  unfold update
  simp only [settled]
  constructor
  case applied =>
    cases schedule.settle.apply status with
    | mk next result =>
      cases result with
      | error failure => rfl
      | ok done =>
        dsimp only [check]
        split
        · split <;> rfl
        · rfl
  case failed =>
    intro failure failed
    cases answer : schedule.settle.apply status with
    | mk next result =>
      rw [answer] at failed
      cases failed
      rfl

theorem untold_update (status : Status) (idle : schedule.monitor ≠ .watching) :
    schedule.Untold (schedule.update status) := by
  unfold update
  dsimp only
  split
  · rename_i watches
    exact absurd watches idle
  · exact ⟨rfl, rfl⟩

theorem untold_after {deed : Deed}
    (passes : ∀ status, deed = .report status → schedule.monitor ≠ .watching) :
    schedule.Untold (schedule.after deed) := by
  cases deed with
  | offer framework offer => exact schedule.untold_matchOffer offer framework
  | report status => exact untold_update status (passes status rfl)
  | pass milliseconds => exact schedule.untold_advance milliseconds
  | settle => exact ⟨rfl, rfl⟩
  | stop =>
    obtain ⟨roster, mint⟩ := untold_check { schedule with stopping := true }
    exact ⟨roster, mint⟩
  | _ => exact .refl schedule

/-- The reports among deeds that find the watch at work are applied. -/
theorem applies_follow (schedule : Schedule) (deeds : List Deed) :
    schedule.AppliesAll deeds (schedule.applied deeds) (schedule.follow deeds) := by
  induction deeds generalizing schedule with
  | nil => exact .nothing schedule
  | cons deed rest ih =>
    by_cases watches : schedule.monitor = .watching
    · have here : schedule.applied (deed :: rest) =
          deed.report?.toList ++ (schedule.after deed).applied rest := by
        rw [applied, watches]
      rw [here]
      cases deed with
      | report status => exact .report watches (takesIn_update status watches) (ih _)
      | _ => exact .other (by simp) (untold_after (by simp)) (ih _)
    · have here : schedule.applied (deed :: rest) = (schedule.after deed).applied rest := by
        rw [applied]
        split
        · rename_i monitor
          exact absurd monitor watches
        · rfl
      rw [here]
      exact .other (fun _ _ => watches) (untold_after fun _ _ => watches) (ih _)

theorem report_toList (deed : Deed) (rest : List Deed) :
    (deed :: rest).filterMap Deed.report? = deed.report?.toList ++ rest.filterMap Deed.report? := by
  cases given : deed.report? <;> simp [given]

theorem applied_prefix (schedule : Schedule) (deeds : List Deed) :
    schedule.applied deeds <+: deeds.filterMap Deed.report? := by
  induction deeds generalizing schedule with
  | nil => exact List.prefix_rfl
  | cons deed rest ih =>
    cases monitor : schedule.monitor with
    | watching =>
      rw [report_toList]
      simp only [applied, monitor]
      exact (List.prefix_append_right_inj _).2 (ih _)
    | _ =>
      rw [applied_eq_nil _ (by simp [monitor])]
      exact List.nil_prefix

theorem applied_eq (deeds : List Deed) (watches : (schedule.follow deeds).monitor = .watching) :
    schedule.applied deeds = deeds.filterMap Deed.report? := by
  induction deeds generalizing schedule with
  | nil => rfl
  | cons deed rest ih =>
    have now : schedule.monitor = .watching := watching_of_follow watches
    rw [report_toList]
    simp only [applied, now]
    exact congrArg _ (ih watches)

/-- What fair deeds leave in one place. -/
theorem account_follow {deeds : List Deed} {heard : List Status}
    (account : schedule.Account (Course.Whole groups) heard) (spares : schedule.SparesAll deeds) :
    ∃ heard, (schedule.follow deeds).Account (Course.Whole groups) heard := by
  have kept := Course.whole_kept groups
  induction deeds generalizing schedule heard with
  | nil => exact ⟨heard, account⟩
  | cons deed rest ih =>
    obtain ⟨now, later⟩ := spares
    cases deed with
    | offer framework offer => exact ih (account.matchOffer kept.toKept offer framework) later
    | report status =>
      have updated := account.update kept status fun course ends idle =>
        (now status rfl).settle.course ends idle
      exact ih updated later
    | pass milliseconds => exact ih (account.advance kept.toKept milliseconds) later
    | settle => exact ih (account.settle kept.toKept) later
    | stop => exact ih (account.stop kept) later
    | _ => exact ih account later

theorem sparesAll_append {first second : List Deed}
    (spares : schedule.SparesAll (first ++ second)) : schedule.SparesAll first := by
  induction first generalizing schedule with
  | nil => trivial
  | cons deed rest ih => exact ⟨spares.1, ih spares.2⟩

end Schedule

theorem Deed.outcome_ne_queueFull (fate : Option LinkFailure) (deed : Deed) (queue : String) :
    deed.outcome fate ≠ .error (.queueFull queue) := by
  unfold outcome
  split <;> simp

theorem upToFailure_ne_queueFull (fate : Nat → Option LinkFailure) (deeds : List Deed)
    (queue : String) : (upToFailure fate deeds).2 ≠ .error (.queueFull queue) := by
  induction deeds generalizing fate with
  | nil => simp [upToFailure]
  | cons deed rest ih =>
    cases ends : deed.outcome (fate 0) with
    | ok passed =>
      simp only [upToFailure, ends]
      exact ih _
    | error failure =>
      simp only [upToFailure, ends]
      exact ends ▸ deed.outcome_ne_queueFull _ queue

namespace Router

/-- A router as a run starts it. -/
def start (groups : List TaskGroup) (rules : Rules) (mint : Mint) (draws : Draws)
    (refusal : Refusal) (link : Link) : Router :=
  { schedule := { Schedule.start groups rules mint with draws := draws }.watch
    link := link
    refusal := refusal }

/-- What a router did by the time it has met some happenings. It did what the events asked for, in
order and no further than to the first call that fails. It did all of that, and the calls are theirs,
unless an offer found a queue full; no offer does where reports spare the groups that wait. The watch
applied the reports among the deeds for as long as it was at work. -/
structure Traced (start : Router) (happenings : List Happening) (performed : List Deed)
    (answer : Router × Except Failure Unit) : Prop where
  schedule : answer.1.schedule = start.schedule.follow performed
  within : performed <+: (upToFailure start.link.fate (deedsOf none happenings)).1
  complete : answer.2 ≠ .error (.queueFull "pending") →
    (performed, answer.2) = upToFailure start.link.fate (deedsOf none happenings) ∧
      answer.1.signed = callsOf none performed
  room : start.schedule.SparesAll performed → answer.2 ≠ .error (.queueFull "pending")
  applies : start.schedule.AppliesAll performed (start.schedule.applied performed) answer.1.schedule
  applied : start.schedule.applied performed <+: performed.filterMap Deed.report?
  watching : answer.1.schedule.monitor = .watching →
    start.schedule.applied performed = performed.filterMap Deed.report?

theorem traced_meetAll (groups : List TaskGroup) (rules : Rules) (mint : Mint) (draws : Draws)
    (refusal : Refusal) (link : Link) (happenings : List Happening) :
    ∃ performed, Traced (start groups rules mint draws refusal link) happenings performed
      ((start groups rules mint draws refusal link).meetAll happenings) := by
  rw [meetAll_eq_performAll]
  let first := start groups rules mint draws refusal link
  obtain ⟨performed, schedule, ends⟩ : ∃ performed, Comes first (deedsOf none happenings) performed
    (first.performAll (deedsOf none happenings)) := comes_performAll _
  have applies := first.schedule.applies_follow performed
  rw [← schedule] at applies
  have applied := first.schedule.applied_prefix performed
  have watching
      (watches : (first.performAll (deedsOf none happenings)).1.schedule.monitor = .watching) :
      first.schedule.applied performed = performed.filterMap Deed.report? :=
    Schedule.applied_eq performed (schedule ▸ watches)
  rcases ends with ⟨whole, signed⟩ |
    ⟨before, framework, offer, rest, failure, same, within, signed, result, failed⟩
  · have sound : (first.performAll (deedsOf none happenings)).2 ≠ .error (.queueFull "pending") := by
      rw [congrArg Prod.snd whole]
      exact upToFailure_ne_queueFull _ _ _
    exact ⟨performed, schedule, congrArg Prod.fst whole ▸ List.prefix_rfl, fun _ => ⟨whole, signed⟩,
      fun _ => sound, applies, applied, watching⟩
  · have full : failure = .queueFull "pending" := Schedule.matchOffer_error failed
    subst full
    refine ⟨performed, schedule, ⟨rest, within.symm⟩, fun sound => absurd result sound,
      fun spares => ?_, applies, applied, watching⟩
    have drawn : { Schedule.start groups rules mint with draws := draws }.Account
        (Course.Whole groups) [] :=
      (Schedule.Account.start (Course.whole_start groups rules mint)).drawing
        (Course.whole_kept groups) draws
    have account : first.schedule.Account (Course.Whole groups) [] :=
      drawn.watch (Course.whole_kept groups)
    rw [same] at spares
    obtain ⟨heard, account⟩ := Schedule.account_follow account (Schedule.sparesAll_append spares)
    obtain ⟨found, accepted⟩ := account.matchOffer_ok offer framework
    rw [accepted] at failed
    cases failed

/-- An offer that comes before a subscription is confirmed gets no acceptance. -/
theorem unanswered_offers :
    let offer : Offer := { id := ⟨"offer", by decide⟩, agent := ⟨"agent", by decide⟩ }
    let group : TaskGroup :=
      { tasks := [{ name := "web", id := .stamped 0, resources := [.ranges "ports" [⟨80, 80⟩]] }]
        networks := []
        executor := { id := .stamped 1 }
        hasTask := by simp }
    let early := (start [group] {} ⟨2⟩ .middle .standard {}).meetAll [.event (.offers [offer])]
    early.2 = .error (.breach (.notSubscribed "OFFERS")) ∧ early.1.signed = [] :=
  ⟨rfl, rfl⟩

end Router
end Convoy
