import Convoy.Proofs.Session.Endings

/-!
# What a run reads and hands on

All sessions of a run read from one inbox. Every event that is read is handed to the router, once and
in order, unless it is the first of its session and does not confirm it; such an event ends the run. A
session begins with a subscription that is not refused, and ends with a disconnect.
-/
namespace Convoy

namespace Notice

def event? : Notice → Option Event
  | .event heard => some heard
  | .call _ => none

def isSubscription : Notice → Bool
  | .call { body := .subscribe _, .. } => true
  | _ => false

end Notice

namespace Delivery

def event? : Delivery → Option Event
  | .event brought => some brought
  | .disconnect _ => none

def isDisconnect : Delivery → Bool
  | .event _ => false
  | .disconnect _ => true

end Delivery

/-- What was taken leaves no session open. -/
def Between (taken : List Delivery) : Prop :=
  taken = [] ∨ ∃ earlier reason, taken = earlier ++ [.disconnect reason]

theorem not_between_event (taken : List Delivery) (event : Event) :
    ¬ Between (taken ++ [.event event]) := by
  rintro (none | ⟨earlier, reason, same⟩)
  · simp at none
  · cases (List.append_inj' same rfl).2

theorem Parting.quiet {last : List Notice} (parting : Parting last) :
    last.filterMap Notice.event? = [] ∧ last.countP Notice.isSubscription = 0 := by
  have torn (notice : Notice) (member : notice ∈ last) :
      notice.event? = none ∧ notice.isSubscription = false := by
    have is := parting.2 notice member
    unfold Notice.isTeardown at is
    split at is
    · exact ⟨rfl, rfl⟩
    · contradiction
  constructor
  · exact List.filterMap_eq_nil_iff.mpr fun notice member => (torn notice member).1
  · exact List.countP_eq_zero.mpr fun notice member => by simp [(torn notice member).2]

namespace Schedule

variable {schedule after : Schedule}

/-- The watch is at work as long as nothing stops the run, and what stops it is that all tasks
finished, or a failure of the watch. -/
structure Guarded (schedule : Schedule) : Prop where
  quiet : schedule.stopping = false → schedule.monitor = .watching
  stopped : schedule.stopping = true →
    schedule.monitor = .stopped (.ok ()) ∧ schedule.roster.finished = true ∨
      ∃ failure, schedule.monitor = .stopped (.error failure)

theorem Guarded.waits (guarded : schedule.Guarded) (waits : Waits schedule after) :
    after.Guarded where
  quiet := by rw [waits.stopping, waits.monitor]; exact guarded.quiet
  stopped := by rw [waits.stopping, waits.monitor, waits.roster]; exact guarded.stopped

theorem guarded_check (watching : schedule.monitor = .watching)
    (quiet : schedule.stopping = false) : schedule.check.Guarded := by
  simp only [check, watching, quiet, Bool.or_false]
  split
  · rename_i finished
    exact ⟨fun goesOn => by simp [stopWith] at goesOn, fun _ => .inl ⟨rfl, finished⟩⟩
  · exact ⟨fun _ => watching, fun stops => by simp [quiet] at stops⟩

theorem guarded_watch (groups : List TaskGroup) (rules : Rules) (mint : Mint) (draws : Draws) :
    { Schedule.start groups rules mint with draws := draws }.watch.Guarded :=
  @guarded_check { Schedule.start groups rules mint with monitor := .watching, draws := draws } rfl
    rfl

theorem Guarded.matchOffer (guarded : schedule.Guarded) (offer : Offer) (framework : FrameworkId) :
    (schedule.matchOffer offer framework).1.Guarded := by
  obtain ⟨monitor, stopping⟩ := schedule.flags_matchOffer offer framework
  exact guarded.waits ⟨monitor, stopping, (schedule.untold_matchOffer offer framework).roster⟩

theorem Guarded.update (guarded : schedule.Guarded) (status : Status) :
    (schedule.update status).Guarded := by
  have settled : schedule.settle.Guarded := guarded.waits ⟨rfl, rfl, rfl⟩
  unfold Schedule.update
  dsimp only
  split
  · rename_i watching
    have quiet : schedule.settle.stopping = false := by
      cases stopping : schedule.settle.stopping with
      | false => rfl
      | true =>
          rcases settled.stopped stopping with ⟨stopped, -⟩ | ⟨failure, stopped⟩ <;>
            simp [watching] at stopped
    obtain ⟨monitor, stopping⟩ := flags_apply schedule.settle status
    cases answer : schedule.settle.apply status with
    | mk next result =>
        rw [answer] at monitor stopping
        cases result with
        | ok done => exact guarded_check (monitor.trans watching) (stopping.trans quiet)
        | error failure => exact ⟨nofun, fun _ => .inr ⟨failure, rfl⟩⟩
  · exact settled

/-- Telling a schedule to stop that was told to before changes nothing. -/
theorem Guarded.stop (guarded : schedule.Guarded) (stopping : schedule.stopping = true) :
    schedule.stop.monitor = schedule.monitor ∧ schedule.stop.roster = schedule.roster := by
  rcases guarded.stopped stopping with ⟨stopped, -⟩ | ⟨failure, stopped⟩ <;>
    simp [Schedule.stop, check, stopped]

end Schedule

namespace Router

variable {router after last : Router}

theorem isSubscription_sign (router : Router) (call : Call) :
    (Notice.call (router.sign call)).isSubscription = (Notice.call call).isSubscription := by
  obtain ⟨framework, body⟩ := call
  unfold sign
  split <;> cases body <;> rfl

/-- What comes of handling certain events. -/
structure Handles (router : Router) (events : List Event) (after : Router) : Prop where
  link : router.link.Carries after.link
  guarded : router.schedule.Guarded → after.schedule.Guarded
  notices : ∃ more, after.notices = router.notices ++ more ∧
    more.filterMap Notice.event? = events ∧ more.countP Notice.isSubscription = 0

theorem Handles.nothing (guarded : router.schedule.Guarded → after.schedule.Guarded)
    (link : after.link = router.link) (notices : after.notices = router.notices) :
    Handles router [] after :=
  ⟨link ▸ .refl _, guarded, [], by rw [notices, List.append_nil], rfl, rfl⟩

theorem Handles.trans {events more : List Event} (first : Handles router events after)
    (second : Handles after more last) : Handles router (events ++ more) last := by
  obtain ⟨early, added, heard, silent⟩ := first.notices
  obtain ⟨late, later, listened, quiet⟩ := second.notices
  refine ⟨first.link.trans second.link, second.guarded ∘ first.guarded, early ++ late, ?_, ?_, ?_⟩
  · rw [later, added, List.append_assoc]
  · rw [List.filterMap_append, heard, listened]
  · rw [List.countP_append, silent, quiet]

theorem handles_call {call : Call} (other : (Notice.call call).isSubscription = false) :
    Handles router [] (router.call call).1 := by
  have signed := router.isSubscription_sign call
  refine ⟨router.link.carries_call _, id, _, rfl, rfl, ?_⟩
  simp [signed, other]

theorem handles_notice (event : Event) : Handles router [event] (router.notice (.event event)) :=
  ⟨.refl _, id, _, rfl, rfl, rfl⟩

theorem handles_answer (framework : FrameworkId) (offers : List Offer) :
    Handles router [] (router.answer framework offers).1 := by
  induction offers generalizing router with
  | nil => exact .nothing id rfl rfl
  | cons offer rest ih =>
      have guarded (now : router.schedule.Guarded) := now.matchOffer offer framework
      simp only [answer]
      cases matched : router.schedule.matchOffer offer framework with
      | mk schedule found =>
          rw [matched] at guarded
          have matching : Handles router [] { router with schedule := schedule } :=
            .nothing guarded rfl rfl
          cases found with
          | error failure => exact matching
          | ok found =>
              let accept := Call.accept [offer.id] found.operations router.filters
              have called : Handles { router with schedule := schedule } []
                  ({ router with schedule := schedule }.call accept).1 := handles_call rfl
              dsimp only
              cases answered : { router with schedule := schedule }.call accept with
              | mk next result =>
                  rw [answered] at called
                  cases result with
                  | ok done => exact (matching.trans called).trans ih
                  | error failure => exact matching.trans called

theorem handles_acknowledge (status : Status) : Handles router [] (router.acknowledge status).1 := by
  unfold acknowledge Call.acknowledge?
  cases status.uuid with
  | none => exact .nothing id rfl rfl
  | some uuid =>
      cases status.agent with
      | none => exact .nothing id rfl rfl
      | some agent => exact handles_call rfl

theorem handles_report (status : Status) : Handles router [] (router.report status).1 :=
  (handles_acknowledge status).trans
    (.nothing (fun guarded => guarded.update status) rfl rfl)

theorem handles_handle (event : Event) : Handles router [event] (router.handle event).1 := by
  have noticed : Handles router [event] _ := handles_notice event
  unfold handle
  cases event with
  | subscribed framework interval master => exact noticed.trans (.nothing id rfl rfl)
  | offers given =>
      dsimp only
      split
      · exact noticed.trans (handles_answer _ given)
      · exact noticed
  | update status => exact noticed.trans (handles_report status)
  | _ => exact noticed

/-- What asking for a subscription does, as long as the master is there. -/
structure Asks (router : Router) (answer : Router × Except LinkFailure Unit) : Prop where
  schedule : answer.1.schedule = router.schedule
  inbox : answer.1.link.inbox = router.link.inbox
  present : answer.1.link.gone = false
  notices : ∃ call, answer.1.notices = router.notices ++ [.call call] ∧
    (Notice.call call).isSubscription = true
  refusals : router.link.refusals = answer.1.link.refusals + if answer.2.isOk then 0 else 1

theorem asks_subscribe (present : router.link.gone = false) (identity : Framework) :
    Asks router (router.subscribe identity) := by
  have described := router.isSubscription_sign (.subscribe { identity with id := router.framework })
  unfold subscribe Link.subscribe Link.carry
  simp only [present, Bool.false_eq_true, if_false]
  cases refusals : router.link.refusals with
  | zero => exact ⟨rfl, rfl, rfl, ⟨_, rfl, described⟩, refusals⟩
  | succ left => exact ⟨rfl, rfl, rfl, ⟨_, rfl, described⟩, refusals⟩

end Router

namespace Run

/-- The events that were handed to the router. -/
def handed (run : Run) : List Event :=
  run.router.notices.filterMap Notice.event?

/-- The number of subscriptions that were asked for. -/
def subscriptions (run : Run) : Nat :=
  run.router.notices.countP Notice.isSubscription

/-- A run ends because of the first event of a session, which it does not hand on. After the
subscription it calls nothing but the teardown. -/
structure Bars (run : Run) (event : Event) : Prop where
  stranger : confirms event = false
  phase : run.phase = .ended (.error (.breach (.unexpected "SUBSCRIBED" event.kind)))
  result : run.result? = some (.error (.breach (.unexpected "SUBSCRIBED" event.kind)))
  notices : ∃ before call last, run.router.notices = before ++ .call call :: last ∧
    (Notice.call call).isSubscription = true ∧ Parting last

/-- A router that had heard the events of some deliveries handled one more, with a result. -/
def Handled (run : Run) (earlier : List Delivery) (event : Event) (result : Except Failure Unit) :
    Prop :=
  ∃ router : Router, router.notices.filterMap Notice.event? = earlier.filterMap Delivery.event? ∧
    (router.handle event).2 = result ∧ (router.handle event).1.notices <+: run.router.notices

/-- The last delivery that was taken is an event that could not be handled. -/
def Fails (run : Run) (taken : List Delivery) (failure : Failure) : Prop :=
  ∃ earlier event, taken = earlier ++ [.event event] ∧ run.Handled earlier event (.error failure)

/-- What the phase of a run says of what was taken from the inbox, of the number of sessions that were
lost, and of the event that ended the run. -/
def Stands (run : Run) (taken : List Delivery) (lost : Nat) (barred : Option Event) : Prop :=
  match run.phase with
  | .subscribing | .pausing _ _ =>
    run.router.schedule.Guarded ∧ barred = none ∧ Between taken ∧ run.subscriptions = lost
  | .listening false =>
    run.router.schedule.Guarded ∧ barred = none ∧ Between taken ∧ run.subscriptions = lost + 1 ∧
      ∃ before call, run.router.notices = before ++ [.call call] ∧
        (Notice.call call).isSubscription = true
  | .listening true =>
    run.router.schedule.Guarded ∧ barred = none ∧ ¬ Between taken ∧ run.subscriptions = lost + 1
  | .ended result =>
    (run.subscriptions = lost ∨ run.subscriptions = lost + 1) ∧
      (∀ event, barred = some event → Between taken ∧ run.Bars event) ∧
      (result = .ok () → run.router.schedule.roster.finished = true ∨
        ∃ failure, run.router.schedule.monitor = .stopped (.error failure)) ∧
      ∀ failure, result = .error failure → barred.isSome ∨ run.Fails taken failure

/-- What a run took from all that was sent, and that it handed on what it took. -/
structure Accounts (sent : List Delivery) (granted : Nat) (run : Run) (taken : List Delivery)
    (refused : Nat) (barred : Option Event) : Prop where
  tape : sent = taken ++ barred.toList.map Delivery.event ++ run.router.link.inbox
  granted : granted = refused + run.router.link.refusals
  present : run.router.link.gone = false
  handed : run.handed = taken.filterMap Delivery.event?
  confirmed : ∀ before event after, taken = before ++ .event event :: after → Between before →
    confirms event = true

/-- The account of a run, with how the events were handled and where the run stands. Only the last
event may have failed. -/
structure Relays (sent : List Delivery) (granted : Nat) (run : Run) (taken : List Delivery)
    (refused : Nat) (barred : Option Event) : Prop
    extends Accounts sent granted run taken refused barred where
  passed : ∀ before event after, taken = before ++ .event event :: after →
    run.Handled before event (.ok ()) ∨
      after = [] ∧ ∃ failure, run.phase = .ended (.error failure) ∧
        run.Handled before event (.error failure)
  stands : run.Stands taken (refused + taken.countP Delivery.isDisconnect) barred

variable {run next : Run} {sent taken : List Delivery} {granted refused : Nat}
  {barred : Option Event}

theorem Handled.mono {event : Event} {result : Except Failure Unit}
    (handled : run.Handled taken event result)
    (grown : run.router.notices <+: next.router.notices) : next.Handled taken event result :=
  handled.imp fun _ here => ⟨here.1, here.2.1, here.2.2.trans grown⟩

theorem Fails.mono {failure : Failure} (fails : run.Fails taken failure)
    (grown : run.router.notices <+: next.router.notices) : next.Fails taken failure := by
  obtain ⟨earlier, event, last, failed⟩ := fails
  exact ⟨earlier, event, last, failed.mono grown⟩

/-- A run whose event loop has not ended. -/
structure Runs (run : Run) (lost : Nat) : Prop where
  guarded : run.router.schedule.Guarded
  subscriptions : run.subscriptions = lost ∨ run.subscriptions = lost + 1

theorem Relays.runs (relays : Relays sent granted run taken refused barred)
    (running : ∀ result, run.phase ≠ .ended result) :
    barred = none ∧ run.Runs (refused + taken.countP Delivery.isDisconnect) := by
  have stands := relays.stands
  unfold Stands at stands
  split at stands
  · obtain ⟨guarded, none, -, count⟩ := stands
    exact ⟨none, guarded, .inl count⟩
  · obtain ⟨guarded, none, -, count⟩ := stands
    exact ⟨none, guarded, .inl count⟩
  · obtain ⟨guarded, none, -, count, -⟩ := stands
    exact ⟨none, guarded, .inr count⟩
  · obtain ⟨guarded, none, -, count⟩ := stands
    exact ⟨none, guarded, .inr count⟩
  · rename_i ended
    exact absurd ended (running _)

/-- What holds while a subscription stands. -/
structure Listens (run : Run) (taken : List Delivery) (lost : Nat) (confirmed : Bool) : Prop where
  guarded : run.router.schedule.Guarded
  subscriptions : run.subscriptions = lost + 1
  inside : confirmed = true → ¬ Between taken

theorem Relays.listens (relays : Relays sent granted run taken refused barred) {confirmed : Bool}
    (phase : run.phase = .listening confirmed) :
    barred = none ∧ run.Listens taken (refused + taken.countP Delivery.isDisconnect) confirmed := by
  have stands := relays.stands
  simp only [Stands, phase] at stands
  cases confirmed with
  | false =>
      obtain ⟨guarded, none, -, count, -⟩ := stands
      exact ⟨none, guarded, count, nofun⟩
  | true =>
      obtain ⟨guarded, none, inside, count⟩ := stands
      exact ⟨none, guarded, count, fun _ => inside⟩

/-- As long as a run goes on, all its events were handled well. -/
theorem Relays.passes (relays : Relays sent granted run taken refused barred)
    (running : ∀ result, run.phase ≠ .ended result)
    (grown : run.router.notices <+: next.router.notices) (before : List Delivery) (event : Event)
    (after : List Delivery) (same : taken = before ++ .event event :: after) :
    next.Handled before event (.ok ()) := by
  rcases relays.passed before event after same with well | ⟨-, failure, ended, -⟩
  · exact well.mono grown
  · exact absurd ended (running _)

/-- An event that belongs to a session that was confirmed, or confirms its own. -/
theorem confirmed_append (confirmed : ∀ before event after, taken = before ++ .event event :: after →
      Between before → confirms event = true) {delivery : Delivery}
    (right : ∀ event, delivery = .event event → Between taken → confirms event = true) :
    ∀ before event after, taken ++ [delivery] = before ++ .event event :: after →
      Between before → confirms event = true := by
  intro before event after same between
  rcases last_or_earlier same with ⟨rfl, here, -⟩ | ⟨rest, earlier⟩
  · exact right event here between
  · exact confirmed before event rest earlier between

theorem handed_finish (run : Run) (result : Except Failure Unit) :
    (run.finish result).handed = run.handed ∧
      (run.finish result).subscriptions = run.subscriptions := by
  obtain ⟨last, added, parting⟩ := (run.finishes_finish result).notices
  unfold handed subscriptions
  rw [added, List.filterMap_append, List.countP_append, parting.quiet.1, parting.quiet.2]
  exact ⟨List.append_nil _, Nat.add_zero _⟩

theorem grown_finish (run : Run) (result : Except Failure Unit) :
    run.router.notices <+: (run.finish result).router.notices := by
  obtain ⟨last, added, -⟩ := (run.finishes_finish result).notices
  exact ⟨last, added.symm⟩

theorem Accounts.finish (accounts : Accounts sent granted run taken refused barred)
    (result : Except Failure Unit) :
    Accounts sent granted (run.finish result) taken refused barred where
  tape := by rw [(run.finishes_finish result).link.inbox]; exact accounts.tape
  granted := by rw [(run.finishes_finish result).link.refusals]; exact accounts.granted
  present := by rw [(run.finishes_finish result).link.gone]; exact accounts.present
  handed := by rw [(run.handed_finish result).1]; exact accounts.handed
  confirmed := accounts.confirmed

theorem Relays.told (relays : Relays sent granted run taken refused barred)
    (running : ∀ result, run.phase ≠ .ended result)
    (stopping : run.router.schedule.stopping = true) :
    Relays sent granted (run.finish (.ok ())) taken refused none := by
  obtain ⟨rfl, runs⟩ := relays.runs running
  have finishes := run.finishes_finish (.ok ())
  obtain ⟨monitor, roster⟩ := runs.guarded.stop stopping
  refine { relays.finish (.ok ()) with passed := ?passed, stands := ?stands }
  case passed =>
    intro before event after same
    exact .inl (relays.passes running (run.grown_finish _) before event after same)
  case stands =>
    unfold Stands
    rw [finishes.phase, (run.handed_finish _).2, finishes.schedule, monitor, roster]
    have reason := (runs.guarded.stopped stopping).imp_left And.right
    exact ⟨runs.subscriptions, fun _ => nofun, fun _ => reason, fun _ => nofun⟩

/-- What losing a subscription changes. -/
structure Loses (run next : Run) : Prop where
  phase : next.phase = .subscribing ∨ ∃ due serial, next.phase = .pausing due serial
  link : next.router.link = run.router.link
  notices : next.router.notices = run.router.notices
  schedule : run.router.schedule.Waits next.router.schedule

theorem loses_lose (run : Run) : Loses run run.lose := by
  unfold lose
  dsimp only
  split
  · exact ⟨.inl rfl, rfl, rfl, .refl _⟩
  · exact ⟨.inr ⟨_, _, rfl⟩, rfl, rfl, rfl, rfl, rfl⟩

theorem Stands.of_loses {lost : Nat} (loses : Loses run next)
    (guarded : run.router.schedule.Guarded) (between : Between taken)
    (count : run.subscriptions = lost) : next.Stands taken lost none := by
  have same : next.subscriptions = lost := by
    rw [← count, subscriptions, subscriptions, loses.notices]
  have still := guarded.waits loses.schedule
  unfold Stands
  rcases loses.phase with phase | ⟨due, serial, phase⟩ <;> rw [phase] <;>
    exact ⟨still, rfl, between, same⟩

theorem Relays.subscribe (relays : Relays sent granted run taken refused barred)
    (phase : run.phase = .subscribing) {router : Router}
    (answer : run.router.subscribe run.identity = (router, .ok ())) :
    Relays sent granted { run with router := router, phase := .listening false } taken refused
      none := by
  have stands := relays.stands
  simp only [Stands, phase] at stands
  obtain ⟨guarded, rfl, between, count⟩ := stands
  have asks := Router.asks_subscribe relays.present run.identity
  rw [answer] at asks
  obtain ⟨call, added, described⟩ := asks.notices
  dsimp only at added
  refine { tape := ?tape, granted := ?granted, present := asks.present, handed := ?handed,
           confirmed := relays.confirmed, passed := ?passed, stands := ?stands }
  case tape => exact asks.inbox ▸ relays.tape
  case granted =>
    have same : run.router.link.refusals = router.link.refusals := asks.refusals
    exact same ▸ relays.granted
  case handed =>
    rw [← relays.handed, Run.handed, Run.handed, added, List.filterMap_append]
    exact List.append_nil _
  case passed =>
    intro before event after same
    exact .inl (relays.passes (by simp [phase]) ⟨_, added.symm⟩ before event after same)
  case stands =>
    refine ⟨asks.schedule ▸ guarded, rfl, between, ?_, _, _, added, described⟩
    rw [← count, subscriptions, subscriptions, added, List.countP_append,
      List.countP_singleton, if_pos described]

theorem Relays.refuse (relays : Relays sent granted run taken refused barred)
    (phase : run.phase = .subscribing) {router : Router} {cause : LinkFailure}
    (answer : run.router.subscribe run.identity = (router, .error cause)) :
    Relays sent granted { run with router := router }.lose taken (refused + 1) none := by
  have stands := relays.stands
  simp only [Stands, phase] at stands
  obtain ⟨guarded, rfl, between, count⟩ := stands
  have asks := Router.asks_subscribe relays.present run.identity
  rw [answer] at asks
  obtain ⟨call, added, described⟩ := asks.notices
  dsimp only at added
  let asked : Run := { run with router := router }
  have loses := asked.loses_lose
  have grown : asked.lose.router.notices = run.router.notices ++ [.call call] :=
    loses.notices.trans added
  refine { tape := ?tape, granted := ?granted, present := ?present, handed := ?handed,
           confirmed := relays.confirmed, passed := ?passed, stands := ?stands }
  case tape => rw [loses.link]; exact asks.inbox ▸ relays.tape
  case granted =>
    have fewer : run.router.link.refusals = router.link.refusals + 1 := asks.refusals
    rw [relays.granted, fewer, loses.link]
    show refused + (router.link.refusals + 1) = refused + 1 + router.link.refusals
    omega
  case present => rw [loses.link]; exact asks.present
  case handed =>
    rw [← relays.handed, Run.handed, Run.handed, grown, List.filterMap_append]
    exact List.append_nil _
  case passed =>
    intro before event after same
    exact .inl (relays.passes (by simp [phase]) ⟨_, grown.symm⟩ before event after same)
  case stands =>
    refine .of_loses loses (asks.schedule ▸ guarded) between ?_
    show List.countP _ router.notices = _
    have count : run.router.notices.countP Notice.isSubscription = _ := count
    rw [added, List.countP_append, List.countP_singleton, if_pos described, count]
    omega

theorem Relays.disconnect (relays : Relays sent granted run taken refused barred)
    {confirmed : Bool} {reason : String} {inbox : List Delivery}
    (phase : run.phase = .listening confirmed)
    (found : run.router.link.inbox = .disconnect reason :: inbox) :
    Relays sent granted (run.receive inbox).lose (taken ++ [.disconnect reason]) refused none := by
  obtain ⟨rfl, listens⟩ := relays.listens phase
  have loses := (run.receive inbox).loses_lose
  refine { tape := ?tape, granted := ?granted, present := ?present, handed := ?handed,
           confirmed := ?confirmed, passed := ?passed, stands := ?stands }
  case tape =>
    have tape := relays.tape
    rw [found] at tape
    rw [loses.link, tape]
    simp [receive]
  case granted => rw [loses.link]; exact relays.granted
  case present => rw [loses.link]; exact relays.present
  case handed =>
    rw [Run.handed, loses.notices, List.filterMap_append]
    exact relays.handed.trans (List.append_nil _).symm
  case confirmed => exact confirmed_append relays.confirmed fun _ same => by cases same
  case passed =>
    intro before event after same
    rcases last_or_earlier same with ⟨-, here, -⟩ | ⟨rest, earlier⟩
    · contradiction
    · exact .inl (relays.passes (by simp [phase]) ⟨[], by rw [loses.notices]; simp [receive]⟩
        before event rest earlier)
  case stands =>
    refine .of_loses loses listens.guarded (.inr ⟨taken, reason, rfl⟩) ?_
    rw [List.countP_append]
    exact listens.subscriptions

/-- What is known once the router was handed an event, whatever came of it. -/
structure Hears (sent : List Delivery) (granted : Nat) (run next : Run) (taken : List Delivery)
    (refused : Nat) (event : Event) (result : Except Failure Unit) : Prop where
  accounts : Accounts sent granted next (taken ++ [.event event]) refused none
  grown : run.router.notices <+: next.router.notices
  handled : next.Handled taken event result
  listens : next.Listens (taken ++ [.event event])
    (refused + (taken ++ [Delivery.event event]).countP Delivery.isDisconnect) true

theorem Relays.hears (relays : Relays sent granted run taken refused barred) {confirmed : Bool}
    {event : Event} {inbox : List Delivery} {router : Router} {result : Except Failure Unit}
    (phase : run.phase = .listening confirmed)
    (found : run.router.link.inbox = .event event :: inbox)
    (allowed : (confirmed || confirms event) = true)
    (answer : (run.receive inbox).router.handle event = (router, result)) :
    Hears sent granted run (run.goOn confirmed router) taken refused event result := by
  obtain ⟨rfl, listens⟩ := relays.listens phase
  have handles : (run.receive inbox).router.Handles [event] _ := Router.handles_handle event
  rw [answer] at handles
  obtain ⟨more, added, heard, silent⟩ := handles.notices
  -- Only the first event of a session comes while the session is not confirmed.
  have right : Between taken → confirms event = true := by
    intro between
    cases confirmed with
    | false => simpa using allowed
    | true => exact absurd between (listens.inside rfl)
  constructor
  case accounts =>
    constructor
    case tape =>
      have tape := relays.tape
      rw [found] at tape
      have rest : (run.goOn confirmed router).router.link.inbox = inbox := handles.link.inbox
      rw [rest, tape]
      simp
    case granted => exact relays.granted.trans (congrArg (refused + ·) handles.link.refusals.symm)
    case present => exact handles.link.gone.trans relays.present
    case handed =>
      show List.filterMap _ router.notices = _
      rw [added, List.filterMap_append, heard, List.filterMap_append, ← relays.handed]
      rfl
    case confirmed =>
      exact confirmed_append relays.confirmed fun _ same => by cases same; exact right
  case grown => exact ⟨more, added.symm⟩
  case handled =>
    refine ⟨(run.receive inbox).router, relays.handed, ?_, ?_⟩ <;> rw [answer]
    exact List.prefix_rfl
  case listens =>
    refine ⟨handles.guarded listens.guarded, ?_, fun _ => not_between_event taken event⟩
    show List.countP _ router.notices = _
    have before : List.countP Notice.isSubscription (run.receive inbox).router.notices = _ :=
      listens.subscriptions
    rw [added, List.countP_append, silent, before, List.countP_append]
    rfl

theorem Relays.hear (relays : Relays sent granted run taken refused barred) {confirmed : Bool}
    {event : Event} {router : Router} (phase : run.phase = .listening confirmed)
    (hears : Hears sent granted run (run.goOn confirmed router) taken refused event (.ok ())) :
    Relays sent granted (run.goOn confirmed router) (taken ++ [.event event]) refused none := by
  refine { hears.accounts with passed := ?passed, stands := ?stands }
  case passed =>
    intro before other after same
    rcases last_or_earlier same with ⟨rfl, here, -⟩ | ⟨rest, earlier⟩
    · cases here
      exact .inl hears.handled
    · exact .inl (relays.passes (by simp [phase]) hears.grown before other rest earlier)
  case stands =>
    exact ⟨hears.listens.guarded, rfl, hears.listens.inside rfl, hears.listens.subscriptions⟩

theorem Relays.fail (relays : Relays sent granted run taken refused barred) {confirmed : Bool}
    {event : Event} {router : Router} {failure : Failure} (phase : run.phase = .listening confirmed)
    (hears :
      Hears sent granted run (run.goOn confirmed router) taken refused event (.error failure)) :
    Relays sent granted ((run.goOn confirmed router).finish (.error failure))
      (taken ++ [.event event]) refused none := by
  let heard := run.goOn confirmed router
  have finishes := heard.finishes_finish (.error failure)
  have grown := heard.grown_finish (.error failure)
  have handled := hears.handled.mono grown
  refine { hears.accounts.finish (.error failure) with passed := ?passed, stands := ?stands }
  case passed =>
    intro before other after same
    rcases last_or_earlier same with ⟨rfl, here, none⟩ | ⟨rest, earlier⟩
    · cases here
      exact .inr ⟨none, failure, finishes.phase, handled⟩
    · exact .inl (relays.passes (by simp [phase]) (hears.grown.trans grown) before other rest earlier)
  case stands =>
    unfold Stands
    rw [finishes.phase, (heard.handed_finish _).2]
    refine ⟨.inr hears.listens.subscriptions, fun _ => nofun, nofun, fun other same => .inr ?_⟩
    cases same
    exact ⟨taken, event, rfl, handled⟩

theorem Relays.bar (relays : Relays sent granted run taken refused barred) {event : Event}
    {inbox : List Delivery} (phase : run.phase = .listening false)
    (quiet : run.router.schedule.stopping = false)
    (found : run.router.link.inbox = .event event :: inbox) (stranger : confirms event = false) :
    Relays sent granted
      ((run.receive inbox).finish (.error (.breach (.unexpected "SUBSCRIBED" event.kind)))) taken
      refused (some event) := by
  have stands := relays.stands
  simp only [Stands, phase] at stands
  obtain ⟨guarded, rfl, between, count, before, call, subscribed, described⟩ := stands
  let result : Except Failure Unit := .error (.breach (.unexpected "SUBSCRIBED" event.kind))
  have finishes := (run.receive inbox).finishes_finish result
  obtain ⟨last, added, parting⟩ := finishes.notices
  have bars : ((run.receive inbox).finish result).Bars event := by
    refine ⟨stranger, finishes.phase, ?_, before, call, last, ?_, described, parting⟩
    · have stops : ((run.receive inbox).finish result).router.schedule.monitor =
          .stopped (.ok ()) := by
        rw [finishes.schedule]
        exact congrArg Schedule.monitor (Schedule.stop_of_watching (guarded.quiet quiet))
      unfold result?
      rw [stops, finishes.phase]
      rfl
    · rw [added]
      show run.router.notices ++ last = _
      rw [subscribed, List.append_assoc]
      rfl
  have received : Accounts sent granted (run.receive inbox) taken refused (some event) := by
    refine ⟨?_, relays.granted, relays.present, relays.handed, relays.confirmed⟩
    have tape := relays.tape
    rw [found] at tape
    rw [tape]
    simp [receive]
  refine { received.finish result with passed := ?passed, stands := ?stands }
  case passed =>
    intro before other after same
    have grown := (run.receive inbox).grown_finish result
    exact .inl (relays.passes (by simp [phase]) grown before other after same)
  case stands =>
    unfold Stands
    rw [finishes.phase, (handed_finish _ _).2]
    exact ⟨.inr count, fun _ same => by cases same; exact ⟨between, bars⟩, nofun,
      fun _ _ => .inl rfl⟩

/-- A step takes one delivery at most, and hands on what it takes or ends the run. -/
theorem Relays.steps (relays : Relays sent granted run taken refused barred)
    (steps : Steps run next) :
    ∃ taken refused barred, Relays sent granted next taken refused barred := by
  cases steps with
  | told running stopping => exact ⟨_, _, _, relays.told running stopping⟩
  | subscribed phase quiet answer => exact ⟨_, _, _, relays.subscribe phase answer⟩
  | refused phase quiet answer => exact ⟨_, _, _, relays.refuse phase answer⟩
  | heard phase quiet found allowed answer =>
      exact ⟨_, _, _, relays.hear phase (relays.hears phase found allowed answer)⟩
  | failed phase quiet found allowed answer =>
      exact ⟨_, _, _, relays.fail phase (relays.hears phase found allowed answer)⟩
  | barred phase quiet found stranger => exact ⟨_, _, _, relays.bar phase quiet found stranger⟩
  | disconnected phase quiet found => exact ⟨_, _, _, relays.disconnect phase found⟩
  | lost phase quiet empty gone => simp [relays.present] at gone

theorem Relays.workFor (relays : Relays sent granted run taken refused barred) (fuel : Nat) :
    ∃ taken refused barred, Relays sent granted (run.workFor fuel) taken refused barred := by
  induction fuel generalizing run taken refused barred with
  | zero => exact ⟨_, _, _, relays⟩
  | succ fuel ih =>
      unfold Run.workFor
      cases moved : run.step with
      | none => exact ⟨_, _, _, relays⟩
      | some next =>
          obtain ⟨_, _, _, stepped⟩ := relays.steps (steps_of_step moved)
          exact ih stepped

end Run
end Convoy
