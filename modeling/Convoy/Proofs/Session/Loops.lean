import Convoy.Proofs.Schedule.Account
import Convoy.Session.Run

/-!
# A run as two loops

The event loop and the watch run side by side and share a flag that tells both to stop. Here they
move one at a time and in any order, and so does everything else: the master does to the link
whatever it likes, time passes, relaunches come back, and either loop may die. Only the loops and
those who wait for their ends raise the flag.
-/
namespace Convoy

inductive Server where
  | looking
  | subscribing
  | listening (confirmed : Bool)
  | answering (framework : FrameworkId) (offers : List Offer)
  /-- An offer was matched, and its acceptance is to be sent before the rest is answered. -/
  | accepting (framework : FrameworkId) (accept : Call) (offers : List Offer)
  | acknowledging (status : Status)
  /-- A report is to be handed over, whatever became of its acknowledgement. -/
  | acknowledged (status : Status) (result : Except LinkFailure Unit)
  /-- A report lies with the watch. -/
  | handing (acknowledged : Except LinkFailure Unit)
  | pausing (due : Nat)
  /-- The loop has its result, and the framework is yet to be torn down. -/
  | closing (result : Except Failure Unit)
  | ending (result : Except Failure Unit)
  | left (result : Except Failure Unit)
  | died (message : String)

inductive Watcher where
  | looking
  | waiting
  /-- The watch has its result, and the flag is yet to be raised. -/
  | leaving (result : Except Failure Unit)
  | left (result : Except Failure Unit)
  | died (message : String)
deriving DecidableEq

namespace Server

/-- Whether the loop is at work and can still be told to stop. -/
def isOpen : Server → Bool
  | .closing _ | .ending _ | .left _ | .died _ => false
  | _ => true

def hasEnded : Server → Bool
  | .left _ | .died _ => true
  | _ => false

def result? : Server → Option (Except Failure Unit)
  | .closing result | .ending result | .left result => some result
  | .died message => some (.error (.crashed "event loop" message))
  | _ => none

end Server

namespace Watcher

def hasEnded : Watcher → Bool
  | .left _ | .died _ => true
  | _ => false

def result? : Watcher → Option (Except Failure Unit)
  | .leaving result | .left result => some result
  | .died message => some (.error (.crashed "monitor" message))
  | _ => none

end Watcher

def Call.asked (call : Call) : List TaskId :=
  match call.body with
  | .accept _ operations _ => operations.flatMap Operation.taskIds
  | _ => []

/-- The tasks that the master was asked to launch, if only by a call that failed. -/
def Router.told (router : Router) : List TaskId :=
  router.notices.flatMap fun
    | .call call => call.asked
    | .event _ => []

structure Loops where
  router : Router
  identity : Framework
  reconnect : Backoff
  teardown : Bool
  attempt : Nat := 0
  server : Server := .looking
  watcher : Watcher := .looking
  /-- The report that the event loop handed over and the watch did not take yet. -/
  box : Option Status := none
  serverJoined : Bool := false
  watcherJoined : Bool := false
  /-- The reports that the watch took, each with the router as it was then. -/
  taken : List (Router × Status) := []

namespace Loops

variable (loops : Loops)

def schedule : Schedule := loops.router.schedule

def stopping : Bool := loops.router.schedule.stopping

def withSchedule (schedule : Schedule) : Loops :=
  { loops with router := { loops.router with schedule := schedule } }

def raise : Loops :=
  loops.withSchedule { loops.schedule with stopping := true }

/-- The loop goes into the pause after a lost subscription; no pause at all if the delay is none. -/
def lose : Loops :=
  let delay := loops.reconnect.delay loops.attempt (loops.router.drawn .pause)
  let loops := { loops with attempt := loops.attempt + 1 }
  if delay = 0 then { loops with server := .looking }
  else
    { loops.withSchedule { loops.schedule with serials := loops.schedule.serials + 1 } with
      server := .pausing (loops.schedule.now + delay) }

def fail (failure : Failure) : Loops :=
  { loops with server := .closing (.error failure) }

def follow (answer : Router × Except LinkFailure Unit) (server : Server) : Loops :=
  match answer with
  | (router, .ok ()) => { loops with router := router, server := server }
  | (router, .error failure) => { loops with router := router }.fail (.link failure)

/-- Starts on an event. Offers and reports take several steps. -/
def hear (confirmed : Bool) (event : Event) : Loops :=
  if confirmed || Run.confirms event then
    let loops := { loops with attempt := if confirmed then loops.attempt else 0 }
    match event, loops.router.framework with
    | .offers offers, some framework =>
      { loops with
        router := loops.router.notice (.event event), server := .answering framework offers }
    | .update status, _ =>
      { loops with router := loops.router.notice (.event event), server := .acknowledging status }
    | event, _ =>
      match loops.router.handle event with
      | (router, .ok ()) => { loops with router := router, server := .listening true }
      | (router, .error failure) => { loops with router := router }.fail failure
  else loops.fail (.breach (.unexpected "SUBSCRIBED" event.kind))

def listen (confirmed : Bool) : Option Loops :=
  let link := loops.router.link
  match link.inbox with
  | delivery :: inbox =>
    let loops := { loops with router := { loops.router with link := { link with inbox := inbox } } }
    match delivery with
    | .event event => some (loops.hear confirmed event)
    | .disconnect _ => some loops.lose
  | [] => if link.gone then some loops.lose else none

def answer (framework : FrameworkId) : List Offer → Loops
  | [] => { loops with server := .listening true }
  | offer :: rest =>
    match loops.schedule.matchOffer offer framework with
    | (schedule, .error failure) => (loops.withSchedule schedule).fail failure
    | (schedule, .ok found) =>
      let accept := Call.accept [offer.id] found.operations loops.router.filters
      { loops.withSchedule schedule with server := .accepting framework accept rest }

def serve : Option Loops :=
  match loops.server with
  | .looking =>
    some { loops with server := if loops.stopping then .closing (.ok ()) else .subscribing }
  | .subscribing =>
    match loops.router.subscribe loops.identity with
    | (router, .ok ()) => some { loops with router := router, server := .listening false }
    | (router, .error _) => some { loops with router := router }.lose
  | .listening confirmed => loops.listen confirmed
  | .answering framework offers => some (loops.answer framework offers)
  | .accepting framework accept offers =>
    some (loops.follow (loops.router.call accept) (.answering framework offers))
  | .acknowledging status =>
    let (router, result) := loops.router.acknowledge status
    some { loops with router := router, server := .acknowledged status result }
  | .acknowledged status result =>
    some { loops with server := .handing result, box := some status }
  | .handing acknowledged =>
    if loops.box.isNone || loops.watcher.hasEnded then
      some ({ loops with box := none }.follow (loops.router, acknowledged) (.listening true))
    else none
  | .pausing due => if due ≤ loops.schedule.now then some { loops with server := .looking } else none
  | .closing result =>
    let router :=
      if loops.teardown && loops.router.framework.isSome then (loops.router.call .teardown).1
      else loops.router
    some { loops with router := router, server := .ending result }
  | .ending result => some { loops.raise with server := .left result }
  | .left _ | .died _ => none

def watch : Option Loops :=
  match loops.watcher with
  | .looking =>
    some { loops with
      watcher :=
        if loops.schedule.roster.finished || loops.stopping then .leaving (.ok ()) else .waiting }
  | .leaving result =>
    some { loops.withSchedule (loops.schedule.stopWith result) with watcher := .left result }
  | _ => none

def take (status : Status) : Loops :=
  let (schedule, result) := loops.schedule.apply status
  { loops.withSchedule schedule with
    box := none
    taken := loops.taken ++ [(loops.router, status)]
    watcher :=
      match result with
      | .ok () => .looking
      | .error failure => .leaving (.error failure) }

end Loops

inductive Move where
  | serve
  /-- Whatever the event loop waits for, it gives up when it sees the flag. -/
  | cancel
  | serverDies (message : String)
  | watch
  | take
  | wake
  /-- The watch finds that nobody is left to hand over reports. -/
  | hangUp
  | watcherDies (message : String)
  | joinServer
  | joinWatcher
  | link (change : Link → Link)
  | pass (milliseconds : Nat)
  | comeBack (position : Nat)
  | settle

namespace Loops

variable (loops : Loops)

/-- Makes a move. Nothing happens where it is not possible. -/
def move : Move → Loops
  | .serve => loops.serve.getD loops
  | .cancel =>
    if loops.server.isOpen && loops.stopping then { loops with server := .closing (.ok ()) }
    else loops
  | .serverDies message =>
    if loops.server.hasEnded then loops else { loops with server := .died message }
  | .watch => loops.watch.getD loops
  | .take =>
    match loops.watcher, loops.box with
    | .waiting, some status => loops.take status
    | _, _ => loops
  | .wake =>
    match loops.watcher with
    | .waiting => if loops.stopping then { loops with watcher := .looking } else loops
    | _ => loops
  | .hangUp =>
    match loops.watcher, loops.box with
    | .waiting, none =>
      if loops.server.hasEnded then { loops with watcher := .leaving (.ok ()) } else loops
    | _, _ => loops
  | .watcherDies message =>
    if loops.watcher.hasEnded then loops else { loops with watcher := .died message }
  | .joinServer =>
    if loops.server.hasEnded then { loops.raise with serverJoined := true } else loops
  | .joinWatcher =>
    if loops.watcher.hasEnded then { loops.raise with watcherJoined := true } else loops
  | .link change =>
    { loops with router := { loops.router with link := change loops.router.link } }
  | .pass milliseconds => loops.withSchedule (loops.schedule.pass milliseconds)
  | .comeBack position => loops.withSchedule (loops.schedule.comeBack position)
  | .settle => loops.withSchedule loops.schedule.settle

def play (moves : List Move) : Loops :=
  moves.foldl move loops

theorem play_append (first second : List Move) :
    loops.play (first ++ second) = (loops.play first).play second :=
  List.foldl_append

/-- The result of the run, once both ends were awaited. -/
def result? : Option (Except Failure Unit) :=
  if loops.serverJoined && loops.watcherJoined then
    match loops.watcher.result?, loops.server.result? with
    | some watch, some events => some (Run.verdict watch events)
    | _, _ => none
  else none

/-- The two loops as a run of a profile on groups starts them. -/
def start (profile : Profile) (groups : List TaskGroup) (mint : Mint) (draws : Draws) :
    Loops where
  router :=
    { schedule :=
        { Schedule.start (groups.map (·.inRole profile.registration.role)) profile.rules mint with
          monitor := .watching
          draws := draws }
      refusal := profile.refusal }
  identity := profile.framework
  reconnect := profile.reconnectBackoff
  teardown := profile.teardown

/-- The reports on live tasks that the watch took without a failure. -/
def heard : List Status :=
  loops.taken.flatMap fun entry =>
    if entry.1.schedule.takes entry.2 then [entry.2] else []

/-- Every report was on a task that the master had been asked to launch, or on one that was not
live. The identities of all others are not known to it. -/
def Fair : Prop :=
  ∀ entry ∈ loops.taken,
    entry.2.task ∈ entry.1.told ∨ entry.1.schedule.roster.owner? entry.2.task = none

instance : Decidable loops.Fair :=
  inferInstanceAs (Decidable (∀ entry ∈ loops.taken,
    entry.2.task ∈ entry.1.told ∨ entry.1.schedule.roster.owner? entry.2.task = none))

end Loops
end Convoy
