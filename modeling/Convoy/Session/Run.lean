import Convoy.Profile.Basic
import Convoy.Session.Router

/-!
# Runs

A run subscribes, handles what comes, and subscribes again after a pause when the subscription is
lost. It ends when the watch over the task states stops, or with a failure of its own.
-/
namespace Convoy

inductive Phase where
  | subscribing
  /-- A subscription stands; its first event has to confirm it. -/
  | listening (confirmed : Bool)
  /-- The subscription was lost; the next attempt comes at a time. -/
  | pausing (due serial : Nat)
  | ended (result : Except Failure Unit)

structure Run where
  router : Router
  /-- Whom the run registers. -/
  identity : Framework
  reconnect : Backoff
  teardown : Bool
  /-- How many subscriptions were lost since one was confirmed. -/
  attempt : Nat := 0
  phase : Phase := .subscribing

namespace Run

variable (run : Run)

/-- Whether a failure is the death of a loop. -/
def isCrash : Failure → Bool
  | .crashed _ _ => true
  | _ => false

/-- The result of a run from those of its two loops: a failure goes before a crash, and what the
watch says goes before what the event loop says. -/
def verdict (watch events : Except Failure Unit) : Except Failure Unit :=
  let failures := [watch, events].filterMap fun
    | .ok () => none
    | .error failure => some failure
  match failures.filter (!isCrash ·) ++ failures.filter isCrash with
  | [] => .ok ()
  | failure :: _ => .error failure

/-- The result, once both loops ended. -/
def result? : Option (Except Failure Unit) :=
  match run.router.schedule.monitor, run.phase with
  | .stopped watch, .ended events => some (verdict watch events)
  | _, _ => none

/-- Ends the event loop: the framework is torn down if it is to be, and the watch is stopped. -/
def finish (result : Except Failure Unit) : Run :=
  let router :=
    if run.teardown && run.router.framework.isSome then (run.router.call .teardown).1
    else run.router
  { run with
    router := { router with schedule := router.schedule.stop }
    phase := .ended result }

/-- Goes into the pause after a lost subscription; no pause at all if the delay is none. -/
def lose : Run :=
  let delay := run.reconnect.delay run.attempt (run.router.drawn .pause)
  let run := { run with attempt := run.attempt + 1 }
  if delay = 0 then { run with phase := .subscribing }
  else
    let schedule := run.router.schedule
    { run with
      router := { run.router with schedule := { schedule with serials := schedule.serials + 1 } }
      phase := .pausing (schedule.now + delay) schedule.serials }

def subscribe : Run :=
  match run.router.subscribe run.identity with
  | (router, .ok ()) => { run with router := router, phase := .listening false }
  | (router, .error _) => { run with router := router }.lose

def confirms : Event → Bool
  | .subscribed _ _ _ => true
  | _ => false

def handle (confirmed : Bool) (event : Event) : Run :=
  if confirmed || confirms event then
    let attempt := if confirmed then run.attempt else 0
    let run := { run with attempt := attempt, phase := .listening true }
    match run.router.handle event with
    | (router, .ok ()) => { run with router := router }
    | (router, .error failure) => { run with router := router }.finish (.error failure)
  else run.finish (.error (.breach (.unexpected "SUBSCRIBED" event.kind)))

/-- Takes the next delivery, if there is one. -/
def listen (confirmed : Bool) : Option Run :=
  let link := run.router.link
  match link.inbox with
  | delivery :: inbox =>
    let run := { run with router := { run.router with link := { link with inbox := inbox } } }
    match delivery with
    | .event event => some (run.handle confirmed event)
    | .disconnect _ => some run.lose
  | [] => if link.gone then some run.lose else none

/-- The next thing that the event loop does, if it has anything to do now. -/
def step : Option Run :=
  match run.phase with
  | .ended _ => none
  | .subscribing =>
    if run.router.schedule.stopping then some (run.finish (.ok ())) else some run.subscribe
  | .listening confirmed =>
    if run.router.schedule.stopping then some (run.finish (.ok ())) else run.listen confirmed
  | .pausing _ _ => if run.router.schedule.stopping then some (run.finish (.ok ())) else none

/-- Does what can be done now, in a number of steps at most. -/
def workFor (run : Run) : Nat → Run
  | 0 => run
  | fuel + 1 =>
    match run.step with
    | some next => workFor next fuel
    | none => run

/-- The number of steps after which nothing is left to do: every delivery and every refusal makes
two at most. Only a run that pauses never and whose master is gone has more to do at any time. -/
def workload : Nat :=
  2 * run.router.link.inbox.length + 2 * run.router.link.refusals + 4

def work : Run :=
  let run := run.workFor run.workload
  { run with router := { run.router with schedule := run.router.schedule.settle } }

/-- The run of a profile on groups, with what the mint hands out and what is drawn; the watch starts
first. -/
def start (profile : Profile) (groups : List TaskGroup) (mint : Mint) (draws : Draws) : Run :=
  let groups := groups.map (·.inRole profile.registration.role)
  let schedule := { Schedule.start groups profile.rules mint with draws := draws }
  work
    { router := { schedule := schedule.watch, refusal := profile.refusal }
      identity := profile.framework
      reconnect := profile.reconnectBackoff
      teardown := profile.teardown }

def onLink (change : Link → Link) : Run :=
  work { run with router := { run.router with link := change run.router.link } }

def arriveAll (delayed : List Delayed) : Run :=
  let schedule :=
    delayed.foldl (fun schedule delayed => schedule.arrive delayed.group) run.router.schedule
  { run with router := { run.router with schedule := schedule } }

/-- Lets time pass. What becomes due happens in the order of its times; the relaunches due after the
next subscription are back once the run has to wait for something. -/
def advance (milliseconds : Nat) : Run :=
  let schedule := run.router.schedule.pass milliseconds
  let due := schedule.due
  let run := { run with router := { run.router with schedule := schedule.dropDue } }
  match run.phase with
  | .pausing time serial =>
    if time ≤ schedule.now then
      let isEarlier (delayed : Delayed) : Bool :=
        decide (delayed.due < time ∨ delayed.due = time ∧ delayed.serial < serial)
      let run := run.arriveAll (due.filter isEarlier)
      let schedule := run.router.schedule.settle
      let run := { run with router := { run.router with schedule := schedule } }
      work { run.arriveAll (due.filter (!isEarlier ·)) with phase := .subscribing }
    else (run.arriveAll due).work
  | _ => (run.arriveAll due).work

end Run
end Convoy
