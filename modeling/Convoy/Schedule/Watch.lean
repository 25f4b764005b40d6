import Convoy.Schedule.Basic

/-!
# The watch over task states

Status reports reach the schedule one by one. A report may start a group again, end the run, or just
be recorded. The watch stops when every task finished, when a report ends the run, or when it is
told to.
-/
namespace Convoy.Schedule

variable (schedule : Schedule)

/-- Records what a task of the group at an index reported. The gate follows the reports, but those
for a group that had finished before leave it alone. -/
def record (index : Nat) (task : TaskId) (state : TaskState) : Schedule :=
  let roster := schedule.roster.report task state
  let gate :=
    if schedule.roster.groupFinished index then schedule.gate
    else if roster.groupFinished index then .finished
    else if state ≠ .finished then state
    else schedule.gate
  { schedule with roster := roster, gate := gate }

/-- The schedule in which a group comes back after a delay. -/
def delay (milliseconds : Nat) (group : TaskGroup) : Schedule :=
  let delayed : Delayed :=
    { due := schedule.now + milliseconds, serial := schedule.serials, group := group }
  { schedule with delayed := schedule.delayed ++ [delayed], serials := schedule.serials + 1 }

/-- Puts a relaunched group into its queue: at once if the delay is none. -/
def requeue (group : TaskGroup) (milliseconds : Nat) : Schedule × Except Failure Unit :=
  if milliseconds ≠ 0 then (schedule.delay milliseconds group, .ok ())
  else if schedule.rules.sync then
    match schedule.relaunched.push? group with
    | some relaunched => ({ schedule with relaunched := relaunched }, .ok ())
    | none => (schedule, .error (.queueFull "pending"))
  else schedule.enqueue group

def isSpent (restarts : Nat) : Bool :=
  match schedule.rules.maxRestarts with
  | some limit => decide (limit.toNat ≤ restarts)
  | none => false

/-- Starts the group at an index again, under fresh identities, because of a report. What `pause`
gives is the delay before a relaunch, by the number of relaunches before it. -/
def restart (pause : Nat → Nat) (index : Nat) (tracked : Tracked) (status : Status) :
    Schedule × Except Failure Unit :=
  if schedule.isSpent tracked.restarts then
    (schedule, .error (.restartLimit status.task status.state tracked.restarts))
  else
    let (next, roster, mint) := schedule.roster.relaunch index tracked schedule.mint
    let gate := if schedule.rules.sync then .starting else schedule.gate
    let schedule := { schedule with roster := roster, mint := mint, gate := gate }
    schedule.requeue next.group (pause tracked.restarts)

/-- Applies a report, under given delays before relaunches. Reports for tasks that are not live say
nothing. -/
def applyWith (pause : Nat → Nat) (status : Status) : Schedule × Except Failure Unit :=
  match schedule.roster.owner? status.task with
  | none => (schedule, .ok ())
  | some index =>
    let outcome := status.state.outcome
    if schedule.rules.restart.restarts outcome then
      match schedule.roster.tracked[index]? with
      | some tracked => schedule.restart pause index tracked status
      | none => (schedule, .ok ())
    else if outcome = .failed then
      (schedule, .error (.terminal status.task status.state status.messageText))
    else (schedule.record index status.task status.state, .ok ())

/-- The delay before a relaunch by the rules, by the number of relaunches before it. -/
def pause (restarts : Nat) : Nat :=
  schedule.rules.backoff.delay restarts (schedule.draws (.relaunch schedule.mint.issued))

/-- Applies a report, under the delays of the rules. -/
def apply (status : Status) : Schedule × Except Failure Unit :=
  schedule.applyWith schedule.pause status

/-- Stops the watch with a result; everything else stops with it. -/
def stopWith (result : Except Failure Unit) : Schedule :=
  { schedule with monitor := .stopped result, stopping := true }

/-- What the watch does between reports: it stops if all tasks finished or if it is told to. -/
def check : Schedule :=
  match schedule.monitor with
  | .watching =>
    if schedule.roster.finished || schedule.stopping then schedule.stopWith (.ok ()) else schedule
  | _ => schedule

def watch : Schedule :=
  match schedule.monitor with
  | .idle => { schedule with monitor := .watching }.check
  | _ => schedule

/-- Hands a report to the watch; after its end reports are dropped. -/
def update (status : Status) : Schedule :=
  let schedule := schedule.settle
  match schedule.monitor with
  | .watching =>
    match schedule.apply status with
    | (schedule, .ok ()) => schedule.check
    | (schedule, .error failure) => schedule.stopWith (.error failure)
  | _ => schedule

def stop : Schedule :=
  { schedule with stopping := true }.check

/-- Sorts a relaunch into those that come after the ones due before it. -/
def insertDelayed (delayed : Delayed) : List Delayed → List Delayed
  | [] => [delayed]
  | first :: rest =>
    if delayed.due < first.due ∨ delayed.due = first.due ∧ delayed.serial < first.serial then
      delayed :: first :: rest
    else first :: insertDelayed delayed rest

/-- The relaunches that are due, in the order in which they come. -/
def due : List Delayed :=
  let due := schedule.delayed.filter fun delayed => decide (delayed.due ≤ schedule.now)
  due.foldr insertDelayed []

/-- The schedule in which a group is back before its queue. -/
def arrive (group : TaskGroup) : Schedule :=
  if schedule.rules.sync then { schedule with relaunched := schedule.relaunched.await group }
  else { schedule with pending := schedule.pending.await group }

def pass (milliseconds : Nat) : Schedule :=
  { schedule with now := schedule.now + milliseconds }

/-- Forgets the relaunches that are due, for they came back. -/
def dropDue : Schedule :=
  { schedule with
    delayed := schedule.delayed.filter fun delayed => decide (schedule.now < delayed.due) }

/-- Lets time pass; what becomes due comes back to its queue. -/
def advance (milliseconds : Nat) : Schedule :=
  let schedule := schedule.pass milliseconds
  (schedule.due.foldl (fun schedule delayed => schedule.arrive delayed.group)
    schedule.dropDue).settle

end Convoy.Schedule
