import Convoy.Schedule.Queue
import Convoy.Schedule.Roster
import Convoy.Schedule.Rules

/-!
# Schedules

A schedule hands out groups to be launched and takes back those that could not be. With `sync`, a
gate stays closed from the time a group is handed out until it finished, and only the relaunch of a
group goes ahead of it.
-/
namespace Convoy

/-- A relaunch that waits for its time. Those that are due together come in the order in which they
were set. -/
structure Delayed where
  due : Nat
  serial : Nat
  group : TaskGroup

inductive Monitor where
  | idle
  | watching
  | stopped (result : Except Failure Unit)

/-- The groups of a run and where they stand. Times are in milliseconds. -/
structure Schedule where
  rules : Rules
  /-- The number of groups in the run. -/
  total : Nat
  roster : Roster
  /-- Groups to be launched. -/
  pending : Queue
  /-- Relaunches that go ahead of all other groups. -/
  relaunched : Queue
  /-- The group that was handed back, to be handed out next. -/
  held : Option TaskGroup := none
  /-- The last state seen of the group that was handed out; the gate is open at `finished`. -/
  gate : TaskState := .finished
  delayed : List Delayed := []
  stopping : Bool := false
  monitor : Monitor := .idle
  now : Nat := 0
  serials : Nat := 0
  mint : Mint
  draws : Draws := .middle

namespace Schedule

/-- A schedule of groups, each under fresh identities. -/
def start (groups : List TaskGroup) (rules : Rules) (mint : Mint) : Schedule :=
  let (roster, mint) := ({} : Roster).addAll groups mint
  let capacity := max groups.length 1
  { rules := rules
    total := groups.length
    roster := roster
    pending := { capacity := capacity, items := roster.tracked.map (·.group) }
    relaunched := { capacity := capacity }
    mint := mint }

variable (schedule : Schedule)

def pendingSize : Nat :=
  schedule.pending.size + schedule.relaunched.size + if schedule.held.isSome then 1 else 0

def isOpen : Bool :=
  schedule.gate == .finished

/-- The next group of those that are not relaunched: the one held, or the first in the queue. -/
def next? : Option (TaskGroup × Schedule) :=
  match schedule.held with
  | some group => some (group, { schedule with held := none })
  | none =>
    schedule.pending.take?.map fun (group, pending) => (group, { schedule with pending := pending })

/-- Hands out a group, if one may be launched. With `sync` this closes the gate. -/
def pop : Option (TaskGroup × Schedule) :=
  if schedule.rules.sync then
    match schedule.relaunched.take? with
    | some (group, relaunched) =>
      some (group, { schedule with relaunched := relaunched, gate := .starting })
    | none =>
      if schedule.isOpen then
        schedule.next?.map fun (group, schedule) => (group, { schedule with gate := .starting })
      else none
  else schedule.next?

def enqueue (group : TaskGroup) : Schedule × Except Failure Unit :=
  match schedule.pending.push? group with
  | some pending => ({ schedule with pending := pending }, .ok ())
  | none => (schedule, .error (.queueFull "pending"))

/-- Takes back a group that was not launched. With `sync` it is held, so that groups keep their
order, and the gate opens again. -/
def append (group : TaskGroup) : Schedule × Except Failure Unit :=
  if schedule.rules.sync then
    let previous := schedule.held
    let schedule := { schedule with held := some group }
    match previous with
    | none => ({ schedule with gate := .finished }, .ok ())
    | some previous =>
      match schedule.enqueue previous with
      | (schedule, .ok ()) => ({ schedule with gate := .finished }, .ok ())
      | failed => failed
  else schedule.enqueue group

def settle : Schedule :=
  { schedule with pending := schedule.pending.settle, relaunched := schedule.relaunched.settle }

end Schedule
end Convoy
