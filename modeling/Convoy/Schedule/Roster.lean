import Convoy.Data.Table
import Convoy.TaskGroup

/-!
# Rosters

A roster knows every group of a run under its present identities, whose task is whose, and the last
state that each task reported. A relaunch strikes the old tasks and enrolls new ones.
-/
namespace Convoy

open Data

/-- A group of a run under its present identities. -/
structure Tracked where
  group : TaskGroup
  restarts : Nat := 0

/-- The groups of a run, by index, and its live tasks. -/
structure Roster where
  tracked : List Tracked := []
  owners : Table Nat := .empty
  states : Table TaskState := .empty

namespace Roster

/-- The index of the group that a live task belongs to. -/
def owner? (roster : Roster) (task : TaskId) : Option Nat :=
  roster.owners.get? task.text

def state? (roster : Roster) (task : TaskId) : Option TaskState :=
  roster.states.get? task.text

/-- Enrolls the tasks of the group at an index; they are starting. -/
def enroll (roster : Roster) (index : Nat) : List TaskId → Roster
  | [] => roster
  | task :: rest =>
    enroll
      { roster with
        owners := roster.owners.put task.text index
        states := roster.states.put task.text .starting } index rest

def strike (roster : Roster) : List TaskId → Roster
  | [] => roster
  | task :: rest =>
    strike
      { roster with
        owners := roster.owners.erase task.text
        states := roster.states.erase task.text } rest

def addAll (roster : Roster) : List TaskGroup → Mint → Roster × Mint
  | [], mint => (roster, mint)
  | group :: rest, mint =>
    let (group, mint) := group.renew mint
    let index := roster.tracked.length
    let added : Tracked := { group := group }
    let roster := { roster with tracked := roster.tracked ++ [added] }
    addAll (roster.enroll index group.taskIds) rest mint

/-- Puts the group at an index under fresh identities, once more than before. -/
def relaunch (roster : Roster) (index : Nat) (old : Tracked) (mint : Mint) :
    Tracked × Roster × Mint :=
  let (group, mint) := old.group.renew mint
  let next : Tracked := { group := group, restarts := old.restarts + 1 }
  let roster := roster.strike old.group.taskIds
  let roster := { roster with tracked := roster.tracked.set index next }
  (next, roster.enroll index group.taskIds, mint)

def report (roster : Roster) (task : TaskId) (state : TaskState) : Roster :=
  { roster with states := roster.states.put task.text state }

def groupFinished (roster : Roster) (index : Nat) : Bool :=
  match roster.tracked[index]? with
  | some tracked =>
    tracked.group.taskIds.all fun task => roster.state? task == some .finished
  | none => false

def finished (roster : Roster) : Bool :=
  roster.states.entries.all fun entry => entry.2 == .finished

end Roster
end Convoy
