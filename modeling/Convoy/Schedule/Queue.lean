import Convoy.TaskGroup

/-!
# Queues

A queue holds a bounded number of groups, first in, first out. A group that comes back after a delay
waits outside while there is no room. A place that falls free is kept for the first that waits; it
enters when the queue settles.
-/
namespace Convoy

/-- A group that enters when the queue settles. A place may be kept for it. -/
structure Entrant where
  group : TaskGroup
  admitted : Bool

structure Queue where
  capacity : Nat
  items : List TaskGroup := []
  entering : List Entrant := []
  waiting : List TaskGroup := []

namespace Queue

/-- The number of groups that can be taken. -/
def size (queue : Queue) : Nat :=
  queue.items.length

/-- The number of places that are taken or kept. -/
def load (queue : Queue) : Nat :=
  queue.items.length + queue.entering.countP (·.admitted)

def hasRoom (queue : Queue) : Bool :=
  decide (queue.load < queue.capacity)

def push? (queue : Queue) (group : TaskGroup) : Option Queue :=
  if queue.hasRoom then some { queue with items := queue.items ++ [group] } else none

def take? (queue : Queue) : Option (TaskGroup × Queue) :=
  match queue.items, queue.waiting with
  | [], _ => none
  | group :: items, [] => some (group, { queue with items := items })
  | group :: items, next :: waiting =>
    some (group,
      { queue with
        items := items, entering := queue.entering ++ [⟨next, true⟩], waiting := waiting })

/-- The queue with a group that comes back. -/
def await (queue : Queue) (group : TaskGroup) : Queue :=
  { queue with entering := queue.entering ++ [⟨group, false⟩] }

/-- The queue after entrants took their places, in order; who finds none waits. -/
def enter (queue : Queue) : List Entrant → Queue
  | [] => { queue with entering := [] }
  | entrant :: rest =>
    let queue := { queue with entering := rest }
    if entrant.admitted || queue.hasRoom then
      enter { queue with items := queue.items ++ [entrant.group] } rest
    else enter { queue with waiting := queue.waiting ++ [entrant.group] } rest

/-- The queue after everyone entered who can. -/
def settle (queue : Queue) : Queue :=
  queue.enter queue.entering

def groups (queue : Queue) : List TaskGroup :=
  queue.items ++ queue.entering.map (·.group) ++ queue.waiting

theorem items_push? {queue after : Queue} {group : TaskGroup}
    (pushed : queue.push? group = some after) : after.items = queue.items ++ [group] := by
  unfold push? at pushed
  split at pushed
  · cases pushed; rfl
  · contradiction

theorem items_take? {queue after : Queue} {group : TaskGroup}
    (taken : queue.take? = some (group, after)) : queue.items = group :: after.items := by
  unfold take? at taken
  split at taken
  · contradiction
  · rename_i found _
    cases taken
    exact found
  · rename_i found _
    cases taken
    exact found

end Queue
end Convoy
