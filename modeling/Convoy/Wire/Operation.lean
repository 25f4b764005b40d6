import Convoy.Wire.Task

/-!
# Offer operations

What a framework does with an offer: launch tasks on their own, or a group of tasks under one
executor.
-/
namespace Convoy

open Data

inductive Operation where
  | launch (tasks : List Task)
  | launchGroup (executor : Executor) (tasks : List Task)

namespace Operation

def kind : Operation → String
  | .launch _ => "LAUNCH"
  | .launchGroup _ _ => "LAUNCH_GROUP"

def tasks : Operation → List Task
  | .launch tasks => tasks
  | .launchGroup _ tasks => tasks

def write : Operation → Datum
  | .launch tasks =>
    record
      [field "type" (.text "LAUNCH"),
       field "launch" (record [field "task_infos" (listOf Task.write tasks)])]
  | .launchGroup executor tasks =>
    record
      [field "type" (.text "LAUNCH_GROUP"),
       field "launch_group"
         (record
           [field "executor" executor.write,
            field "task_group" (record [field "tasks" (listOf Task.write tasks)])])]

def readLaunch : Reader Operation :=
  readRecord ["task_infos"] fun fields => do
    return .launch (← fields.required "task_infos" (readList Task.read))

def readLaunchGroup : Reader Operation :=
  readRecord ["executor", "task_group"] fun fields => do
    return .launchGroup (← fields.required "executor" Executor.read)
      (← fields.required "task_group"
        (readRecord ["tasks"] fun fields => fields.required "tasks" (readList Task.read)))

/-- The tags of the operations, by name and by position. -/
def names : List String := ["LAUNCH", "LAUNCH_GROUP"]

def read : Reader Operation := fun datum => do
  let (tag, rest) ← readTagged datum
  match ← tag.resolve names with
  | some "LAUNCH" => held (readPayload "launch" readLaunch) rest
  | some "LAUNCH_GROUP" => held (readPayload "launch_group" readLaunchGroup) rest
  | _ => throw (.mismatch "operation")

end Operation
end Convoy
