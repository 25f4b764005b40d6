import Convoy.GroupFile
import Convoy.Json.Writer
import Convoy.Text.Grid

/-!
# Plans

A plan shows how groups would be launched: the operations themselves, or a table with a row for each
group and the quantities that an offer has to hold for it.
-/
namespace Convoy

open Data Text

structure Plan where
  groups : List TaskGroup

namespace Plan

/-- The plan of groups in a role, all of them run by Docker if asked for. -/
def ofGroups (groups : List TaskGroup) (docker : Bool) (role : String) : Plan where
  groups := groups.map fun group => (if docker then group.inDocker else group).inRole role

variable (plan : Plan)

def operations : List Operation :=
  plan.groups.map (·.launch)

def data : String :=
  Json.pretty (listOf Operation.write plan.operations)

/-- How much of a quantity a ledger holds; none if it does not name it. -/
def quantity (ledger : Ledger) (name : String) : String :=
  Decimal.plain ((ledger.scalar? name).getD 0.0)

def row (index : Nat) (group : TaskGroup) : List String :=
  let required := group.requirement
  [Decimal.integerText index, group.name,
   if group.usesExecutor then group.executor.id.text else "-",
   quantity required "cpus", quantity required "mem", quantity required "disk",
   match required.ranges.get? "ports" with
   | some ports => ports.text
   | none => "-",
   group.launch.kind]

def heading : List String :=
  ["GROUP", "TASKS", "EXECUTOR", "CPUS", "MEM", "DISK", "PORTS", "OPERATION"]

/-- The rows of groups, from an index on. -/
def rowsFrom (index : Nat) : List TaskGroup → List (List String)
  | [] => []
  | group :: rest => row index group :: rowsFrom (index + 1) rest

def table : String :=
  if plan.groups.isEmpty then "No task groups."
  else Grid.render { heading := heading, rows := rowsFrom 0 plan.groups }

end Plan
end Convoy
