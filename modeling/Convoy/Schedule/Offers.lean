import Convoy.Schedule.Basic
import Convoy.Wire.Event

/-!
# Matching offers

An offer is matched first-fit: every group that waits is looked at once, and is launched if what the
offer has left holds all that the group requires.
-/
namespace Convoy

/-- What became of an offer: the launches on it, and what is left. -/
structure Match where
  operations : List Operation := []
  remaining : Ledger

namespace Match

def fits (found : Match) (group : TaskGroup) : Bool :=
  found.remaining.contains group.requirement

/-- The match with one more launch, on an agent and for a framework. -/
def launch (found : Match) (group : TaskGroup) (agent : AgentId) (framework : FrameworkId) :
    Match where
  operations := found.operations ++ [((group.onAgent agent).ofFramework framework).launch]
  remaining := found.remaining.subtract group.requirement

end Match

namespace Schedule

/-- Looks at a number of groups: each is launched or handed back. -/
def matchNext (schedule : Schedule) (agent : AgentId) (framework : FrameworkId) :
    Nat → Match → Schedule × Except Failure Match
  | 0, found => (schedule, .ok found)
  | count + 1, found =>
    match schedule.pop with
    | none => (schedule, .ok found)
    | some (group, schedule) =>
      if found.fits group then
        schedule.matchNext agent framework count (found.launch group agent framework)
      else
        match schedule.append group with
        | (schedule, .ok ()) => schedule.matchNext agent framework count found
        | (schedule, .error failure) => (schedule, .error failure)

def matchOffer (schedule : Schedule) (offer : Offer) (framework : FrameworkId) :
    Schedule × Except Failure Match :=
  schedule.matchNext offer.agent framework schedule.pendingSize
    { remaining := Ledger.ofResources offer.resources }

end Schedule
end Convoy
