import Convoy.Backoff
import Convoy.Restart

/-!
# Rules of scheduling

What a schedule does with groups whose tasks stopped, and whether groups run one after another.
-/
namespace Convoy

structure Rules where
  restart : Restart := .never
  /-- One group at a time, each after the one before it finished. -/
  sync : Bool := false
  /-- How many relaunches a group has; none is no limit. -/
  maxRestarts : Option UInt32 := none
  /-- The delay before a group is offered again. -/
  backoff : Backoff := .immediate

end Convoy
