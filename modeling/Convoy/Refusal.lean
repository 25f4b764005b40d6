import Convoy.Wire.Call

/-!
# Refusal windows

For how long the master is asked to keep back what an answered offer has left over.
-/
namespace Convoy

open Data

/-- The shortest and the longest time, in seconds. -/
structure Refusal where
  shortest : Float
  longest : Float

namespace Refusal

def standard : Refusal where
  shortest := 1.0
  longest := 5.0

def isOpen (refusal : Refusal) : Bool :=
  refusal.longest > refusal.shortest

/-- The time in the window that a share between none and all of its width leads to; a closed window
has only its shortest time. -/
def seconds (refusal : Refusal) (share : Float) : Float :=
  if refusal.isOpen then refusal.shortest + share * (refusal.longest - refusal.shortest)
  else refusal.shortest

def holds (refusal : Refusal) (seconds : Float) : Bool :=
  refusal.shortest ≤ seconds && seconds ≤ refusal.longest

/-- The filters that ask for a time from the window. -/
def filters (refusal : Refusal) (share : Float) : Filters :=
  ⟨refusal.seconds share⟩

def write (refusal : Refusal) : Datum :=
  record
    [field "min_secs" (.float refusal.shortest), field "max_secs" (.float refusal.longest)]

def read : Reader Refusal :=
  readRecord ["min_secs", "max_secs"] fun fields => do
    return { shortest := ← fields.required "min_secs" readFloat
             longest := ← fields.required "max_secs" readFloat }

end Refusal
end Convoy
