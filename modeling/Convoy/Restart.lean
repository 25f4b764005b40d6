import Convoy.Wire.Status
import Convoy.Text.Quoted
import Convoy.Text.Blank

/-!
# Restart policies

Whether a group is launched again after one of its tasks stopped.
-/
namespace Convoy

open Data Text

/-- When a stopped task makes its group start again. -/
inductive Restart where
  | never
  /-- After a failure; a task that finished stays finished. -/
  | onFailure
  | always
deriving Repr, DecidableEq

namespace Restart

def restarts : Restart → Outcome → Bool
  | _, .active => false
  | .never, _ => false
  | .onFailure, outcome => outcome == .failed
  | .always, _ => true

def name : Restart → String
  | .never => "never"
  | .onFailure => "on_failure"
  | .always => "always"

def names : List (String × Restart) :=
  [("never", .never), ("on_failure", .onFailure), ("always", .always)]

def write (restart : Restart) : Datum := .text restart.name

/-- Reads a policy by name or from a flag: `true` is `always`, `false` is `never`. -/
def read : Reader Restart
  | .bool true => pure .always
  | .bool false => pure .never
  | datum => fun _ => readName names datum .direct

/-- Reads a policy that a person typed, in any case; absent for a word that names none. -/
def ofWord? (word : String) : Option Restart :=
  match lowerAscii word with
  | "never" | "false" | "no" => some .never
  | "on_failure" | "on-failure" => some .onFailure
  | "always" | "true" | "yes" => some .always
  | _ => none

def unknownWord (word : String) : String :=
  "unknown restart policy " ++ quoted (lowerAscii word)

end Restart
end Convoy
