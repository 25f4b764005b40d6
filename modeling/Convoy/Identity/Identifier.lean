import Convoy.Identity.Stamp
import Convoy.Text.Blank
import Convoy.Text.Quoted

/-!
# Identifiers

Every party of the protocol is named by an identifier of its own kind, so that a task can never
stand where an offer is expected. An identifier is any text that is not empty, has no blank at
either end and no control character.
-/
namespace Convoy

open Text

inductive IdKind where
  | task | executor | framework | agent | offer | inverseOffer | master
deriving Repr, DecidableEq

inductive IdError where
  | empty
  | blank (text : String)
deriving Repr, DecidableEq

def IdError.message : IdError → String
  | .empty => "ID cannot be empty"
  | .blank text => "invalid ID format: unexpected whitespace in " ++ quoted text

def IdError.isEmpty : IdError → Bool
  | .empty => true
  | .blank _ => false

def isIdentifierText (s : String) : Bool :=
  !s.toList.isEmpty && !hasBlankEdge s && !s.toList.any isControl

/-- The name of one party of a kind. -/
structure Identifier (kind : IdKind) where
  text : String
  wellFormed : isIdentifierText text = true
deriving Repr, DecidableEq

abbrev TaskId := Identifier .task
abbrev ExecutorId := Identifier .executor
abbrev FrameworkId := Identifier .framework
abbrev AgentId := Identifier .agent
abbrev OfferId := Identifier .offer
abbrev InverseOfferId := Identifier .inverseOffer
abbrev MasterId := Identifier .master

namespace Identifier

def parse (kind : IdKind) (s : String) : Except IdError (Identifier kind) :=
  if wellFormed : isIdentifierText s = true then .ok ⟨s, wellFormed⟩
  else if s.toList.isEmpty then .error .empty
  else .error (.blank s)

theorem ext_text {kind : IdKind} {a b : Identifier kind} (same : a.text = b.text) : a = b := by
  cases a; cases b; cases same; rfl

theorem parse_text {kind : IdKind} (id : Identifier kind) : parse kind id.text = .ok id := by
  simp [parse, id.wellFormed]

end Identifier

/-- The word before the stamp of a minted identifier; only tasks and executors are minted. -/
def IdKind.label? : IdKind → Option String
  | .task => some "task"
  | .executor => some "exec"
  | _ => none

/-- Whether an identifier has the form of a minted one of its kind: the label, the first underscore
and a stamp. -/
def Identifier.isMinted {kind : IdKind} (id : Identifier kind) : Bool :=
  match kind.label? with
  | none => false
  | some label =>
    let before := id.text.toList.takeWhile (· != '_')
    let after := id.text.toList.dropWhile (· != '_')
    before == label.toList && isStamp (after.drop 1) && !after.isEmpty

end Convoy
