import Convoy.Data.Decode

/-!
# Identifiers on the wire

An identifier travels as a record with the single field `value`.
-/
namespace Convoy

open Data

namespace Identifier

variable {kind : IdKind}

def write (id : Identifier kind) : Datum :=
  record [field "value" (.text id.text)]

def read : Reader (Identifier kind) :=
  readRecord ["value"] fun fields => do
    let text ← fields.required "value" readText
    match Identifier.parse kind text with
    | .ok id => pure id
    | .error reason => throw (.badIdentifier reason)

end Identifier
end Convoy
