import Convoy.Json.Writer
import Convoy.Session.Router

/-!
# The journal

What is written down of the calls and events that pass through. A full journal holds them whole; a
brief one holds a summary by type.
-/
namespace Convoy

inductive JournalLevel where
  | error
  | info
  | debug
deriving Repr, DecidableEq

namespace JournalLevel

def name : JournalLevel → String
  | .error => "ERROR"
  | .info => "INFO"
  | .debug => "DEBUG"

def ofWord? : String → Option JournalLevel
  | "error" => some .error
  | "info" => some .info
  | "debug" => some .debug
  | _ => none

end JournalLevel

structure JournalEntry where
  level : JournalLevel
  message : String
  fields : List (String × String)

namespace Notice

/-- What a summary of operations says: `LAUNCH_GROUP[web,sidecar] LAUNCH[batch]`. -/
def operationsSummary (operations : List Operation) : String :=
  String.intercalate " " (operations.map fun operation =>
    operation.kind ++ "[" ++ String.intercalate "," (operation.tasks.map (·.name)) ++ "]")

def message : Notice → String
  | .call _ => "CALL"
  | .event _ => "EVENT"

def kind : Notice → String
  | .call sent => sent.kind
  | .event received => received.kind

def whole : Notice → String × String
  | .call sent => ("call", Json.compact sent.write)
  | .event received => ("event", Json.compact received.write)

def summary : Notice → List (String × String)
  | .call sent =>
    match sent.body with
    | .subscribe framework =>
      [("framework", framework.name), ("user", framework.user), ("role", framework.role)]
    | .accept offers operations _ =>
      [("operations", operationsSummary operations),
       ("offers", String.intercalate "," (offers.map (·.text)))]
    | _ => []
  | .event received =>
    match received with
    | .subscribed framework _ master =>
      [("master", (master.map (·.endpoint)).getD ""), ("framework_id", framework.text)]
    | .update status =>
      [("state", status.state.name), ("status_message", status.messageText)]
    | _ => []

/-- What a journal of a level holds of a notice. -/
def entry? (level : JournalLevel) (notice : Notice) : Option JournalEntry :=
  let fields := match level with
    | .error => none
    | .info => some notice.summary
    | .debug => some [notice.whole]
  fields.map fun fields =>
    { level := level, message := notice.message, fields := ("kind", notice.kind) :: fields }

end Notice
end Convoy
