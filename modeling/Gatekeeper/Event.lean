import Gatekeeper.Log.Record

/-!
# The audit trail

What a gate tells the log: that it was loaded or why it could not be, and each decision it makes. No
event holds the authorized number but as its mask.

Each event has the severity, the name and the message it is told under (`Event.record` puts them
together), and its own fields. A path is told as it was given.
-/

namespace Gatekeeper

/-- Something that happened to a gate. -/
inductive Event where
  | loaded (path : String)
  | notFound (path : String)
  | notJson (path reason : String)
  | noNumber (path reason : String)
  | notRead (path reason : String)
  | emptyNumber (candidate : Option String)
  | authorized (candidate : String)
  | unauthorized (candidate masked : String)
deriving DecidableEq

namespace Event

/-- How grave an event is. -/
def severity : Event → Log.Severity
  | loaded _ => .debug
  | notFound _ | notJson _ _ | noNumber _ _ | notRead _ _ => .error
  | emptyNumber _ | unauthorized _ _ => .warn
  | authorized _ => .info

/-- The name by which a kind of event is searched for. -/
def name : Event → String
  | loaded _ => "authorized_number_loaded"
  | notFound _ => "config_file_not_found"
  | notJson _ _ => "config_invalid_json"
  | noNumber _ _ => "config_invalid_authorized_number"
  | notRead _ _ => "config_read_failed"
  | emptyNumber _ => "auth_failed_empty_number"
  | authorized _ => "auth_success"
  | unauthorized _ _ => "auth_failed_unauthorized"

/-- What an event says to people. -/
def message : Event → String
  | loaded _ => "Authorized number loaded"
  | notFound _ => "Config file not found"
  | notJson _ _ => "Config file is not valid JSON"
  | noNumber _ _ => "Config file has no usable authorized number"
  | notRead _ _ => "Failed to read config file"
  | emptyNumber _ => "Rejected sender: empty phone number"
  | authorized _ => "Sender authorized"
  | unauthorized _ _ => "Rejected sender: not the authorized number"

/-- What an event is about. -/
def details : Event → List (String × Log.Field)
  | loaded path | notFound path => [("config_path", .plain path)]
  | notJson path reason | noNumber path reason | notRead path reason =>
    [("config_path", .plain path), ("error", .plain reason)]
  | emptyNumber candidate => [("phone_number", .plain (Text.quoteOption candidate))]
  | authorized candidate => [("phone_number", .quoted candidate)]
  | unauthorized candidate masked =>
    [("phone_number", .quoted candidate), ("authorized_number", .plain masked)]

/-- Where gates log. -/
def target : String := "sender_gate::gate"

/-- An event as it is told to the log. -/
def record (event : Event) : Log.Record where
  severity := event.severity
  target := target
  message := event.message
  fields := ("event", .quoted event.name) :: event.details

end Event

end Gatekeeper
