import Gatekeeper.Json.Value
import Gatekeeper.Text.Basic
import Gatekeeper.Text.Quoted

/-!
# Configuration documents

A gate is configured by a JSON object. Two members are looked at: the number to authorize, which
has to be a string that says something, and a hint at how much to log, which is taken if it is a
string. The number is kept as it is written.

`Configuration.ofMembers` decides on an object, and `Configuration.ofText` on a text: a fault in the
text comes before one in its shape, and a missing number before one that cannot be used.
`Defect.message` has the words for each.
-/

namespace Gatekeeper

/-- What a configuration document says. -/
structure Configuration where
  number : String
  logLevel : Option String
deriving DecidableEq

namespace Configuration

/-- Why a document configures no gate. -/
inductive Defect where
  | malformed (fault : Json.Malformation)
  | notObject
  | numberMissing
  | numberUnusable
deriving DecidableEq

/-- The words for a defect. -/
def Defect.message : Defect → String
  | malformed fault => fault.message
  | notObject => "expected a JSON object"
  | numberMissing => "missing field `authorized_number`"
  | numberUnusable => "`authorized_number` must be a non-empty string"

/-- The name of the member with the number to authorize. -/
def numberName : String := "authorized_number"

/-- The name of the member with the hint at how much to log. -/
def logLevelName : String := "log_level"

/-- The text of a string that is not blank throughout. -/
def usableNumber : Json.Value → Option String
  | .string text => if text.toList.all Text.isBlank then none else some text
  | _ => none

/-- The text of a string. -/
def levelHint : Json.Value → Option String
  | .string text => some text
  | _ => none

/-- The configuration that the members of an object make. -/
def ofMembers (members : List (String × Json.Value)) : Except Defect Configuration :=
  match Json.lastMember members numberName with
  | none => .error .numberMissing
  | some value =>
    match usableNumber value with
    | none => .error .numberUnusable
    | some number =>
      .ok ⟨number, (Json.lastMember members logLevelName).bind levelHint⟩

/-- The configuration that a document holds. -/
def ofText (text : String) : Except Defect Configuration :=
  match Json.read text with
  | .error fault => .error (.malformed fault)
  | .ok (.object members) => ofMembers members
  | .ok _ => .error .notObject

/-- How a number is shown where it must not be read. -/
def redacted : String := "Secret([REDACTED alloc::string::String])"

/-- A configuration as shown to developers, the number left out. -/
def describe (config : Configuration) : String :=
  "GateConfig \x7b authorized_number: " ++ redacted ++ ", log_level: " ++
    Text.quoteOption config.logLevel ++ " \x7d"

end Configuration

end Gatekeeper
