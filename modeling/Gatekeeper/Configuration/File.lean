import Gatekeeper.Configuration
import Gatekeeper.Event
import Gatekeeper.Files
import Gatekeeper.Text.Basic

/-!
# Configuration files

Where a configuration is read from, and why that can fail: there is no such file, it cannot be read
as a text, or the document in it configures no gate.

`Configuration.ofContent` takes what came of reading a path, whichever it was, and
`Configuration.ofFile` reads it first. The two ways in which a file can be missing are one fault to
a user, an empty path and a path to nothing.
-/

namespace Gatekeeper

/-- The file a configuration is read from unless another one is named. -/
def defaultPath : String := "config/config.json"

/-- The file that is named, or the default one. -/
def pathOrDefault (path : Option String) : String := path.getD defaultPath

/-- Why a configuration file cannot be used. -/
inductive LoadFault where
  | notFound (path : String)
  | notRead (path : String) (fault : Files.Fault)
  | invalid (path : String) (defect : Configuration.Defect)
deriving DecidableEq

namespace LoadFault

/-- The words for a fault. -/
def message : LoadFault → String
  | notFound path => "Config file not found: " ++ path
  | notRead path fault => "Failed to read config " ++ path ++ ": " ++ fault.message
  | invalid path defect => "Invalid config " ++ path ++ ": " ++ defect.message

/-- The words for what lies behind a fault. -/
def reason : LoadFault → Option String
  | notFound _ => none
  | notRead _ fault => some fault.message
  | invalid _ defect => some defect.message

/-- What the audit trail is told of a fault. -/
def event : LoadFault → Event
  | notFound path => .notFound path
  | notRead path fault => .notRead path fault.message
  | invalid path defect =>
    match defect with
    | .malformed _ | .notObject => .notJson path defect.message
    | .numberMissing | .numberUnusable => .noNumber path defect.message

end LoadFault

/-- The configuration in a file of the given content, or the fault for the file not being read. -/
def Configuration.ofContent (path : String) (content : Except Files.Fault (List UInt8)) :
    Except LoadFault Configuration :=
  match content with
  | .error .missing => .error (.notFound path)
  | .error fault => .error (.notRead path fault)
  | .ok bytes =>
    match Text.decode bytes with
    | none => .error (.notRead path .notText)
    | some text => (Configuration.ofText text).mapError (.invalid path)

/-- The configuration in the file at a path. -/
def Configuration.ofFile (files : Files.Node) (path : String) : Except LoadFault Configuration :=
  Configuration.ofContent path (files.read path)

/-- The hint at how much to log in a configuration that can be used. -/
def Configuration.levelOf (config : Except LoadFault Configuration) : Option String :=
  match config with
  | .ok config => config.logLevel
  | .error _ => none

end Gatekeeper
