import Gatekeeper.Configuration.File

/-!
# Gates

A gate lets exactly one number pass, the one it was configured with, byte for byte. Whatever it is
asked, it answers and tells the audit trail; it never changes.

`Gate.check` is the one decision; all other questions are ways to ask it. It compares two byte
strings to their end even when they differ earlier (`sameBytes`), and describes itself without its
number (`Gate.describe`).
-/

namespace Gatekeeper

/-- The number with every character hidden but the last four; all of them if there are no more. -/
def mask (number : String) : String :=
  let cs := number.toList
  let hidden := if cs.length ≤ 4 then cs.length else cs.length - 4
  String.ofList (List.replicate hidden '*' ++ cs.drop hidden)

/-- Two byte strings are equal. Of equally long ones every byte is looked at, so that the time it
takes tells nothing about where they differ. -/
def sameBytes (a b : List UInt8) : Bool :=
  a.length == b.length && (List.zipWith (· ^^^ ·) a b).foldl (· ||| ·) 0 == 0

/-- A gate: the number that passes, and the file it comes from. -/
structure Gate where
  number : String
  path : String
deriving DecidableEq

namespace Gate

/-- The gate for a configuration, and what the audit trail is told of it. -/
def ofConfiguration (config : Configuration) (path : String) : Gate × Event :=
  (⟨config.number, path⟩, .loaded path)

/-- The gate for what came of reading a configuration, and what the audit trail is told. -/
def ofResult (path : String) (config : Except LoadFault Configuration) :
    Except LoadFault Gate × Event :=
  match config with
  | .ok config =>
    let (gate, event) := ofConfiguration config path
    (.ok gate, event)
  | .error fault => (.error fault, fault.event)

/-- The gate for the configuration file that is named, or the default one. -/
def ofFile (files : Files.Node) (path : Option String) : Except LoadFault Gate × Event :=
  ofResult (pathOrDefault path) (Configuration.ofFile files (pathOrDefault path))

/-- Whether a number passes, and what the audit trail is told. None at all and the empty one never
do. -/
def check (gate : Gate) (candidate : Option String) : Bool × Event :=
  match candidate with
  | none => (false, .emptyNumber none)
  | some number =>
    if number.isEmpty then (false, .emptyNumber (some number))
    else if sameBytes (Text.encode number) (Text.encode gate.number) then
      (true, .authorized number)
    else (false, .unauthorized number (mask gate.number))

/-- Whether a number that is there passes. -/
def checkNumber (gate : Gate) (number : String) : Bool × Event :=
  gate.check (some number)

/-- A gate as shown to developers, the number left out. -/
def describe (gate : Gate) : String :=
  "AuthorizationGate \x7b authorized_number: " ++ Configuration.redacted ++ ", config_path: " ++
    Text.quote gate.path ++ " \x7d"

end Gate

end Gatekeeper
