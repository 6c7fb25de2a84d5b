import Gatekeeper.Screening

/-!
# Sessions

A session holds files and gates by name. Each step does one thing with them and gives one answer. A
gate is made by loading a file or reading a document; if that fails, a gate that was there before
stays.

`Session.step` is one step and `Session.run` the answers to all of them in turn. Requests to a gate
go through `Session.answer`, which has nothing but the gate, so that no question can change the
session.
-/

namespace Gatekeeper

/-- The files and the gates of a session. -/
structure Session where
  files : Files.Node
  gates : List (String × Gate)

namespace Session

/-- What a gate can be asked. -/
inductive Request where
  | check (candidate : Option String)
  | checkNumber (number : String)
  | decide (number : String)
  | path
  | describe
  | screen (room : Option Nat) (input : List UInt8)

/-- One step of a session, on the files, on the gate of that name or on neither. -/
inductive Step where
  | write (path : String) (content : List UInt8)
  | makeDirectory (path : String)
  | remove (path : String)
  | load (gate : String) (path : Option String)
  | define (gate path text : String)
  | read (path : Option String)
  | levelOf (path : Option String)
  | resolve (path : Option String)
  | ask (gate : String) (request : Request)

/-- The answer to a step. -/
inductive Answer where
  | done
  | made (path : String)
  | notLoaded (fault : LoadFault)
  | notDefined (defect : Configuration.Defect)
  | config (config : Configuration)
  | level (level : Option String)
  | resolved (path : String) (isDefault : Bool)
  | passes (passes : Bool)
  | decided (decision : Decision)
  | path (path : String)
  | description (text : String)
  | screened (screening : Screening)
  | noGate (name : String)

/-- A session before its first step. -/
def start (files : Files.Node) : Session := ⟨files, []⟩

/-- The gate of that name. -/
def gate? (session : Session) (name : String) : Option Gate :=
  session.gates.lookup name

/-- The session with a gate of that name. -/
def setGate (session : Session) (name : String) (gate : Gate) : Session :=
  { session with gates := (name, gate) :: session.gates }

/-- What a gate answers, and what the audit trail is told. -/
def answer (gate : Gate) : Request → Answer × List Event
  | .check candidate =>
    let (passes, event) := gate.check candidate
    (.passes passes, [event])
  | .checkNumber number =>
    let (passes, event) := gate.checkNumber number
    (.passes passes, [event])
  | .decide number =>
    let (decision, event) := gate.decide number
    (.decided decision, [event])
  | .path => (.path gate.path, [])
  | .describe => (.description gate.describe, [])
  | .screen room input =>
    let screening := gate.screenInput room input
    (.screened screening, screening.events)

/-- Two paths have the same parts. -/
def samePath (a b : String) : Bool :=
  Files.pathKey a == Files.pathKey b

/-- Takes a step: the session after it, the answer, and what the audit trail was told. -/
def step (session : Session) : Step → Session × Answer × List Event
  | .write path content =>
    ({ session with files := session.files.write path content }, .done, [])
  | .makeDirectory path =>
    ({ session with files := session.files.makeDirectory path }, .done, [])
  | .remove path => ({ session with files := session.files.remove path }, .done, [])
  | .load name path =>
    match Gate.ofFile session.files path with
    | (.ok gate, event) => (session.setGate name gate, .made gate.path, [event])
    | (.error fault, event) => (session, .notLoaded fault, [event])
  | .define name path text =>
    match Configuration.ofText text with
    | .ok config =>
      let (gate, event) := Gate.ofConfiguration config path
      (session.setGate name gate, .made gate.path, [event])
    | .error defect => (session, .notDefined defect, [])
  | .read path =>
    match Configuration.ofFile session.files (pathOrDefault path) with
    | .ok config => (session, .config config, [])
    | .error fault => (session, .notLoaded fault, [])
  | .levelOf path =>
    let config := Configuration.ofFile session.files (pathOrDefault path)
    (session, .level (Configuration.levelOf config), [])
  | .resolve path =>
    let path := pathOrDefault path
    (session, .resolved path (samePath path defaultPath), [])
  | .ask name request =>
    match session.gate? name with
    | some gate => (session, answer gate request)
    | none => (session, .noGate name, [])

/-- Takes the steps in turn. -/
def run : Session → List Step → List (Answer × List Event)
  | _, [] => []
  | session, step :: steps =>
    let (session, result) := session.step step
    result :: session.run steps

end Session

end Gatekeeper
