import Gatekeeper.Environment
import Gatekeeper.Log.Filter
import Gatekeeper.Screening
import Gatekeeper.Settings

/-!
# A run of the program

From an environment, files and an input to an output, a log and an exit code. A run loads the
settings, then the gate they lead to, and screens the input. What it tells the log does not depend
on how much of that is shown, and what it writes and how it exits do not depend on the log.

A run that cannot go on and has no failure to report breaks down: it writes nothing, and its log
ends with a report of the breakdown. The report names a thread and a place in the program, and may
list calls; these are the `Host`'s, and nothing else in a run is.

* `Failure` and `Breakdown` are the two ways for a run to end early, with the words for them.
* `Course` is what a run does, whatever of it is shown, and `Course.outcome` what is seen of that.
* `load` makes the settings, `proceed` goes on from there, and `run` does both.
-/

namespace Gatekeeper.Program

/-- Why a run fails. -/
inductive Failure where
  | settings (fault : Settings.Fault)
  | gate (fault : LoadFault)
  | stream (fault : StreamFault)
deriving DecidableEq

namespace Failure

/-- The words for a failure. -/
def message : Failure → String
  | settings fault => "Configuration error: " ++ fault.chain.headD ""
  | gate fault => "Authorization gate error: " ++ fault.message
  | stream fault => "I/O error: " ++ fault.message

/-- A defect as shown to developers. -/
def describeDefect : Configuration.Defect → String
  | .malformed fault => "Malformed(" ++ Text.quote fault.message ++ ")"
  | .notObject => "NotAnObject"
  | .numberMissing => "MissingField"
  | .numberUnusable => "InvalidValue"

/-- A fault as shown to developers. -/
def describeFault : LoadFault → String
  | .notFound path => "NotFound \x7b path: " ++ Text.quote path ++ " \x7d"
  | .notRead path fault =>
    "Io \x7b path: " ++ Text.quote path ++ ", source: " ++ fault.describe ++ " \x7d"
  | .invalid path defect =>
    "InvalidConfig \x7b path: " ++ Text.quote path ++ ", issue: " ++ describeDefect defect ++
      " \x7d"

/-- A numbered line of the reasons behind a failure. -/
def describeReason (reason : String) (number : Nat) : String :=
  "\n    " ++ toString number ++ ": " ++ reason

/-- A failure as shown to developers. -/
def describe : Failure → String
  | settings fault =>
    "Config(Failed to load settings\n\nCaused by:" ++
      String.join (fault.chain.zipIdx.map fun (reason, number) => describeReason reason number) ++
      ")"
  | gate fault => "Gate(" ++ describeFault fault ++ ")"
  | stream fault =>
    "Io(Error \x7b kind: " ++ fault.kind ++ ", message: " ++ Text.quote fault.message ++ " \x7d)"

end Failure

/-! ## Breakdowns -/

/-- Why a run breaks down: something in its environment that no settings can be loaded from, or a
part of the filter of its log that a piece cannot be cut out of. -/
inductive Breakdown where
  | loading
  | filter (cut : Log.Rule.Cut)
deriving DecidableEq

/-- What a run that breaks down says of itself: the number of its thread, where in the program it
stands, why no settings can be loaded, and the calls that led there. -/
structure Host where
  thread : Nat
  place : Breakdown → String
  loading : String
  calls : Breakdown → List String

namespace Breakdown

/-- The words for a breakdown. -/
def message (host : Host) : Breakdown → String
  | loading => host.loading
  | filter cut => cut.miscut.message

/-- The variable that asks for the calls. -/
def callsVariable : String := "RUST_BACKTRACE"

/-- The calls that led to a breakdown are asked for. -/
def asksForCalls (env : Environment) : Bool :=
  match env.get? callsVariable with
  | none => false
  | some value => value != "0"

/-- The report of a breakdown. -/
def report (host : Host) (env : Environment) (breakdown : Breakdown) : List String :=
  ["", "thread 'main' (" ++ toString host.thread ++ ") panicked at " ++ host.place breakdown ++ ":",
    breakdown.message host] ++
  if asksForCalls env then host.calls breakdown
  else ["note: run with `RUST_BACKTRACE=1` environment variable to display a backtrace"]

end Breakdown

/-! ## Courses and outcomes -/

/-- What came of a run. -/
structure Outcome where
  exit : Nat
  output : String
  log : List String
deriving DecidableEq

/-- What a run does, whatever of it is shown. -/
structure Course where
  output : String
  records : List Log.Record
  failure : Option Failure
deriving DecidableEq

/-- Where the program itself logs. -/
def target : String := "gate_check"

/-- Something that the program itself tells the log. -/
def notice (message : String) : Log.Record := ⟨.info, target, message, []⟩

/-- The notice that a run has begun. -/
def starting : Log.Record := notice "Starting sender gate check..."

/-- The notice that the gate is there. -/
def ready (path : String) : Log.Record :=
  notice ("Authorization gate ready (" ++ path ++ ")")

/-- The notice that the input was screened to its end. -/
def finished : Log.Record := notice "Input closed, shutting down"

/-- Screens the input with a gate. -/
def screenWith (gate : Gate) (input : List UInt8) : Course :=
  let screening := gate.screenInput none input
  let records := ready gate.path :: screening.events.map Event.record
  match screening.fault with
  | none => ⟨screening.output, records ++ [finished], none⟩
  | some fault => ⟨screening.output, records, some (.stream fault)⟩

/-- Loads the gate and screens the input with it. -/
def course (path : String) (config : Except LoadFault Configuration) (input : List UInt8) :
    Course :=
  match Gate.ofResult path config with
  | (.error fault, event) => ⟨"", [starting, event.record], some (.gate fault)⟩
  | (.ok gate, event) =>
    let course := screenWith gate input
    { course with records := starting :: event.record :: course.records }

/-- The variable whose filter, if it is one, takes the place of the level. -/
def filterVariable : String := "RUST_LOG"

/-- The complaints about a filter, and the filter that counts, if it can be read at all. -/
def filterFor (env : Environment) (level : String) :
    List String × Except Log.Rule.Cut Log.Filter :=
  match (env.get? filterVariable).map fun text => (Log.Filter.read text).run with
  | some (.ok (.ok filter)) => ([], .ok filter)
  | some (.error cut) => ([], .error cut)
  | _ => Log.Filter.readLenient level

/-- The log of records under a filter. -/
def shown (filter : Log.Filter) (records : List Log.Record) : List String :=
  (records.filter filter.admits).map Log.Record.written

/-- The exit code of a run. -/
def exitCode : Option Failure → Nat
  | none => 0
  | some _ => 1

/-- The last words of a run. -/
def lastWords : Option Failure → List String
  | none => []
  | some failure => ["Error: " ++ failure.describe]

/-- What is seen of a course under a filter. -/
def Course.outcome (course : Course) (complaints : List String) (filter : Log.Filter) :
    Outcome where
  exit := exitCode course.failure
  output := course.output
  log :=
    (complaints ++ shown filter course.records ++ lastWords course.failure).flatMap Log.linesOf

/-- A run that breaks down after those complaints. -/
def breakDown (host : Host) (env : Environment) (complaints : List String)
    (breakdown : Breakdown) : Outcome where
  exit := 101
  output := ""
  log := (complaints ++ breakdown.report host env).flatMap Log.linesOf

/-- A run for settings that could not be loaded. -/
def abandon (fault : Settings.Fault) : Outcome :=
  Course.outcome ⟨"", [], some (.settings fault)⟩ [] ⟨[]⟩

/-- A run for settings, with what came of reading the configuration. -/
def proceed (host : Host) (env : Environment) (settings : Settings)
    (config : Except LoadFault Configuration) (input : List UInt8) : Outcome :=
  let level := Log.effectiveLevel settings.logLevel (Configuration.levelOf config)
  match filterFor env level with
  | (complaints, .error cut) => breakDown host env complaints (.filter cut)
  | (complaints, .ok filter) =>
    (course (pathOrDefault settings.configPath) config input).outcome complaints filter

/-! ## Runs -/

/-- The file that can supply variables. -/
def assignmentsName : String := ".env"

/-- The content of the file of assignments, if there is one. -/
def assignments (files : Files.Node) : Option (List UInt8) :=
  match files.find [assignmentsName] with
  | some (.file content) => some content
  | _ => none

/-- The environment with what a file of assignments supplies. A run breaks down on a value that no
variable can hold. -/
def supplied (env : Environment) : Option (List UInt8) → Option Environment
  | none => some env
  | some content => if env.suppliesNul content then none else some (env.supplyFile content)

/-- The environment with what a file of assignments supplies, and the settings it makes. A run
breaks down on a variable that asks for an item no sequence has. -/
def load (env : Environment) (content : Option (List UInt8)) :
    Option (Environment × Except Settings.Fault Settings) := do
  let env ← supplied env content
  if env.any fun (name, _) => Settings.isUnreachable name then none
  else return (env, Settings.ofEnvironment env)

/-- The environment of a run that breaks down before there are settings. -/
def lastEnvironment (env : Environment) : Option (List UInt8) → Environment
  | none => env
  | some content => (env.supplyFile content).untilNul

/-- A run of the program. -/
def run (host : Host) (env : Environment) (files : Files.Node) (input : List UInt8) : Outcome :=
  match load env (assignments files) with
  | none => breakDown host (lastEnvironment env (assignments files)) [] .loading
  | some (_, .error fault) => abandon fault
  | some (env, .ok settings) =>
    proceed host env settings (Configuration.ofFile files (pathOrDefault settings.configPath)) input

end Gatekeeper.Program
