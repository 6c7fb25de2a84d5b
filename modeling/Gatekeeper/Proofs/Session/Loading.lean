import Gatekeeper.Proofs.Gate.Check
import Gatekeeper.Proofs.Files.Target
import Gatekeeper.Proofs.Session.Construction

/-!
# Loading a gate

Reading, loading and looking for a level hint are three ways to one configuration. They agree with
each other, and with reading the text of the file inline. Loading tells the audit trail once what
came of it: that a gate is there, or the very fault that it answers with.

There are two main results, and each of them is stated twice: for whatever comes of reading a path,
wherever the path leads, and for the steps of a session on its own files.

* `Session.file_agrees_with_text` compares a file with its text. `ReadsAsText` is what comes of the
  bytes of any file; in a session the text is read inline beside it, and the two gates are asked the
  same.
* `Session.load_reported_once` compares what is answered with what the audit trail is told.
  `LoadReported` is what comes of any file, or of the reason for not reading it; `Event.TellsLoaded`
  and `Event.TellsFault` say what the trail must hold, and `LoadFault.Named` has the names and texts
  of all faults.

The steps of a session on a path have one lemma each, for a configuration and for a fault
(`Session.step_load_of_ok` and so on), and the proofs about sessions use nothing else of them.
-/

namespace Gatekeeper

/-! ## What is told of a load -/

/-- The audit trail is told that a gate was loaded from that path, and nothing that depends on its
number. -/
def Event.TellsLoaded (event : Event) (path : String) : Prop :=
  event.record = ⟨.debug, "sender_gate::gate", "Authorized number loaded",
    [("event", .quoted "authorized_number_loaded"), ("config_path", .plain path)]⟩

/-- The event of a gate that was loaded tells so. -/
lemma Event.tellsLoaded (path : String) : (Event.loaded path).TellsLoaded path := rfl

/-- The name under which the audit trail hears of a fault at a path, and the text that comes with
it. -/
inductive LoadFault.Named : LoadFault → String → String → Option String → Prop where
  | notFound {path} :
    Named (.notFound path) path "config_file_not_found" none
  | malformed {path fault} :
    Named (.invalid path (.malformed fault)) path "config_invalid_json" (some fault.message)
  | notObject {path} :
    Named (.invalid path .notObject) path "config_invalid_json" (some "expected a JSON object")
  | numberMissing {path} :
    Named (.invalid path .numberMissing) path "config_invalid_authorized_number"
      (some "missing field `authorized_number`")
  | numberUnusable {path} :
    Named (.invalid path .numberUnusable) path "config_invalid_authorized_number"
      (some "`authorized_number` must be a non-empty string")
  | notRead {path fault} :
    Named (.notRead path fault) path "config_read_failed" (some fault.message)

/-- The audit trail is told of the fault at that path, by an error with the path and the text of the
fault if there is one; the words for the fault hold the same two. -/
def Event.TellsFault (event : Event) (path : String) (fault : LoadFault) : Prop :=
  ∃ name text, fault.Named path name text ∧
    event.record.severity = .error ∧
    event.record.target = "sender_gate::gate" ∧
    event.record.fields = ("event", .quoted name) :: ("config_path", .plain path) ::
      (text.map fun text => ("error", Log.Field.plain text)).toList ∧
    ∃ opening, fault.message = opening ++ path ++ (text.map (": " ++ ·)).getD ""

/-- What came of reading a configuration from a path, what loading a gate from it answers and tells
the audit trail, and the level hint in it. -/
inductive LoadReported (path : String) :
    Except LoadFault Configuration → Except LoadFault Gate × Event → Option String →
    Prop where
  | loaded {config event} :
    event.TellsLoaded path →
    LoadReported path (.ok config) (.ok ⟨config.number, path⟩, event) config.logLevel
  | failed {fault event} :
    event.TellsFault path fault →
    LoadReported path (.error fault) (.error fault, event) none

/-- The event of a fault tells of the fault. -/
lemma LoadFault.Named.tellsFault {fault : LoadFault} {path name : String} {text : Option String}
    (h : fault.Named path name text) : fault.event.TellsFault path fault := by
  refine ⟨name, text, h, ?_⟩
  cases h with
  | notFound => exact ⟨rfl, rfl, rfl, "Config file not found: ", (String.append_empty).symm⟩
  | malformed => exact ⟨rfl, rfl, rfl, "Invalid config ", String.append_assoc⟩
  | notObject => exact ⟨rfl, rfl, rfl, "Invalid config ", String.append_assoc⟩
  | numberMissing => exact ⟨rfl, rfl, rfl, "Invalid config ", String.append_assoc⟩
  | numberUnusable => exact ⟨rfl, rfl, rfl, "Invalid config ", String.append_assoc⟩
  | notRead => exact ⟨rfl, rfl, rfl, "Failed to read config ", String.append_assoc⟩

/-- A fault names the path that was read. -/
lemma Configuration.exists_named {path : String} {content : Except Files.Fault (List UInt8)}
    {fault : LoadFault} (h : ofContent path content = .error fault) :
    ∃ name text, fault.Named path name text := by
  unfold ofContent at h
  split at h
  · cases h
    exact ⟨_, _, .notFound⟩
  · cases h
    exact ⟨_, _, .notRead⟩
  · split at h
    · cases h
      exact ⟨_, _, .notRead⟩
    · next text _ =>
      cases hconfig : ofText text with
      | ok config =>
        rw [hconfig] at h
        cases h
      | error defect =>
        rw [hconfig] at h
        cases h
        cases defect with
        | malformed fault => exact ⟨_, _, .malformed⟩
        | notObject => exact ⟨_, _, .notObject⟩
        | numberMissing => exact ⟨_, _, .numberMissing⟩
        | numberUnusable => exact ⟨_, _, .numberUnusable⟩

/-- Whatever the file holds, and for whatever reason it may not be readable. -/
lemma loadReported (path : String) (content : Except Files.Fault (List UInt8)) :
    LoadReported path (Configuration.ofContent path content)
      (Gate.ofResult path (Configuration.ofContent path content))
      (Configuration.levelOf (Configuration.ofContent path content)) := by
  cases hread : Configuration.ofContent path content with
  | ok config => exact .loaded (Event.tellsLoaded path)
  | error fault =>
    obtain ⟨name, text, hnamed⟩ := Configuration.exists_named hread
    exact .failed hnamed.tellsFault

/-! ## Files and their texts -/

/-- What comes of those bytes at a path: what reading a configuration from it gives, what loading a
gate from it answers, and the level hint in it. All of it is what comes of the text that the bytes
make; bytes that make none are not read. -/
inductive ReadsAsText (path : String) (content : List UInt8) :
    Except LoadFault Configuration → Except LoadFault Gate → Option String → Prop where
  | config {text config gate} :
    content = Text.encode text →
    Configuration.ofText text = .ok config →
    gate.path = path →
    (∀ inline candidate,
      gate.check candidate = (Gate.ofConfiguration config inline).1.check candidate) →
    ReadsAsText path content (.ok config) (.ok gate) config.logLevel
  | defect {text defect} :
    content = Text.encode text →
    Configuration.ofText text = .error defect →
    ReadsAsText path content (.error (.invalid path defect)) (.error (.invalid path defect)) none
  | notText :
    ¬ Text.IsText content →
    ReadsAsText path content (.error (.notRead path .notText)) (.error (.notRead path .notText))
      none

/-- Whatever the bytes are. -/
lemma readsAsText (path : String) (content : List UInt8) :
    ReadsAsText path content (Configuration.ofContent path (.ok content))
      (Gate.ofResult path (Configuration.ofContent path (.ok content))).1
      (Configuration.levelOf (Configuration.ofContent path (.ok content))) := by
  by_cases htext : Text.IsText content
  · obtain ⟨text, rfl⟩ := htext
    rw [Configuration.ofContent_of_text]
    cases hread : Configuration.ofText text with
    | ok config => exact .config rfl hread rfl fun _ _ => rfl
    | error defect => exact .defect rfl hread
  · rw [Configuration.ofContent_of_not_text path htext]
    exact .notText htext

namespace Session

variable {session : Session} {path : Option String}

/-! ## The steps on a path -/

section
variable {config : Configuration}
  (h : Configuration.ofFile session.files (pathOrDefault path) = .ok config)
include h

/-- A path to a configuration is read. -/
lemma step_read_of_ok : session.step (.read path) = (session, .config config, []) := by
  simp only [Session.step, h]

/-- Its level hint is the one in the configuration. -/
lemma step_levelOf_of_ok :
    session.step (.levelOf path) = (session, .level config.logLevel, []) := by
  simp only [Session.step, h, Configuration.levelOf]

/-- A gate is loaded from it, and the audit trail is told. -/
lemma step_load_of_ok (name : String) :
    session.step (.load name path) =
      (session.setGate name ⟨config.number, pathOrDefault path⟩, .made (pathOrDefault path),
        [.loaded (pathOrDefault path)]) := by
  simp only [Session.step, Gate.ofFile, h, Gate.ofResult, Gate.ofConfiguration]

end

section
variable {fault : LoadFault}
  (h : Configuration.ofFile session.files (pathOrDefault path) = .error fault)
include h

/-- A path to a fault is not read. -/
lemma step_read_of_error : session.step (.read path) = (session, .notLoaded fault, []) := by
  simp only [Session.step, h]

/-- There is no level hint in it. -/
lemma step_levelOf_of_error : session.step (.levelOf path) = (session, .level none, []) := by
  simp only [Session.step, h, Configuration.levelOf]

/-- No gate is loaded from it, and the audit trail is told of the fault. -/
lemma step_load_of_error (name : String) :
    session.step (.load name path) = (session, .notLoaded fault, [fault.event]) := by
  simp only [Session.step, Gate.ofFile, h, Gate.ofResult]

end

/-- The gates of one configuration answer a candidate alike, wherever they come from. -/
lemma step_ask_check_setGate (session : Session) (config : Configuration) (name path : String)
    (candidate : Option String) :
    ((session.setGate name ⟨config.number, path⟩).step (.ask name (.check candidate))).2 =
      answer (Gate.ofConfiguration config path).1 (.check candidate) := by
  simp only [Session.step, gate?_setGate_self, Gate.ofConfiguration]

/-- A gate is made from a text that holds a configuration. -/
lemma step_define_of_ok {text : String} {config : Configuration}
    (h : Configuration.ofText text = .ok config) (name path : String) :
    session.step (.define name path text) =
      (session.setGate name ⟨config.number, path⟩, .made path, [.loaded path]) := by
  simp only [Session.step, h, Gate.ofConfiguration]

/-- A path to a file and the text in it lead to one configuration: whether it is read or loaded or
asked for its level hint, the file answers what the text answers when it is read inline, and the two
gates answer every candidate alike. A defect of the text is the one reported for the path, and a
file without a text is reported as not read, whatever is in it. This goes for the bytes at a path
wherever it leads, and for the steps of a session on its files. -/
theorem file_agrees_with_text (path : Option String) :
    (∀ content : List UInt8,
      ReadsAsText (pathOrDefault path) content
        (Configuration.ofContent (pathOrDefault path) (.ok content))
        (Gate.ofResult (pathOrDefault path)
          (Configuration.ofContent (pathOrDefault path) (.ok content))).1
        (Configuration.levelOf (Configuration.ofContent (pathOrDefault path) (.ok content)))) ∧
    ∀ (session : Session) (content : List UInt8),
      Files.IsFile session.files (pathOrDefault path) content → ∀ name other inline : String,
      (∀ text, content = Text.encode text →
        (∃ config, Configuration.ofText text = .ok config ∧
          session.step (.read path) = (session, .config config, []) ∧
          session.step (.levelOf path) = (session, .level config.logLevel, []) ∧
          (session.step (.load name path)).2.1 = .made (pathOrDefault path) ∧
          (session.step (.define other inline text)).2.1 = .made inline ∧
          ∀ candidate,
            ((session.step (.load name path)).1.step (.ask name (.check candidate))).2 =
              ((session.step (.define other inline text)).1.step
                (.ask other (.check candidate))).2) ∨
        ∃ defect, Configuration.ofText text = .error defect ∧
          (session.step (.define other inline text)).2.1 = .notDefined defect ∧
          (session.step (.read path)).2.1 = .notLoaded (.invalid (pathOrDefault path) defect) ∧
          (session.step (.load name path)).2.1 = .notLoaded (.invalid (pathOrDefault path) defect) ∧
          session.step (.levelOf path) = (session, .level none, [])) ∧
      (¬ Text.IsText content →
        (session.step (.read path)).2.1 = .notLoaded (.notRead (pathOrDefault path) .notText) ∧
        (session.step (.load name path)).2.1 = .notLoaded (.notRead (pathOrDefault path) .notText) ∧
        session.step (.levelOf path) = (session, .level none, []) ∧
        LoadFault.reason (.notRead (pathOrDefault path) .notText) =
          some "stream did not contain valid UTF-8") := by
  refine ⟨readsAsText (pathOrDefault path), fun session content h name other inline => ?_⟩
  have hfile : Configuration.ofFile session.files (pathOrDefault path) =
      Configuration.ofContent (pathOrDefault path) (.ok content) := by
    rw [Configuration.ofFile, Files.Node.read_eq_ok_iff.2 h]
  constructor
  · rintro text rfl
    rw [Configuration.ofContent_of_text] at hfile
    cases htext : Configuration.ofText text with
    | ok config =>
      left
      rw [htext] at hfile
      refine ⟨config, rfl, step_read_of_ok hfile, step_levelOf_of_ok hfile, ?_, ?_, ?_⟩
      · rw [step_load_of_ok hfile]
      · rw [step_define_of_ok htext]
      · intro candidate
        rw [step_load_of_ok hfile, step_define_of_ok htext, step_ask_check_setGate,
          step_ask_check_setGate]
        rfl
    | error defect =>
      right
      rw [htext] at hfile
      refine ⟨defect, rfl, ?_, ?_, ?_, step_levelOf_of_error hfile⟩
      · simp only [Session.step, htext]
      · rw [step_read_of_error hfile]
      · rw [step_load_of_error hfile]
  · intro hbytes
    rw [Configuration.ofContent_of_not_text _ hbytes] at hfile
    refine ⟨?_, ?_, step_levelOf_of_error hfile, rfl⟩
    · rw [step_read_of_error hfile]
    · rw [step_load_of_error hfile]

/-- A file in a directory, by a path with detours, and its text inline; and a file without a text
beside it, with the same document at its front. -/
theorem file_agrees_with_text_detour :
    ∃ text files session, text = "\x7b\"authorized_number\": \"+1\"\x7d" ∧
      files = .directory [("etc", .directory [("gate.json", .file (Text.encode text)),
        ("bytes.json", .file (Text.encode text ++ [0xFF]))])] ∧
      session = start files ∧
      Files.IsFile files "./etc//../etc/gate.json" (Text.encode text) ∧
      ((session.step (.load "g" (some "./etc//../etc/gate.json"))).1.step
          (.ask "g" (.check (some "+1")))).2 =
        ((session.step (.define "h" "inline.json" text)).1.step
          (.ask "h" (.check (some "+1")))).2 ∧
      Files.IsFile files "etc/bytes.json" (Text.encode text ++ [0xFF]) ∧
      (session.step (.load "g" (some "etc/bytes.json"))).2.1 =
        .notLoaded (.notRead "etc/bytes.json" .notText) := by
  refine ⟨_, _, _, rfl, rfl, rfl, ?_⟩
  generalize htext : "\x7b\"authorized_number\": \"+1\"\x7d" = text
  generalize hfiles : Files.Node.directory [("etc", .directory [("gate.json",
    .file (Text.encode text)), ("bytes.json", .file (Text.encode text ++ [0xFF]))])] = files
  have hgate : Files.IsFile files "./etc//../etc/gate.json" (Text.encode text) := by
    rw [← hfiles]
    exact Files.Node.read_eq_ok_iff.1 rfl
  have hbytes : Files.IsFile files "etc/bytes.json" (Text.encode text ++ [0xFF]) := by
    rw [← hfiles]
    exact Files.Node.read_eq_ok_iff.1 rfl
  have hnot : ¬ Text.IsText (Text.encode text ++ [0xFF]) := by
    rw [← htext, ← Text.decode_eq_none_iff]
    decide +kernel
  have hread : (Configuration.ofText text).toOption = some ⟨"+1", none⟩ := by
    rw [← htext]
    decide +kernel
  have hagrees := ((file_agrees_with_text (some "./etc//../etc/gate.json")).2 (start files) _ hgate
    "g" "h" "inline.json").1 text rfl
  have hunread := ((file_agrees_with_text (some "etc/bytes.json")).2 (start files) _ hbytes "g" "h"
    "inline.json").2 hnot
  obtain ⟨config, -, -, -, -, -, hask⟩ | ⟨defect, hdefect, -⟩ := hagrees
  · exact ⟨hgate, hask (some "+1"), hbytes, hunread.2.1⟩
  · rw [hdefect] at hread
    cases hread

/-- Loading a gate succeeds exactly if reading the configuration does, and fails with the same fault
otherwise; it tells the audit trail once and truly what came of it, for each file there can be and
each reason for not reading one. Asking for the level hint tells it nothing, and there is a hint
only if the gate can be loaded. -/
theorem load_reported_once (path : Option String) :
    (∀ content : Except Files.Fault (List UInt8),
      let read := Configuration.ofContent (pathOrDefault path) content
      LoadReported (pathOrDefault path) read (Gate.ofResult (pathOrDefault path) read)
        (Configuration.levelOf read)) ∧
    ∀ (session : Session) (name : String),
      (∃ config event, event.TellsLoaded (pathOrDefault path) ∧
        session.step (.read path) = (session, .config config, []) ∧
        session.step (.load name path) =
          (session.setGate name ⟨config.number, pathOrDefault path⟩, .made (pathOrDefault path),
            [event]) ∧
        session.step (.levelOf path) = (session, .level config.logLevel, [])) ∨
      ∃ fault event, event.TellsFault (pathOrDefault path) fault ∧
        session.step (.read path) = (session, .notLoaded fault, []) ∧
        session.step (.load name path) = (session, .notLoaded fault, [event]) ∧
        session.step (.levelOf path) = (session, .level none, []) := by
  refine ⟨loadReported (pathOrDefault path), fun session name => ?_⟩
  cases hread : Configuration.ofFile session.files (pathOrDefault path) with
  | ok config =>
    left
    exact ⟨config, _, Event.tellsLoaded _, step_read_of_ok hread, step_load_of_ok hread name,
      step_levelOf_of_ok hread⟩
  | error fault =>
    right
    obtain ⟨_, _, hnamed⟩ := Configuration.exists_named hread
    exact ⟨fault, _, hnamed.tellsFault, step_read_of_error hread, step_load_of_error hread name,
      step_levelOf_of_error hread⟩

end Session

end Gatekeeper
