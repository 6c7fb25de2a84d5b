import Gatekeeper.Program
import Gatekeeper.Proofs.Settings.Names

/-!
# Loading the settings

The settings come from the environment, and a file of assignments does no more than fill its gaps.
A broken file is no fault: what it assigns before the break counts, and the rest might as well not
be there.

The model loads nothing at all where a variable asks for an item that there is not, and
`load_none_eq_none_iff` is that this is the only way for it to come to nothing. A plain environment
has no such variable, and a file of assignments adds none (`Reads.hasUnreachable_iff`); so both
theorems say that settings are loaded, or which fault is reported, and neither leaves the case open.
`load_some` is the step from a file to the environment that it fills.
-/

namespace Gatekeeper.Program

variable {env : Environment} {files : Files.Node} {content : List UInt8}

/-! ## Loading -/

/-- A variable that asks for an item that there is not keeps settings from being loaded. -/
lemma load_none_of_hasUnreachable (h : env.HasUnreachable) : load env none = none :=
  if_pos (List.any_eq_true.2 h)

/-- Without one the settings are those that the environment makes. -/
lemma load_none_of_not_hasUnreachable (h : ¬ env.HasUnreachable) :
    load env none = some (env, Settings.ofEnvironment env) :=
  if_neg (mt List.any_eq_true.1 h)

/-- There is no other way for loading to come to nothing. -/
lemma load_none_eq_none_iff : load env none = none ↔ env.HasUnreachable := by
  by_cases h : env.HasUnreachable
  · exact iff_of_true (load_none_of_hasUnreachable h) h
  · rw [load_none_of_not_hasUnreachable h]
    exact iff_of_false nofun h

/-- A file without NUL characters supplies variables, and that is all that it does. -/
lemma load_some (hnul : 0 ∉ content) :
    load env (some content) = load (env.supplyFile content) none := by
  have hno : env.suppliesNul content = false := by
    rw [Environment.suppliesNul, List.contains_eq_mem, decide_eq_false hnul, Bool.false_and]
  simp only [load, supplied, hno, Bool.false_eq_true, if_false]

/-! ## Settings from the environment -/

/-- Without a file of assignments, a plain environment always makes settings. Each is what its
variable says, to the letter, and is there exactly if the variable is; nothing else counts. -/
theorem load_plain (hfile : assignments files = none) (h : Settings.Plain env) :
    ∃ settings, load env (assignments files) = some (env, .ok settings) ∧
      (∀ value, settings.configPath = some value ↔
        Settings.Sets env Settings.pathVariable value) ∧
      (∀ value, settings.logLevel = some value ↔
        Settings.Sets env Settings.levelVariable value) ∧
      ∀ env', Settings.Plain env' →
        (∀ value, Settings.Sets env' Settings.pathVariable value ↔
          Settings.Sets env Settings.pathVariable value) →
        (∀ value, Settings.Sets env' Settings.levelVariable value ↔
          Settings.Sets env Settings.levelVariable value) →
        load env' (assignments files) = some (env', .ok settings) := by
  obtain ⟨settings, hmade, hpath, hlevel⟩ := h.exists_settings
  rw [hfile, load_none_of_not_hasUnreachable h.not_hasUnreachable, hmade]
  refine ⟨settings, rfl, hpath, hlevel, fun env' h' hpath' hlevel' => ?_⟩
  obtain ⟨settings', hmade', hmadePath, hmadeLevel⟩ := h'.exists_settings
  have hsame : settings' = settings :=
    Settings.eq_of_same (fun value => (hmadePath value).trans (hpath' value)) hpath
      (fun value => (hmadeLevel value).trans (hlevel' value)) hlevel
  rw [load_none_of_not_hasUnreachable h'.not_hasUnreachable, hmade', hsame]

/-- Variables for both settings, neither spelled as usual, among some that are for none. -/
def nearMisses : Environment := [
  ("HOME", "/root"),
  ("SENDER_GATE_CONFIG_PATH", "one.json"),
  ("SENDER_GATE__CONFIG_PATH_", "two.json"),
  ("sender_gate__CONFIG_path", " a__b=1,2 "),
  ("Sender_Gate__Db__Log_Level", "debug"),
  ("SENDER_GATE__log_level", "")]

/-- A directory is no file of assignments. -/
def noAssignments : Files.Node := .directory [(".env", .directory [])]

/-- Near misses in either case, with one underscore, or with a further step, say nothing; blanks,
separators and commas of a value stay, and so does the empty value. -/
theorem load_plain_nearMisses :
    assignments noAssignments = none ∧ Settings.Plain nearMisses ∧
    load nearMisses (assignments noAssignments) =
      some (nearMisses, .ok ⟨some " a__b=1,2 ", some ""⟩) := by
  have hfile : assignments noAssignments = none := by decide +kernel
  have hplain : Settings.Plain nearMisses := by decide +kernel
  obtain ⟨⟨path, level⟩, hload, hpath, hlevel, -⟩ := load_plain hfile hplain
  obtain rfl : path = some " a__b=1,2 " := (hpath _).2 (by decide +kernel)
  obtain rfl : level = some "" := (hlevel _).2 (by decide +kernel)
  exact ⟨hfile, hplain, hload⟩

/-! ## Settings with a file of assignments -/

/-- A file of assignments does what its lines before the first broken one do, and they fill the gaps
of the environment: a variable that is set stays what it is, and of several assignments to one name
the first counts. What follows a broken line makes no difference, and no file makes loading break
down. -/
theorem load_fills_gaps (hfile : assignments files = some content) (hnul : 0 ∉ content) :
    (∃ good rest assigned,
      Environment.ReadsUpTo env (Environment.fileLines content) good rest assigned) ∧
    ∀ good rest assigned,
      Environment.ReadsUpTo env (Environment.fileLines content) good rest assigned →
        load env (assignments files) = load (env.filled assigned) none ∧
        (∀ v, v ∈ env.filled assigned ↔
          v ∈ env ∨ env.get? v.1 = none ∧ assigned.lookup v.1 = some v.2) ∧
        (∀ name, (env.filled assigned).get? name = (env.get? name).or (assigned.lookup name)) ∧
        (∀ content' rest', 0 ∉ content' →
          Environment.fileLines content' = good.map some ++ rest' → rest'.head? = rest.head? →
          load env (some content') = load env (assignments files)) ∧
        (load env (assignments files) = none ↔ load env none = none) := by
  refine ⟨Environment.exists_readsUpTo env _, fun good rest assigned h => ?_⟩
  have hload : ∀ content' rest', 0 ∉ content' →
      Environment.ReadsUpTo env (Environment.fileLines content') good rest' assigned →
      load env (some content') = load (env.filled assigned) none := by
    intro content' rest' hnul' h'
    rw [load_some hnul', h'.supplyFile_eq]
  rw [hfile, hload content rest hnul h]
  refine ⟨rfl, fun v => Environment.mem_filled_iff, Environment.get?_filled env assigned, ?_, ?_⟩
  · intro content' rest' hnul' hlines hhead
    exact hload content' rest' hnul' ⟨hlines, h.reads, hhead ▸ h.broken⟩
  · rw [load_none_eq_none_iff, load_none_eq_none_iff, h.reads.hasUnreachable_iff]

/-- An assignment to what is set, a value over two lines, a reference to it, a second assignment to
one name, and assignments on a line that is broken and after it. -/
def brokenAssignments : List UInt8 := Text.encode (
  "SENDER_GATE__CONFIG_PATH=gate.json\n" ++
  "DETAIL=\"de\n" ++
  "bug\"\n" ++
  "export SENDER_GATE__LOG_LEVEL = '>'$DETAIL # in full\n" ++
  "SENDER_GATE__LOG_LEVEL=info\n" ++
  "LATE=a b\n" ++
  "LATE=c\n")

/-- They are all the files that there are. -/
def brokenFiles : Files.Node := .directory [(".env", .file brokenAssignments)]

/-- The path is set to a blank. -/
def blankPath : Environment := [("SENDER_GATE__CONFIG_PATH", " ")]

/-- The file is read up to its fifth line, which is no assignment. -/
lemma readsUpTo_brokenAssignments :
    Environment.ReadsUpTo blankPath (Environment.fileLines brokenAssignments)
      ["SENDER_GATE__CONFIG_PATH=gate.json\n".toList, "DETAIL=\"de\nbug\"\n".toList,
        "export SENDER_GATE__LOG_LEVEL = '>'$DETAIL ".toList,
        "SENDER_GATE__LOG_LEVEL=info\n".toList]
      [some "LATE=a b\n".toList, some "LATE=c\n".toList]
      [("SENDER_GATE__CONFIG_PATH", "gate.json"), ("DETAIL", "de\nbug"),
        ("SENDER_GATE__LOG_LEVEL", ">de\nbug"), ("SENDER_GATE__LOG_LEVEL", "info")] where
  lines_eq := by decide +kernel
  reads := by
    have hpath : Environment.Reads blankPath ["SENDER_GATE__CONFIG_PATH=gate.json\n".toList]
        [("SENDER_GATE__CONFIG_PATH", "gate.json")] := .assignment .start rfl
    have hdetail : Environment.Reads blankPath (_ ++ ["DETAIL=\"de\nbug\"\n".toList])
        (_ ++ [("DETAIL", "de\nbug")]) := .assignment hpath rfl
    have hlevel : Environment.Reads blankPath
        (_ ++ ["export SENDER_GATE__LOG_LEVEL = '>'$DETAIL ".toList])
        (_ ++ [("SENDER_GATE__LOG_LEVEL", ">de\nbug")]) := .assignment hdetail rfl
    exact hlevel.assignment rfl
  broken := by
    rintro _ ⟨⟩
    rfl

/-- The file counts up to the line that is broken, for what is not set already. -/
theorem load_fills_gaps_brokenAssignments :
    assignments brokenFiles = some brokenAssignments ∧ 0 ∉ brokenAssignments ∧
    load blankPath (assignments brokenFiles) =
      some ([("SENDER_GATE__CONFIG_PATH", " "), ("DETAIL", "de\nbug"),
        ("SENDER_GATE__LOG_LEVEL", ">de\nbug")], .ok ⟨some " ", some ">de\nbug"⟩) := by
  have hfile : assignments brokenFiles = some brokenAssignments := by decide +kernel
  have hnul : 0 ∉ brokenAssignments := by decide +kernel
  obtain ⟨hload, -⟩ := (load_fills_gaps hfile hnul).2 _ _ _ readsUpTo_brokenAssignments
  exact ⟨hfile, hnul, hload.trans rfl⟩

end Gatekeeper.Program
