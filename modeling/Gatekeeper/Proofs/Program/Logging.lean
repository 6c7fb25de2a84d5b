import Gatekeeper.Proofs.Files.Alike
import Gatekeeper.Proofs.Program.Run
import Gatekeeper.Proofs.Settings.Level

/-!
# What is logged decides nothing

Two runs that differ in how much is logged, by the filter in the environment, by the level there or
by the one in the configuration, write the same and exit the same. There are two exceptions. Where
the filter of one of them cannot be read to its end, that run breaks down, as a single run does.
And where a variable makes the level of the log a map, settings can be loaded or not as the variable
for the level is there or not, and it matters which of the two comes last.

What is logged is decided by the first of these that is there: by the filter, if it is one, or else
by the level in the environment, blank or not, and only then by the configuration.

`DifferInLogging` is the relation of two such runs, and `run_independent_of_logging` all that can be
said of them. It does not exclude the exceptions, but says exactly what they come to. In the proof
`DifferInLogging.load_cases` brings both runs to their settings, or ends both before that;
`course_eq` says that what a run does depends on no more of the configuration than its number, so
that only the filters are left for the runs to differ in (`DifferInLogging.run_eq`).
-/

namespace Gatekeeper

/-- The contents are equal, or documents that configure the same number. -/
inductive Configuration.SameNumber : List UInt8 → List UInt8 → Prop where
  | refl {content} :
    SameNumber content content
  | documents {text text' config config'} :
    Configuration.ofText text = .ok config →
    Configuration.ofText text' = .ok config' →
    config.number = config'.number →
    SameNumber (Text.encode text) (Text.encode text')

namespace Program
open Settings (levelVariable)

/-- Two runs differ in what their logs are asked to show, and have no file of assignments. -/
structure DifferInLogging (env : Environment) (files : Files.Node) (env' : Environment)
    (files' : Files.Node) : Prop where
  noAssignments : assignments files = none
  files_alike : files.Alike Configuration.SameNumber files'
  rest :
    env.without [levelVariable, filterVariable] = env'.without [levelVariable, filterVariable]

/-- The settings of a run can be loaded. -/
def Loads (env : Environment) (files : Files.Node) : Prop :=
  ∃ env' settings, load env (assignments files) = some (env', .ok settings)

/-- The variable with the filter is not set, or what it is set to is refused as a filter. -/
def Unfiltered (env : Environment) : Prop :=
  ∀ text, env.get? filterVariable = some text →
    ∃ fault, (Log.Filter.read text).run = .ok (.error fault)

variable {host : Host} {env env' : Environment} {files files' : Files.Node}

/-! ## Configurations of the same number -/

/-- The numbers at every path are the same, and so are the faults. -/
lemma ofFile_number (h : files.Alike Configuration.SameNumber files') (path : String) :
    (Configuration.ofFile files path).map Configuration.number =
      (Configuration.ofFile files' path).map Configuration.number := by
  have hread := h.read path
  unfold Configuration.ofFile
  generalize files.read path = content, files'.read path = content' at hread ⊢
  cases hread with
  | error => rfl
  | ok hsame => cases hsame with
    | refl => rfl
    | documents hconfig hconfig' hnumber =>
      simp only [Configuration.ofContent, Text.decode_encode, hconfig, hconfig']
      exact congrArg Except.ok hnumber

/-- The course of a run depends on no more of the configuration than the number. -/
lemma course_eq {config config' : Except LoadFault Configuration}
    (h : config.map Configuration.number = config'.map Configuration.number) (path : String)
    (input : List UInt8) : course path config input = course path config' input := by
  cases config with
  | error fault => cases config' with
    | error fault' =>
      cases h
      rfl
    | ok config' => cases h
  | ok config => cases config' with
    | error fault' => cases h
    | ok config' =>
      have hnumber : config.number = config'.number := Except.ok.inj h
      simp only [course, Gate.ofResult, Gate.ofConfiguration, hnumber]

/-! ## Settings of both runs -/

/-- The variable with the filter makes no setting. -/
lemma noSettings_filterVariable : Settings.NoSettings [filterVariable] := by
  have hpath : Settings.pathOf filterVariable = none := by decide +kernel
  intro name hname value setting shape hmakes
  obtain rfl := List.mem_singleton.1 hname
  unfold Settings.Makes Settings.ofVariable at hmakes
  rw [hpath] at hmakes
  cases hmakes

/-- Neither of the two variables asks for an item. -/
lemma any_isUnreachable_without (env : Environment) :
    (env.without [levelVariable, filterVariable]).any (fun v => Settings.isUnreachable v.1) =
      env.any fun v => Settings.isUnreachable v.1 := by
  have hnames : ∀ name ∈ [levelVariable, filterVariable],
      Settings.isUnreachable name = false := by decide +kernel
  unfold Environment.without
  rw [List.any_filter]
  congr 1
  funext v
  by_cases hname : v.1 ∈ [levelVariable, filterVariable]
  · rw [hnames v.1 hname, Bool.and_false]
  · rw [decide_eq_true hname, Bool.true_and]

/-- Neither run has a file of assignments. -/
lemma DifferInLogging.noAssignments' (h : DifferInLogging env files env' files') :
    assignments files' = none := by
  have hnone := h.noAssignments
  have hfind := h.files_alike.find [assignmentsName]
  unfold assignments at hnone ⊢
  generalize files.find _ = found, files'.find _ = found' at hfind hnone ⊢
  cases hfind with
  | none => rfl
  | some hnode => cases hnode with
    | file _ => cases hnone
    | directory _ => rfl

/-- Without one the settings come from the environment alone. -/
lemma load_of_noAssignments (h : assignments files = none) (env : Environment) :
    load env (assignments files) =
      if env.any fun v => Settings.isUnreachable v.1 then none
      else some (env, Settings.ofEnvironment env) := by
  rw [h]
  rfl

/-- Without a file of assignments settings can be loaded if the environment makes some and asks for
no item that there is not. -/
lemma loads_iff (h : assignments files = none) (env : Environment) :
    Loads env files ↔
      (env.any fun v => Settings.isUnreachable v.1) = false ∧
        ∃ settings, Settings.ofEnvironment env = .ok settings := by
  unfold Loads
  rw [load_of_noAssignments h]
  cases env.any fun v => Settings.isUnreachable v.1 with
  | true =>
    constructor
    · rintro ⟨_, _, hload⟩
      cases hload
    · rintro ⟨hany, -⟩
      cases hany
  | false =>
    constructor
    · rintro ⟨_, settings, hload⟩
      exact ⟨rfl, settings, congrArg Prod.snd (Option.some.inj hload)⟩
    · rintro ⟨-, settings, hmade⟩
      exact ⟨env, settings, by rw [hmade]; rfl⟩

/-- The same variables ask for items in both runs. -/
lemma DifferInLogging.any_eq (h : DifferInLogging env files env' files') :
    (env.any fun v => Settings.isUnreachable v.1) =
      env'.any fun v => Settings.isUnreachable v.1 := by
  rw [← any_isUnreachable_without, h.rest, any_isUnreachable_without]

/-- If no variable but the one for the level makes the level a map or a sequence, both runs have
settings or neither has. -/
lemma DifferInLogging.loads_iff_of_text (h : DifferInLogging env files env' files')
    (hlevel : Settings.LevelIsText env) (hlevel' : Settings.LevelIsText env') :
    Loads env files ↔ Loads env' files' := by
  have hsame := Settings.samePath h.rest noSettings_filterVariable hlevel hlevel'
  rw [loads_iff h.noAssignments, loads_iff h.noAssignments', h.any_eq]
  generalize Settings.ofEnvironment env = made, Settings.ofEnvironment env' = made' at hsame
  cases hsame with
  | error => exact Iff.rfl
  | ok => exact ⟨fun ⟨hany, _⟩ => ⟨hany, _, rfl⟩, fun ⟨hany, _⟩ => ⟨hany, _, rfl⟩⟩

/-- A breakdown is reported in the same way in both runs. -/
lemma DifferInLogging.report_eq (h : DifferInLogging env files env' files')
    (breakdown : Breakdown) : breakdown.report host env = breakdown.report host env' := by
  have hname : Breakdown.callsVariable ∉ [levelVariable, filterVariable] := by decide
  have hget : env.get? Breakdown.callsVariable = env'.get? Breakdown.callsVariable := by
    rw [← Environment.get?_without hname, h.rest, Environment.get?_without hname]
  unfold Breakdown.report Breakdown.asksForCalls
  rw [hget]

/-- If both runs have settings or neither has, then either both end before there are settings, in
the same way, or both have settings, with the same path. -/
lemma DifferInLogging.load_cases (h : DifferInLogging env files env' files')
    (hloads : Loads env files ↔ Loads env' files') (input : List UInt8) :
    (run host env files input = run host env' files' input ∧
      filterReadable env files = true ∧ filterReadable env' files' = true) ∨
    ∃ path level level',
      Settings.ofEnvironment env = .ok ⟨path, level⟩ ∧
      Settings.ofEnvironment env' = .ok ⟨path, level'⟩ ∧
      load env (assignments files) = some (env, .ok ⟨path, level⟩) ∧
      load env' (assignments files') = some (env', .ok ⟨path, level'⟩) := by
  have hload := load_of_noAssignments h.noAssignments env
  have hload' := load_of_noAssignments h.noAssignments' env'
  rw [loads_iff h.noAssignments, loads_iff h.noAssignments', h.any_eq] at hloads
  rw [h.any_eq] at hload
  unfold run filterReadable
  cases hany : env'.any fun v => Settings.isUnreachable v.1 with
  | true =>
    rw [hany, if_pos rfl] at hload hload'
    rw [hload, hload', h.noAssignments, h.noAssignments']
    refine .inl ⟨?_, rfl, rfl⟩
    show breakDown host env [] .loading = breakDown host env' [] .loading
    unfold breakDown
    rw [h.report_eq]
  | false =>
    rw [hany, if_neg Bool.false_ne_true] at hload hload'
    rw [hany] at hloads
    rw [hload, hload']
    have hiff : (∃ settings, Settings.ofEnvironment env = .ok settings) ↔
        ∃ settings, Settings.ofEnvironment env' = .ok settings :=
      ⟨fun hmade => (hloads.1 ⟨rfl, hmade⟩).2, fun hmade => (hloads.2 ⟨rfl, hmade⟩).2⟩
    have hsame := Settings.samePath_of_iff h.rest noSettings_filterVariable hiff
    clear hiff hloads hload hload'
    generalize Settings.ofEnvironment env = made, Settings.ofEnvironment env' = made' at hsame ⊢
    cases hsame with
    | error => exact .inl ⟨rfl, rfl, rfl⟩
    | ok => exact .inr ⟨_, _, _, rfl, rfl, rfl, rfl⟩

/-! ## The runs -/

/-- What both runs do is the same. -/
lemma DifferInLogging.course_eq (h : DifferInLogging env files env' files') (path : String)
    (input : List UInt8) :
    course path (Configuration.ofFile files path) input =
      course path (Configuration.ofFile files' path) input :=
  Program.course_eq (ofFile_number h.files_alike path) path input

/-- A run with settings breaks down exactly if its filter cannot be read. -/
lemma exit_eq_iff {env₁ : Environment} {settings : Settings}
    (hload : load env (assignments files) = some (env₁, .ok settings)) (input : List UInt8) :
    (run host env files input).exit = 101 ↔ filterReadable env files = false := by
  refine ⟨fun hexit => ?_, fun hread => exit_of_filterReadable_eq_false hread input⟩
  cases hread : filterReadable env files with
  | false => rfl
  | true =>
    obtain ⟨_, _, hrun⟩ := @exists_outcome host _ _ _ _ hread hload input
    rw [hrun] at hexit
    unfold Course.outcome exitCode at hexit
    split at hexit
    · cases hexit
    · cases hexit

/-- What is written and how the runs exit is the same exactly if both filters can be read or
neither. -/
lemma DifferInLogging.decisions (h : DifferInLogging env files env' files')
    (hloads : Loads env files ↔ Loads env' files') (input : List UInt8) :
    ((run host env files input).output = (run host env' files' input).output ∧
      (run host env files input).exit = (run host env' files' input).exit) ↔
      filterReadable env files = filterReadable env' files' := by
  obtain ⟨hrun, hread, hread'⟩ | ⟨path, level, level', -, -, hload, hload'⟩ :=
    @load_cases host _ _ _ _ h hloads input
  · rw [hrun, hread, hread']
    exact ⟨fun _ => rfl, fun _ => ⟨rfl, rfl⟩⟩
  · have hcut := @exit_eq_iff host _ _ _ _ hload input
    have hcut' := @exit_eq_iff host _ _ _ _ hload' input
    refine ⟨fun ⟨_, hexit⟩ => ?_, fun hread => ?_⟩
    · rw [hexit, hcut'] at hcut
      exact Bool.eq_iff_iff.2 (by rw [← Bool.not_eq_false, ← Bool.not_eq_false, hcut])
    · cases hread' : filterReadable env' files' with
      | false =>
        rw [hread'] at hread
        rw [output_of_filterReadable_eq_false hread, output_of_filterReadable_eq_false hread',
          hcut.2 hread, hcut'.2 hread']
        exact ⟨rfl, rfl⟩
      | true =>
        rw [hread'] at hread
        obtain ⟨_, _, hrun⟩ := @exists_outcome host _ _ _ _ hread hload input
        obtain ⟨_, _, hrun'⟩ := @exists_outcome host _ _ _ _ hread' hload' input
        rw [hrun, hrun', h.course_eq]
        exact ⟨rfl, rfl⟩

/-- Where the filters are the same, the runs are. -/
lemma DifferInLogging.run_eq (h : DifferInLogging env files env' files')
    (hloads : Loads env files ↔ Loads env' files') (input : List UInt8)
    (hfilter : ∀ path level level', Settings.ofEnvironment env = .ok ⟨path, level⟩ →
      Settings.ofEnvironment env' = .ok ⟨path, level'⟩ →
      filterFor env (levelFor files ⟨path, level⟩) =
        filterFor env' (levelFor files' ⟨path, level'⟩)) :
    run host env files input = run host env' files' input := by
  obtain ⟨hrun, -, -⟩ | ⟨path, level, level', hset, hset', hload, hload'⟩ :=
    @load_cases host _ _ _ _ h hloads input
  · exact hrun
  · have hfilter := hfilter path level level' hset hset'
    unfold run
    rw [hload, hload']
    simp only
    cases hread : filterFor env' (levelFor files' ⟨path, level'⟩) with
    | mk complaints filter =>
      rw [hread] at hfilter
      cases filter with
      | error cut =>
        rw [proceed_of_cut hfilter, proceed_of_cut hread]
        unfold breakDown
        rw [h.report_eq]
      | ok filter => rw [proceed_of_filter hfilter, proceed_of_filter hread, h.course_eq]

/-- A text that is a filter is the filter that counts. -/
lemma filterFor_of_read {text : String} {filter : Log.Filter}
    (hset : env.get? filterVariable = some text)
    (hread : (Log.Filter.read text).run = .ok (.ok filter)) (level : String) :
    filterFor env level = ([], .ok filter) := by
  simp only [filterFor, hset, Option.map_some, hread]

/-- Where there is none in the environment, the level is read as a filter. -/
lemma Unfiltered.filterFor_eq (h : Unfiltered env) (level : String) :
    filterFor env level = Log.Filter.readLenient level := by
  unfold filterFor
  split
  · next filter hread =>
    obtain ⟨text, htext, hread⟩ := Option.map_eq_some_iff.1 hread
    obtain ⟨fault, hfault⟩ := h text htext
    rw [hfault] at hread
    cases hread
  · next cut hread =>
    obtain ⟨text, htext, hread⟩ := Option.map_eq_some_iff.1 hread
    obtain ⟨fault, hfault⟩ := h text htext
    rw [hfault] at hread
    cases hread
  · rfl

/-- Where a level is set, that of the configuration does not count. -/
lemma levelFor_of_set {path : Option String} (level : String) (files files' : Files.Node) :
    levelFor files ⟨path, some level⟩ = levelFor files' ⟨path, some level⟩ := rfl

/-- Two runs that differ in what their logs are asked to show write the same and exit the same,
exactly if the filter can be read to its end in both of them or in neither, where both have settings
or neither has. Both have or neither has if no variable but the one for the level makes the level a
map or a sequence; and the filter can always be read if no part of it begins with a blank, but for
parts of ASCII. If both have the same filter, all that is seen of them is the same. If neither has
one, and the level in the environment is set and the same in both, all that is seen of them is the
same, too, whatever the level in the configuration is. -/
theorem run_independent_of_logging (host : Host) (h : DifferInLogging env files env' files')
    (input : List UInt8) :
    ((Loads env files ↔ Loads env' files') →
      (((run host env files input).output = (run host env' files' input).output ∧
          (run host env files input).exit = (run host env' files' input).exit) ↔
        filterReadable env files = filterReadable env' files')) ∧
    (Settings.LevelIsText env → Settings.LevelIsText env' →
      (Loads env files ↔ Loads env' files')) ∧
    (PlainFilter env files → PlainFilter env' files' →
      filterReadable env files = filterReadable env' files') ∧
    (∀ text filter, env.get? filterVariable = some text → env'.get? filterVariable = some text →
      (Log.Filter.read text).run = .ok (.ok filter) → (Loads env files ↔ Loads env' files') →
      run host env files input = run host env' files' input) ∧
    (∀ value, (levelVariable, value) ∈ env →
      env.without [filterVariable] = env'.without [filterVariable] →
      Unfiltered env → Unfiltered env' →
      run host env files input = run host env' files' input) := by
  refine ⟨fun hloads => h.decisions hloads input, h.loads_iff_of_text, ?_, ?_, ?_⟩
  · intro hplain hplain'
    rw [hplain.filterReadable, hplain'.filterReadable]
  · intro text filter htext htext' hread hloads
    apply h.run_eq hloads
    intro path level level' _ _
    rw [filterFor_of_read htext hread, filterFor_of_read htext' hread]
  · intro value hvalue hrest hunfiltered hunfiltered'
    have hmade : Settings.ofEnvironment env = Settings.ofEnvironment env' := by
      have hfind : ∀ setting, Settings.find env setting = Settings.find env' setting := by
        intro setting
        apply Settings.find_eq_of_without hrest
        · exact fun v _ hname => noSettings_filterVariable v.1 hname v.2 setting
        · exact fun v _ hname => noSettings_filterVariable v.1 hname v.2 setting
      unfold Settings.ofEnvironment
      rw [hfind, hfind]
    have hloads : Loads env files ↔ Loads env' files' := by
      rw [loads_iff h.noAssignments, loads_iff h.noAssignments', h.any_eq, hmade]
    apply h.run_eq hloads
    intro path level level' hset hset'
    rw [hmade, hset'] at hset
    cases hset
    obtain ⟨text, htext⟩ := Settings.exists_level (hmade.trans hset') hvalue
    obtain rfl : level = some text := htext
    rw [hunfiltered.filterFor_eq, hunfiltered'.filterFor_eq, levelFor_of_set text files files']

/-- Files with nothing but a document that configures a gate. -/
def gateFiles (document : String) : Files.Node :=
  .directory [("gate.json", .file (Text.encode document))]

/-- A variable that says where the document is. -/
def gatePath : String × String := ("SENDER_GATE__CONFIG_PATH", "gate.json")

/-- It makes nothing of the level. -/
lemma not_makes_level_gatePath (shape : Settings.Shape) :
    ¬ Settings.Makes "log_level" gatePath shape := by
  have hpath : Settings.pathOf gatePath.1 = some [⟨"config_path", []⟩] := by decide +kernel
  intro hmakes
  obtain ⟨hname, -⟩ := (Settings.makes_iff_of_pathOf hpath).1 hmakes
  exact absurd hname (by decide)

/-- The level in the environment is blank in both runs, and what is set as a filter in one of them
is none. The levels in the configurations differ; it makes no difference. -/
theorem run_independent_of_logging_blank_level :
    ∃ files files', ∃ env env' : Environment,
      env = [gatePath, (levelVariable, " ")] ∧ env' = (filterVariable, "gate=loud") :: env ∧
      files = gateFiles "\x7b\"authorized_number\": \"+1\", \"log_level\": \"error\"\x7d" ∧
      files' = gateFiles "\x7b\"log_level\": 5, \"authorized_number\": \"+1\"\x7d" ∧
      DifferInLogging env files env' files' ∧
      (levelVariable, " ") ∈ env ∧ env.without [filterVariable] = env'.without [filterVariable] ∧
      Unfiltered env ∧ Unfiltered env' ∧
      run sampleHost env files [0x2B, 0x31, 0x0A] =
        run sampleHost env' files' [0x2B, 0x31, 0x0A] ∧
      Settings.LevelIsText env ∧ Settings.LevelIsText env' ∧
      (Loads env files ↔ Loads env' files') := by
  have hconfig : Configuration.ofText
      "\x7b\"authorized_number\": \"+1\", \"log_level\": \"error\"\x7d" =
      .ok ⟨"+1", some "error"⟩ := Configuration.ofText_eq_ok (by decide +kernel)
  have hconfig' : Configuration.ofText "\x7b\"log_level\": 5, \"authorized_number\": \"+1\"\x7d" =
      .ok ⟨"+1", none⟩ := Configuration.ofText_eq_ok (by decide +kernel)
  have hdiffer : DifferInLogging [gatePath, (levelVariable, " ")] (gateFiles _)
      [(filterVariable, "gate=loud"), gatePath, (levelVariable, " ")] (gateFiles _) :=
    { noAssignments := rfl
      files_alike := .directory (.cons (.file (.documents hconfig hconfig' rfl)) .nil)
      rest := by decide }
  have hunfiltered : Unfiltered [gatePath, (levelVariable, " ")] := by
    intro text htext
    have hnone : Environment.get? [gatePath, (levelVariable, " ")] filterVariable = none := by
      decide
    rw [hnone] at htext
    cases htext
  have hunfiltered' :
      Unfiltered [(filterVariable, "gate=loud"), gatePath, (levelVariable, " ")] := by
    intro text htext
    cases htext
    exact ⟨.levelUnknown, rfl⟩
  have hrest : Environment.without [gatePath, (levelVariable, " ")] [filterVariable] =
      Environment.without [(filterVariable, "gate=loud"), gatePath, (levelVariable, " ")]
        [filterVariable] := by decide
  have hvalue : (levelVariable, " ") ∈ [gatePath, (levelVariable, " ")] := by decide
  have hlevel : Settings.LevelIsText [gatePath, (levelVariable, " ")] :=
    (Settings.levelIsText_singleton " ").cons not_makes_level_gatePath
  have hlevel' :
      Settings.LevelIsText [(filterVariable, "gate=loud"), gatePath, (levelVariable, " ")] :=
    hlevel.cons (noSettings_filterVariable _ (List.mem_singleton_self _) "gate=loud" _)
  obtain ⟨-, hloads, -, -, hrun⟩ := run_independent_of_logging sampleHost hdiffer [0x2B, 0x31, 0x0A]
  exact ⟨_, _, _, _, rfl, rfl, rfl, rfl, hdiffer, hvalue, hrest, hunfiltered, hunfiltered',
    hrun " " hvalue hrest hunfiltered hunfiltered', hlevel, hlevel', hloads hlevel hlevel'⟩

/-- Two runs that differ in the filter alone, and both have settings. One lets the number pass; the
other one breaks down, as the name of a target would have to be cut out of the part with a wide
blank before it. -/
theorem not_independent_of_wide_blank_before_target :
    ∃ files, ∃ env env' : Environment,
      env = [gatePath] ∧ env' = [(filterVariable, "\u3000a=b"), gatePath] ∧
      files = gateFiles "\x7b\"authorized_number\": \"+1\"\x7d" ∧
      DifferInLogging env files env' files ∧ Loads env files ∧ Loads env' files ∧
      (run sampleHost env files [0x2B, 0x31, 0x0A]).output = "authorized\n" ∧
      (run sampleHost env files [0x2B, 0x31, 0x0A]).exit = 0 ∧
      (run sampleHost env' files [0x2B, 0x31, 0x0A]).output = "" ∧
      (run sampleHost env' files [0x2B, 0x31, 0x0A]).exit = 101 := by
  have hdiffer : DifferInLogging [gatePath] (gateFiles "\x7b\"authorized_number\": \"+1\"\x7d")
      [(filterVariable, "\u3000a=b"), gatePath]
      (gateFiles "\x7b\"authorized_number\": \"+1\"\x7d") :=
    { noAssignments := rfl
      files_alike := .directory (.cons (.file .refl) .nil)
      rest := by decide }
  have hload : load [gatePath] none = some ([gatePath], .ok ⟨some "gate.json", none⟩) := by
    decide +kernel
  have hload' : load [(filterVariable, "\u3000a=b"), gatePath] none =
      some ([(filterVariable, "\u3000a=b"), gatePath], .ok ⟨some "gate.json", none⟩) := by
    decide +kernel
  exact ⟨_, _, _, rfl, rfl, rfl, hdiffer, ⟨_, _, hload⟩, ⟨_, _, hload'⟩, by decide +kernel,
    by decide +kernel, by decide +kernel, by decide +kernel⟩

end Program

end Gatekeeper
