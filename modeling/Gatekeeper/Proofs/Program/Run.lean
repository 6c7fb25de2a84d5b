import Gatekeeper.Proofs.Gate.Check
import Gatekeeper.Proofs.Log.Readable
import Gatekeeper.Proofs.Program.Settings
import Gatekeeper.Proofs.Screening.Answers

/-!
# A run from end to end

What a run writes and how it exits is told by three things: whether the settings and the
configuration can be had, and whether the input is a text. Nothing is let through for want of any of
them. `Orderly` is all of that, for one run.

There is one exception, and it has nothing to do with these: a filter of the log that would have to
be cut in the middle of a character breaks the run down before it begins. Such a run is
`breakDown_of_filterReadable_eq_false`: it writes nothing, exits with a code of its own, and its log
ends with a report that names a character in the way. `filterReadable` excludes it, and it is
all that has to be excluded: `orderly_iff_filterReadable` says of every run that it is orderly
exactly if its filter can be read. `PlainFilter` is enough for that, and can be seen without reading
the filter.

The proof goes over the ways a run can go: `proceed_of_cut` and `proceed_of_filter` for a run that
has its settings, `run_of_configured` and `run_of_not_configured` for what comes of them.
-/

namespace Gatekeeper.Program

variable {host : Host} {env : Environment} {files : Files.Node} {path : String}
  {config : Configuration}

/-- The settings can be loaded, and so can the configuration at the path they lead to. -/
def Configured (env : Environment) (files : Files.Node) (path : String)
    (config : Configuration) : Prop :=
  ∃ env' settings, load env (assignments files) = some (env', .ok settings) ∧
    path = pathOrDefault settings.configPath ∧ Configuration.ofFile files path = .ok config

/-- The level of the log that settings lead to. -/
def levelFor (files : Files.Node) (settings : Settings) : String :=
  Log.effectiveLevel settings.logLevel
    (Configuration.levelOf (Configuration.ofFile files (pathOrDefault settings.configPath)))

/-- The filter of the log can be read to its end, if there are settings for one. -/
def filterReadable (env : Environment) (files : Files.Node) : Bool :=
  match load env (assignments files) with
  | some (env, .ok settings) => (filterFor env (levelFor files settings)).2.isOk
  | _ => true

/-- No part of the filter in the environment or of the level begins with a blank, but for parts of
ASCII. -/
def PlainFilter (env : Environment) (files : Files.Node) : Prop :=
  ∀ env' settings, load env (assignments files) = some (env', .ok settings) →
    (∀ text, env'.get? filterVariable = some text → Log.Filter.Plain text) ∧
    Log.Filter.Plain (levelFor files settings)

/-- What a run has to come to: it succeeds exactly if it is configured and its input is a text, and
fails otherwise; it writes what screening writes, on the gate that the text of the file configures,
and nothing if there is no such gate; and where it writes `authorized` stands the number. -/
structure Orderly (host : Host) (env : Environment) (files : Files.Node) (input : List UInt8) :
    Prop where
  exit_eq_zero_iff :
    (run host env files input).exit = 0 ↔
      (∃ path config, Configured env files path config) ∧ Text.IsText input
  exit_eq_one :
    ¬ ((∃ path config, Configured env files path config) ∧ Text.IsText input) →
      (run host env files input).exit = 1
  silent :
    (∀ path config, ¬ Configured env files path config) → (run host env files input).output = ""
  screened :
    ∀ path config, Configured env files path config →
      ∃ bytes text, files.read path = .ok bytes ∧ Text.decode bytes = some text ∧
        Configuration.ofText text = .ok config ∧
        (run host env files input).output =
          ((Gate.ofConfiguration config path).1.screenInput none input).output
  authorized_only :
    ∀ i : Nat, (Text.splitLines (Text.encode (run host env files input).output))[i]? =
        some (Text.encode "authorized") →
      ∃ path config, Configured env files path config ∧
        (Text.splitLines input)[i]? = some (Text.encode config.number)

/-! ## Filters -/

/-- What goes wrong as the filter is read goes wrong in a part of the variable or of the level. -/
lemma filterFor_cuts {level : String} {P : Log.Rule.Cut → Prop} {cut : Log.Rule.Cut}
    (hvariable : ∀ text, env.get? filterVariable = some text →
      ∀ part ∈ Log.Filter.parts text, Log.Rule.Cuts P (Log.Rule.ofPart part))
    (hlevel : ∀ part ∈ Log.Filter.parts level, Log.Rule.Cuts P (Log.Rule.ofPart part))
    (h : (filterFor env level).2 = .error cut) : P cut := by
  unfold filterFor at h
  split at h
  · cases h
  · next hcut =>
    cases h
    obtain ⟨text, htext, hread⟩ := Option.map_eq_some_iff.1 hcut
    exact Log.Filter.read_cuts (hvariable text htext) _ hread
  · exact Log.Filter.readLenient_cuts hlevel h

/-- There is a filter if neither the variable nor the level has a part that could be cut. -/
lemma isOk_filterFor {level : String}
    (hvariable : ∀ text, env.get? filterVariable = some text → Log.Filter.Plain text)
    (hlevel : Log.Filter.Plain level) : (filterFor env level).2.isOk := by
  unfold filterFor
  split
  · rfl
  · next cut hcut =>
    obtain ⟨text, htext, hread⟩ := Option.map_eq_some_iff.1 hcut
    exact absurd hread ((hvariable text htext).read_uncut cut)
  · exact hlevel.isOk_readLenient

/-- Only a part that begins with a blank and is no ASCII keeps a filter from being read. -/
lemma PlainFilter.filterReadable (h : PlainFilter env files) : filterReadable env files = true := by
  unfold Program.filterReadable
  split
  · next env' settings hload =>
    obtain ⟨hvariable, hlevel⟩ := h env' settings hload
    exact isOk_filterFor hvariable hlevel
  · rfl

/-- The part in which a filter cannot be read is one of the variable or of the level, and has a
character in the way. -/
lemma exists_part_of_cut {level : String} {cut : Log.Rule.Cut}
    (h : (filterFor env level).2 = .error cut) :
    ∃ text, (env.get? filterVariable = some text ∨ text = level) ∧
      ∃ part ∈ Log.Filter.parts text, cut.miscut.Lies part := by
  revert h
  apply filterFor_cuts
  · intro text htext part hpart cut hcut
    exact ⟨text, .inl htext, part, hpart, Log.Rule.Cut.lies_of_ofPart hcut⟩
  · intro part hpart cut hcut
    exact ⟨level, .inr rfl, part, hpart, Log.Rule.Cut.lies_of_ofPart hcut⟩

/-! ## Loading -/

/-- Where variables have no brackets in their names and the file of assignments no NUL character,
the settings are there or faulty, and the run does not break down on them. -/
lemma load_ne_none (hnames : env.Unindexed)
    (hnul : ∀ content, assignments files = some content → 0 ∉ content) :
    load env (assignments files) ≠ none := by
  cases hcontent : assignments files with
  | none => exact mt load_none_eq_none_iff.1 hnames.not_hasUnreachable
  | some content =>
    obtain ⟨good, rest, assigned, h⟩ :=
      Environment.exists_readsUpTo env (Environment.fileLines content)
    rw [load_some (hnul content hcontent), h.supplyFile_eq]
    exact mt (load_none_eq_none_iff.trans h.reads.hasUnreachable_iff).1 hnames.not_hasUnreachable

/-! ## The ways a run goes -/

/-- With a filter that cannot be read a run breaks down. -/
lemma proceed_of_cut {settings : Settings} {complaints : List String} {cut : Log.Rule.Cut}
    (h : filterFor env (levelFor files settings) = (complaints, .error cut)) (input : List UInt8) :
    proceed host env settings (Configuration.ofFile files (pathOrDefault settings.configPath))
        input =
      breakDown host env complaints (.filter cut) := by
  unfold levelFor at h
  simp only [proceed, h]

/-- With a filter it takes its course. -/
lemma proceed_of_filter {settings : Settings} {complaints : List String} {filter : Log.Filter}
    (h : filterFor env (levelFor files settings) = (complaints, .ok filter))
    (input : List UInt8) :
    proceed host env settings (Configuration.ofFile files (pathOrDefault settings.configPath))
        input =
      (course (pathOrDefault settings.configPath)
        (Configuration.ofFile files (pathOrDefault settings.configPath)) input).outcome
        complaints filter := by
  unfold levelFor at h
  simp only [proceed, h]

/-- A run whose filter cannot be read breaks down, whatever its input is. After the complaints it
reports a character that is in the way, in a part of the variable or of the level. -/
theorem breakDown_of_filterReadable_eq_false (h : filterReadable env files = false) :
    ∃ env' settings complaints cut text,
      load env (assignments files) = some (env', .ok settings) ∧
      (env'.get? filterVariable = some text ∨ text = levelFor files settings) ∧
      (∃ part ∈ Log.Filter.parts text, cut.miscut.Lies part) ∧
      ∀ host input, run host env files input = breakDown host env' complaints (.filter cut) := by
  unfold filterReadable at h
  split at h
  · next env' settings hload =>
    cases hfilter : filterFor env' (levelFor files settings) with
    | mk complaints filter =>
      rw [hfilter] at h
      cases filter with
      | ok filter => cases h
      | error cut =>
        obtain ⟨text, htext, hpart⟩ := exists_part_of_cut (congrArg Prod.snd hfilter)
        refine ⟨env', settings, complaints, cut, text, hload, htext, hpart, fun host input => ?_⟩
        unfold run
        rw [hload]
        exact proceed_of_cut hfilter input
  · cases h

/-- It has an exit code of its own. -/
lemma exit_of_filterReadable_eq_false (h : filterReadable env files = false)
    (input : List UInt8) : (run host env files input).exit = 101 := by
  obtain ⟨_, _, _, _, _, -, -, -, hrun⟩ := breakDown_of_filterReadable_eq_false h
  rw [hrun]
  rfl

/-- It writes nothing. -/
lemma output_of_filterReadable_eq_false (h : filterReadable env files = false)
    (input : List UInt8) : (run host env files input).output = "" := by
  obtain ⟨_, _, _, _, _, -, -, -, hrun⟩ := breakDown_of_filterReadable_eq_false h
  rw [hrun]
  rfl

/-- Otherwise a run with settings takes its course. -/
lemma exists_outcome {env' settings} (hfilter : filterReadable env files = true)
    (hload : load env (assignments files) = some (env', .ok settings)) (input : List UInt8) :
    ∃ complaints filter, run host env files input =
      (course (pathOrDefault settings.configPath)
        (Configuration.ofFile files (pathOrDefault settings.configPath)) input).outcome
        complaints filter := by
  unfold filterReadable at hfilter
  rw [hload] at hfilter
  unfold run
  rw [hload]
  simp only at hfilter ⊢
  cases e : filterFor env' (levelFor files settings) with
  | mk complaints filter =>
    rw [e] at hfilter
    cases filter with
    | error cut => cases hfilter
    | ok filter => exact ⟨complaints, filter, proceed_of_filter e input⟩

/-- The course of a run with a configuration is what screening on its gate comes to. -/
lemma course_ok (path : String) (config : Configuration) (input : List UInt8) :
    (course path (.ok config) input).output =
      ((Gate.ofConfiguration config path).1.screenInput none input).output ∧
    (course path (.ok config) input).failure =
      ((Gate.ofConfiguration config path).1.screenInput none input).fault.map .stream := by
  simp only [course, Gate.ofResult, screenWith]
  split
  · next hfault =>
    rw [hfault]
    exact ⟨rfl, rfl⟩
  · next fault hfault =>
    rw [hfault]
    exact ⟨rfl, rfl⟩

/-- With a gate the run writes what screening writes, and exits as screening ends. -/
lemma run_of_configured (hfilter : filterReadable env files = true)
    (h : Configured env files path config) (input : List UInt8) :
    (run host env files input).output =
      ((Gate.ofConfiguration config path).1.screenInput none input).output ∧
    (run host env files input).exit =
      exitCode (((Gate.ofConfiguration config path).1.screenInput none input).fault.map
        .stream) := by
  obtain ⟨env', settings, hload, rfl, hconfig⟩ := h
  obtain ⟨complaints, filter, hrun⟩ := exists_outcome hfilter hload input
  obtain ⟨houtput, hfailure⟩ := course_ok (pathOrDefault settings.configPath) config input
  rw [hconfig] at hrun
  rw [hrun, ← houtput, ← hfailure]
  exact ⟨rfl, rfl⟩

/-- Without one it writes nothing and fails. -/
lemma run_of_not_configured (hload : load env (assignments files) ≠ none)
    (hfilter : filterReadable env files = true)
    (h : ∀ path config, ¬ Configured env files path config) (input : List UInt8) :
    (run host env files input).output = "" ∧ (run host env files input).exit = 1 := by
  cases e : load env (assignments files) with
  | none => exact absurd e hload
  | some loaded =>
    obtain ⟨env', fault | settings⟩ := loaded
    · unfold run
      rw [e]
      exact ⟨rfl, rfl⟩
    · obtain ⟨complaints, filter, hrun⟩ := exists_outcome hfilter e input
      rw [hrun]
      cases hconfig : Configuration.ofFile files (pathOrDefault settings.configPath) with
      | error fault => exact ⟨rfl, rfl⟩
      | ok config => exact absurd ⟨env', settings, e, rfl, hconfig⟩ (h _ config)

/-! ## Lines that say authorized -/

/-- A line of the output says `authorized` only where the line of the input is the number. -/
lemma getElem?_of_authorized {gate : Gate} (made : gate.Made) {input : List UInt8} {i : Nat}
    (h : (Text.splitLines (Text.encode (gate.screenInput none input).output))[i]? =
      some (Text.encode "authorized")) :
    (Text.splitLines input)[i]? = some (Text.encode gate.number) := by
  -- The lines of the output are as many as the texts that the input begins with, in their order.
  obtain ⟨rest, fault, hlines, -, -⟩ := Screening.exists_leadingTexts (Text.splitLines input)
  rw [(Screening.screenInput_unlimited gate input).1, Screening.splitLines_answers,
    List.getElem?_map] at h
  generalize Text.leadingTexts (Text.splitLines input) = numbers at h hlines
  obtain ⟨number, hnumber, hword⟩ := Option.map_eq_some_iff.1 h
  have hpasses : (gate.check (some number)).1 = true := by
    unfold Gate.decide Gate.checkNumber at hword
    cases hcheck : gate.check (some number) with
    | mk passes event =>
      rw [hcheck] at hword
      cases passes with
      | true => rfl
      | false =>
        have hrejected : Text.encode "rejected" = Text.encode "authorized" := hword
        exact absurd hrejected (by decide)
  have hself : number = gate.number := Option.some.inj ((made.check_iff _).1 hpasses)
  rw [hlines, List.getElem?_append_left, List.getElem?_map, hnumber, hself]
  · rfl
  · rw [List.length_map]
    exact (List.getElem?_eq_some_iff.1 hnumber).1

/-! ## The run as a whole -/

/-- A run whose filter can be read succeeds if it is configured and its input is a text, and fails
otherwise. -/
lemma exit_cases (hload : load env (assignments files) ≠ none)
    (hfilter : filterReadable env files = true) (input : List UInt8) :
    (run host env files input).exit = 0 ∧
      ((∃ path config, Configured env files path config) ∧ Text.IsText input) ∨
    (run host env files input).exit = 1 ∧
      ¬ ((∃ path config, Configured env files path config) ∧ Text.IsText input) := by
  by_cases hconfigured : ∃ path config, Configured env files path config
  · obtain ⟨path, config, h⟩ := id hconfigured
    obtain ⟨-, hexit⟩ := run_of_configured hfilter h input
    obtain ⟨-, hfault⟩ := Screening.screenInput_unlimited (Gate.ofConfiguration config path).1 input
    by_cases htext : Text.IsText input
    · rw [hfault.2 htext] at hexit
      exact .inl ⟨hexit, hconfigured, htext⟩
    · obtain ⟨fault, e⟩ := Option.ne_none_iff_exists'.1 (mt hfault.1 htext)
      rw [e] at hexit
      exact .inr ⟨hexit, fun h => htext h.2⟩
  · have hnone : ∀ path config, ¬ Configured env files path config :=
      fun path config h => hconfigured ⟨path, config, h⟩
    exact .inr ⟨(run_of_not_configured hload hfilter hnone input).2, fun h => hconfigured h.1⟩

/-- A run whose filter can be read is orderly. -/
lemma orderly_of_filterReadable (hload : load env (assignments files) ≠ none)
    (hfilter : filterReadable env files = true) (input : List UInt8) :
    Orderly host env files input := by
  have hexit := @exit_cases host _ _ hload hfilter input
  refine ⟨⟨fun hzero => ?_, fun hgood => ?_⟩, fun hbad => ?_, fun hnone => ?_,
    fun path config h => ?_, fun i hi => ?_⟩
  · obtain ⟨-, hgood⟩ | ⟨hone, -⟩ := hexit
    · exact hgood
    · rw [hzero] at hone
      cases hone
  · obtain ⟨hzero, -⟩ | ⟨-, hbad⟩ := hexit
    · exact hzero
    · exact absurd hgood hbad
  · obtain ⟨-, hgood⟩ | ⟨hone, -⟩ := hexit
    · exact absurd hgood hbad
    · exact hone
  · exact (run_of_not_configured hload hfilter hnone input).1
  · obtain ⟨_, _, -, -, hconfig⟩ := id h
    obtain ⟨bytes, text, hbytes, htext, hof⟩ := Configuration.exists_text_of_ofFile hconfig
    exact ⟨bytes, text, hbytes, htext, hof, (run_of_configured hfilter h input).1⟩
  · by_cases hconfigured : ∃ path config, Configured env files path config
    · obtain ⟨path, config, h⟩ := hconfigured
      obtain ⟨_, _, -, -, hconfig⟩ := id h
      rw [(run_of_configured hfilter h input).1] at hi
      have made := Configuration.made_of_ofFile hconfig path
      exact ⟨path, config, h, getElem?_of_authorized made hi⟩
    · have hnone : ∀ path config, ¬ Configured env files path config :=
        fun path config h => hconfigured ⟨path, config, h⟩
      rw [(run_of_not_configured hload hfilter hnone input).1] at hi
      cases hi

/-- A run that breaks down is not: it neither succeeds nor fails. -/
lemma not_orderly (hfilter : filterReadable env files = false) (input : List UInt8) :
    ¬ Orderly host env files input := by
  intro horderly
  have hexit : (run host env files input).exit = 101 :=
    exit_of_filterReadable_eq_false hfilter input
  by_cases hgood : (∃ path config, Configured env files path config) ∧ Text.IsText input
  · rw [horderly.exit_eq_zero_iff.2 hgood] at hexit
    cases hexit
  · rw [horderly.exit_eq_one hgood] at hexit
    cases hexit

/-- A run is orderly exactly if the filter of its log can be read to its end, and it always can be
if none of its parts begins with a blank, but for parts of ASCII. -/
theorem orderly_iff_filterReadable (host : Host)
    (hnames : ∀ v ∈ env, ∀ c ∈ v.1.toList, c.isAlphanum = true ∨ c = '_')
    (hnul : ∀ content, assignments files = some content → 0 ∉ content) (input : List UInt8) :
    (Orderly host env files input ↔ filterReadable env files = true) ∧
    (PlainFilter env files → filterReadable env files = true) := by
  have hunindexed : env.Unindexed := by
    intro v hv hmem
    exact absurd (hnames v hv ']' hmem) (by decide)
  have hload := load_ne_none hunindexed hnul
  refine ⟨?_, PlainFilter.filterReadable⟩
  cases hfilter : filterReadable env files with
  | true => exact ⟨fun _ => rfl, fun _ => orderly_of_filterReadable hload hfilter input⟩
  | false => exact ⟨fun horderly => absurd horderly (not_orderly hfilter input), nofun⟩

/-- Files with a configuration, and a file of assignments that says where it is. -/
def sampleFiles : Files.Node := .directory [
  (".env", .file (Text.encode "SENDER_GATE__CONFIG_PATH = 'gate.json' # ours\n")),
  ("gate.json", .file (Text.encode "\x7b\"authorized_number\": \"+1\"\x7d"))]

/-- The name of the variable with the filter is made of letters and an underscore. -/
lemma filterVariable_name (text : String) :
    ∀ v ∈ [(filterVariable, text)], ∀ c ∈ v.1.toList, c.isAlphanum = true ∨ c = '_' := by
  have hall : filterVariable.toList.all (fun c => c.isAlphanum || c == '_') = true := by decide
  intro v hv c hc
  rw [List.mem_singleton.1 hv] at hc
  have hname := List.all_eq_true.1 hall c hc
  rw [Bool.or_eq_true, beq_iff_eq] at hname
  exact hname

/-- No NUL character is in that file. -/
lemma sampleFiles_noNul (content : List UInt8) (h : assignments sampleFiles = some content) :
    0 ∉ content := by
  cases h
  decide

/-- The first process of a machine that tells no more of a breakdown than it has to. -/
def sampleHost : Host where
  thread := 1
  place := fun _ => "the filter"
  loading := "no settings"
  calls := fun _ => []

/-- A filter with a wide blank before its level is read; a line of the input is no text. -/
theorem orderly_of_wide_blank_before_level :
    (∀ v ∈ [("RUST_LOG", "\u3000info")], ∀ c ∈ v.1.toList, c.isAlphanum = true ∨ c = '_') ∧
    (∀ content, assignments sampleFiles = some content → 0 ∉ content) ∧
    filterReadable [("RUST_LOG", "\u3000info")] sampleFiles = true ∧
    Orderly sampleHost [("RUST_LOG", "\u3000info")] sampleFiles [0x2B, 0x31, 0x0A, 0xFF] := by
  have hfilter : filterReadable [("RUST_LOG", "\u3000info")] sampleFiles = true := by
    decide +kernel
  exact ⟨filterVariable_name _, sampleFiles_noNul, hfilter,
    (orderly_iff_filterReadable sampleHost (filterVariable_name _) sampleFiles_noNul _).1.2
      hfilter⟩

/-- The same blank before a rule with a target: the name of the target would have to be cut out of
the part where the blank is, and the run breaks down, whatever the gate is and the input. -/
theorem not_orderly_of_wide_blank_before_target :
    (∀ v ∈ [("RUST_LOG", "\u3000a=b")], ∀ c ∈ v.1.toList, c.isAlphanum = true ∨ c = '_') ∧
    (∀ content, assignments sampleFiles = some content → 0 ∉ content) ∧
    run sampleHost [("RUST_LOG", "\u3000a=b")] sampleFiles [0x2B, 0x31, 0x0A] =
      ⟨101, "", ["", "thread 'main' (1) panicked at the filter:",
        "end byte index 1 is not a char boundary; it is inside '\\u\x7b3000\x7d' " ++
          "(bytes 0..3 of string)",
        "note: run with `RUST_BACKTRACE=1` environment variable to display a backtrace"]⟩ ∧
    ¬ Orderly sampleHost [("RUST_LOG", "\u3000a=b")] sampleFiles [0x2B, 0x31, 0x0A] := by
  have hfilter : filterReadable [("RUST_LOG", "\u3000a=b")] sampleFiles = false := by
    decide +kernel
  exact ⟨filterVariable_name _, sampleFiles_noNul, by decide +kernel, not_orderly hfilter _⟩

end Gatekeeper.Program
