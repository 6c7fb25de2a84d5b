import Mathlib.Data.List.Basic
import Gatekeeper.Proofs.Program.Run
import Gatekeeper.Proofs.Screening.Agreement
import Gatekeeper.Proofs.Screening.Limit

/-!
# A level only filters

What a run tells the log does not depend on how much of it is shown. At one of the usual levels the
log holds the records that are at least that grave, in order and as they are at any other level. A
level that shows the decisions to let a number pass shows all decisions, one for each line that is
written.

A word for a level is read as the filter that shows what is at least that grave (`readLenient_word`,
`admits_levelFilter`), so the log of a run is its course but for the records below the level
(`runAt_eq`, `shown_levelFilter`). The course itself does not depend on the level. For the
decisions, `completeLines_course` compares the records with the lines of the output; a record about
a decision is at least as grave as the one of a number that passes (`rank_of_verdict`), and so none
of them is hidden at that level.
-/

namespace Gatekeeper

/-- The word for a severity as a level. -/
def Log.Severity.word : Severity → String
  | error => "error"
  | warn => "warn"
  | info => "info"
  | debug => "debug"
  | trace => "trace"

namespace Program

/-- The records of a course that are at least that grave. -/
def Course.upTo (course : Course) (least : Log.Severity) : List Log.Record :=
  course.records.filter fun record => record.severity.rank ≤ least.rank

/-- The decision that a record is about, if it is about one. -/
def verdict (record : Log.Record) : Option Decision :=
  match (record.fields.lookup "event").map Log.Field.text with
  | some "auth_success" => some .authorized
  | some "auth_failed_empty_number" => some .rejected
  | some "auth_failed_unauthorized" => some .rejected
  | _ => none

/-- A run for settings whose level is replaced by another one. -/
def runAt (host : Host) (env : Environment) (files : Files.Node) (settings : Settings)
    (input : List UInt8) (level : Log.Severity) : Outcome :=
  proceed host env { settings with logLevel := some level.word }
    (Configuration.ofFile files (pathOrDefault settings.configPath)) input

/-! ## The filter of a level -/

/-- The filter that shows what is at least that grave. -/
def levelFilter (least : Log.Severity) : Log.Filter := ⟨[⟨none, .all, some least⟩]⟩

/-- The word for a severity is read as the filter of that level, without a complaint. -/
lemma readLenient_word (least : Log.Severity) :
    Log.Filter.readLenient least.word = ([], .ok (levelFilter least)) := by
  cases least with
  | error => decide +kernel
  | warn => decide +kernel
  | info => decide +kernel
  | debug => decide +kernel
  | trace => decide +kernel

/-- That filter shows what is at least that grave, whatever its target and its fields are. -/
lemma admits_levelFilter (least : Log.Severity) (record : Log.Record) :
    (levelFilter least).admits record = decide (record.severity.rank ≤ least.rank) := rfl

/-- The word is also the level that counts, whatever is configured. -/
lemma effectiveLevel_word (least : Log.Severity) (config : Option String) :
    Log.effectiveLevel (some least.word) config = least.word := by
  show Log.effectiveLevel (some least.word) none = least.word
  cases least with
  | error => decide +kernel
  | warn => decide +kernel
  | info => decide +kernel
  | debug => decide +kernel
  | trace => decide +kernel

/-- At the level of traces all records are shown. -/
lemma upTo_trace (course : Course) : course.upTo .trace = course.records := by
  apply List.filter_eq_self.2
  intro record _
  cases record with
  | mk severity => cases severity with
    | _ => rfl

/-- A stricter level shows some of the records that a looser one shows, in their order. -/
lemma upTo_sublist (course : Course) {strict loose : Log.Severity}
    (h : strict.rank ≤ loose.rank) : (course.upTo strict).Sublist (course.upTo loose) := by
  apply List.monotone_filter_right
  intro record hrank
  exact decide_eq_true ((of_decide_eq_true hrank).trans h)

/-! ## The decisions among the records -/

/-- What a gate tells of being loaded is about no decision. -/
lemma verdict_loadFault (fault : LoadFault) : verdict fault.event.record = none := by
  cases fault with
  | notFound path => rfl
  | notRead path fault => rfl
  | invalid path defect => cases defect with
    | _ => rfl

/-- What it tells of a line is about the decision on the line. -/
lemma verdict_decide (gate : Gate) (line : String) :
    verdict (gate.decide line).2.record = some (gate.decide line).1 := by
  obtain ⟨-, h⟩ | ⟨-, h⟩ | ⟨-, h⟩ := gate.decide_cases line
  · rw [h]
    rfl
  · rw [h]
    rfl
  · rw [h]
    rfl

/-- A record about a decision is at least as grave as the one of a number that passes. -/
lemma rank_of_verdict (event : Event) (h : verdict event.record ≠ none) :
    event.severity.rank ≤ Log.Severity.info.rank := by
  cases event with
  | emptyNumber candidate => exact (by decide : Log.Severity.warn.rank ≤ Log.Severity.info.rank)
  | unauthorized candidate masked =>
    exact (by decide : Log.Severity.warn.rank ≤ Log.Severity.info.rank)
  | authorized candidate => exact Nat.le_refl _
  | loaded path => exact absurd rfl h
  | notFound path => exact absurd rfl h
  | notJson path reason => exact absurd rfl h
  | noNumber path reason => exact absurd rfl h
  | notRead path reason => exact absurd rfl h

/-- With a gate the log is told of its events between the notices. -/
lemma exists_records (path : String) (config : Configuration) (input : List UInt8) :
    ∃ last, (last = [] ∨ last = [finished]) ∧
      (course path (.ok config) input).records =
        starting :: (Event.loaded path).record :: ready path ::
          (((Gate.ofConfiguration config path).1.screenInput none input).events.map Event.record ++
            last) := by
  simp only [course, Gate.ofResult, screenWith]
  split
  · exact ⟨[finished], .inr rfl, rfl⟩
  · exact ⟨[], .inl rfl, by rw [List.append_nil]; rfl⟩

/-- All records are of events or are notices. -/
lemma mem_records {path : String} {config : Except LoadFault Configuration} {input : List UInt8}
    {record : Log.Record} (h : record ∈ (course path config input).records) :
    (∃ event : Event, record = event.record) ∨ ∃ message, record = notice message := by
  cases config with
  | error fault =>
    have hrecord : record ∈ [starting, fault.event.record] := h
    obtain rfl | hrecord := List.mem_cons.1 hrecord
    · exact .inr ⟨_, rfl⟩
    · exact .inl ⟨_, List.mem_singleton.1 hrecord⟩
  | ok config =>
    obtain ⟨last, hlast, hrecords⟩ := exists_records path config input
    rw [hrecords, List.mem_cons, List.mem_cons, List.mem_cons, List.mem_append] at h
    obtain rfl | rfl | rfl | hevent | hend := h
    · exact .inr ⟨_, rfl⟩
    · exact .inl ⟨_, rfl⟩
    · exact .inr ⟨_, rfl⟩
    · obtain ⟨event, -, rfl⟩ := List.mem_map.1 hevent
      exact .inl ⟨event, rfl⟩
    · obtain rfl | rfl := hlast
      · cases hend
      · exact .inr ⟨_, List.mem_singleton.1 hend⟩

/-- A level that shows the records of numbers that pass hides no record about a decision. -/
lemma verdicts_upTo {path : String} {config : Except LoadFault Configuration}
    {input : List UInt8} {least : Log.Severity} (h : Log.Severity.info.rank ≤ least.rank) :
    ((course path config input).upTo least).filterMap verdict =
      (course path config input).records.filterMap verdict := by
  unfold Course.upTo
  rw [List.filterMap_filter]
  apply List.filterMap_congr
  intro record hrecord
  split
  · rfl
  · next hhidden =>
    obtain ⟨event, rfl⟩ | ⟨message, rfl⟩ := mem_records hrecord
    · by_contra hverdict
      exact hhidden (decide_eq_true ((rank_of_verdict event (Ne.symm hverdict)).trans h))
    · rfl

/-- Without a limit on the output the trail is told of all leading texts, one by one. -/
lemma events_unlimited (gate : Gate) (input : List UInt8) :
    (gate.screenInput none input).events =
      (Text.leadingTexts (Text.splitLines input)).map fun line => (gate.decide line).2 := by
  obtain ⟨rest, fault, hlines, hstop, -⟩ := Screening.exists_leadingTexts (Text.splitLines input)
  rw [Screening.screenInput_eq, hlines, Screening.screenLines_append, hstop,
    Screening.answerAll_events, ← hlines, List.append_nil]

/-- The records of these events are about the decisions on the texts. -/
lemma verdicts_events (gate : Gate) (input : List UInt8) :
    ((gate.screenInput none input).events.map Event.record).filterMap verdict =
      (Text.leadingTexts (Text.splitLines input)).map fun line => (gate.decide line).1 := by
  have hverdict : (verdict ∘ Event.record ∘ fun line => (gate.decide line).2) =
      some ∘ fun line => (gate.decide line).1 := funext (verdict_decide gate)
  rw [events_unlimited, List.map_map, List.filterMap_map, hverdict, List.filterMap_eq_map]

/-- The records about decisions are about those that are written, in their order. -/
lemma completeLines_course (path : String) (config : Except LoadFault Configuration)
    (input : List UInt8) :
    Screening.completeLines (course path config input).output =
      ((course path config input).records.filterMap verdict).map Decision.word := by
  cases config with
  | error fault =>
    show [] = ([starting, fault.event.record].filterMap verdict).map Decision.word
    rw [List.filterMap_cons_none rfl, List.filterMap_cons_none (verdict_loadFault fault)]
    rfl
  | ok config =>
    obtain ⟨last, hlast, hrecords⟩ := exists_records path config input
    have hend : last.filterMap verdict = [] := by
      obtain rfl | rfl := hlast
      · rfl
      · rfl
    rw [(course_ok path config input).1, hrecords, List.filterMap_cons_none rfl,
      List.filterMap_cons_none rfl, List.filterMap_cons_none rfl, List.filterMap_append, hend,
      List.append_nil, verdicts_events,
      Screening.completeLines_screenInput, List.map_map]
    rfl

/-! ## The log at a level -/

section
variable {host : Host} {env env' : Environment} {files : Files.Node} {settings : Settings}

/-- Where the variable with the filter is not set, the level is read as a filter. -/
lemma filterFor_of_unset {level : String} (h : env.get? filterVariable = none) :
    filterFor env level = Log.Filter.readLenient level := by
  unfold filterFor
  rw [h]
  rfl

/-- At a level a run takes its course, and what is at least that grave is shown. -/
lemma runAt_eq (hunset : env.get? filterVariable = none) (input : List UInt8)
    (level : Log.Severity) :
    runAt host env files settings input level =
      (course (pathOrDefault settings.configPath)
        (Configuration.ofFile files (pathOrDefault settings.configPath)) input).outcome []
        (levelFilter level) := by
  unfold runAt proceed
  simp only
  rw [effectiveLevel_word, filterFor_of_unset hunset, readLenient_word]

/-- The filter of a level shows the records up to that level. -/
lemma shown_levelFilter (level : Log.Severity) (course : Course) :
    shown (levelFilter level) course.records = (course.upTo level).map Log.Record.written := by
  unfold shown Course.upTo
  rw [funext (admits_levelFilter level)]

/-- The log of a run at one of the usual levels holds the records that are at least that grave, in
order and as they are written at the level that shows all; the stricter the level, the fewer. If it
shows the records of numbers that pass, there is one record for each line that is written, and it is
about the decision on that line. -/
theorem log_filtered_by_level {least : Log.Severity} (host : Host)
    (hload : load env (assignments files) = some (env', .ok settings))
    (hunset : env'.get? filterVariable = none)
    (hlevel : levelFor files settings = least.word) (input : List UInt8) :
    let course := course (pathOrDefault settings.configPath)
      (Configuration.ofFile files (pathOrDefault settings.configPath)) input
    run host env files input = runAt host env' files settings input least ∧
    (∀ level, (runAt host env' files settings input level).log =
      ((course.upTo level).map Log.Record.written ++ lastWords course.failure).flatMap
        Log.linesOf) ∧
    course.upTo .trace = course.records ∧
    (∀ strict loose : Log.Severity, strict.rank ≤ loose.rank →
      (course.upTo strict).Sublist (course.upTo loose)) ∧
    (Log.Severity.info.rank ≤ least.rank →
      Screening.completeLines (run host env files input).output =
        ((course.upTo least).filterMap verdict).map Decision.word) := by
  intro course
  have hfilter : filterFor env' (levelFor files settings) = ([], .ok (levelFilter least)) := by
    rw [filterFor_of_unset hunset, hlevel, readLenient_word]
  have hrun : run host env files input = course.outcome [] (levelFilter least) := by
    unfold run
    rw [hload]
    exact proceed_of_filter hfilter input
  refine ⟨?_, fun level => ?_, upTo_trace course, fun _ _ => upTo_sublist course, fun hinfo => ?_⟩
  · rw [hrun, runAt_eq hunset]
  · rw [runAt_eq hunset]
    show ([] ++ shown (levelFilter level) course.records ++ _).flatMap Log.linesOf = _
    rw [List.nil_append, shown_levelFilter]
  · rw [hrun, verdicts_upTo hinfo]
    exact completeLines_course _ _ input

end

/-- A level with blanks around it and in upper case. Of two lines one is a number that passes. -/
theorem log_filtered_by_level_spelled :
    ∃ env env' settings,
      env = [("SENDER_GATE__LOG_LEVEL", " INFO\u3000")] ∧
      load env (assignments sampleFiles) = some (env', .ok settings) ∧
      env'.get? filterVariable = none ∧
      levelFor sampleFiles settings = Log.Severity.info.word ∧
      Screening.completeLines
          (run sampleHost env sampleFiles [0x2B, 0x31, 0x0A, 0x2B, 0x0A]).output =
        (((course (pathOrDefault settings.configPath)
          (Configuration.ofFile sampleFiles (pathOrDefault settings.configPath))
          [0x2B, 0x31, 0x0A, 0x2B, 0x0A]).upTo .info).filterMap verdict).map Decision.word := by
  have hload : load [("SENDER_GATE__LOG_LEVEL", " INFO\u3000")] (assignments sampleFiles) =
      some ([("SENDER_GATE__LOG_LEVEL", " INFO\u3000"), ("SENDER_GATE__CONFIG_PATH", "gate.json")],
        .ok ⟨some "gate.json", some " INFO\u3000"⟩) := by decide +kernel
  have hlevel : levelFor sampleFiles ⟨some "gate.json", some " INFO\u3000"⟩ =
      Log.Severity.info.word := by decide +kernel
  exact ⟨_, _, _, rfl, hload, rfl, hlevel,
    (log_filtered_by_level sampleHost hload rfl hlevel _).2.2.2.2 (Nat.le_refl _)⟩

end Program

end Gatekeeper
