import Gatekeeper.Proofs.Screening.Answers

/-!
# Output and audit trail agree

The output and the audit trail are two accounts of the same decisions, whatever stops screening. A
line is decided if it and all lines before it are texts and the answers to those before it fit; each
such line is told to the audit trail, and each is answered by a complete line of the output, but for
the last one if its answer does not fit.

`Screened` has one case for each way on which screening goes past a line or stops at it, and
`screened` is that there is no other. All else is an induction over it: which lines are decided
(`Screened.lt_length_iff`), what stands in the output (`Screened.exists_output`) and how many of its
lines are complete (`Screened.completeLines_prefix`).
-/

namespace Gatekeeper

/-- What the audit trail holds of a line that is decided. -/
def Gate.account (gate : Gate) (line : String) : Log.Record :=
  if (gate.decide line).1 = .authorized then
    ⟨.info, "sender_gate::gate", "Sender authorized",
      [("event", .quoted "auth_success"), ("phone_number", .quoted line)]⟩
  else if line = "" then
    ⟨.warn, "sender_gate::gate", "Rejected sender: empty phone number",
      [("event", .quoted "auth_failed_empty_number"), ("phone_number", .plain "Some(\"\")")]⟩
  else
    ⟨.warn, "sender_gate::gate", "Rejected sender: not the authorized number",
      [("event", .quoted "auth_failed_unauthorized"), ("phone_number", .quoted line),
        ("authorized_number", .plain (mask gate.number))]⟩

namespace Screening

/-- The lines of an output that a line feed ends. -/
def completeLines (output : String) : List String :=
  (output.toList.splitOn '\n').dropLast.map String.ofList

/-- How screening goes, with the lines it decides: to the end of the input, up to a line that is no
text, up to an answer that does not fit, or past an answer that does. -/
inductive Screened (gate : Gate) :
    Option Nat → List (List UInt8) → List String → Screening → Prop where
  | done {room} :
    Screened gate room [] [] .finished
  | notText {room bad lines} :
    ¬ Text.IsText bad →
    Screened gate room (bad :: lines) [] ⟨"", [], some .notText⟩
  | full {room number lines} :
    room < (gate.answerLine number).length →
    Screened gate (some room) (Text.encode number :: lines) [number]
      ⟨String.ofList ((gate.answerLine number).toList.take room), [(gate.decide number).2],
        some .outputFull⟩
  | answered {room number lines decided rest} :
    fits (gate.answerLine number).length room = true →
    Screened gate (remaining (gate.answerLine number).length room) lines decided rest →
    Screened gate room (Text.encode number :: lines) (number :: decided)
      (.after (gate.answerLine number) (gate.decide number).2 rest)

/-- A line with a text in it is answered as far as there is room, and told to the trail. -/
lemma screenLines_text (gate : Gate) (room : Option Nat) (number : String)
    (lines : List (List UInt8)) :
    gate.screenLines room (Text.encode number :: lines) =
      if fits (gate.answerLine number).length room then
        .after (gate.answerLine number) (gate.decide number).2
          (gate.screenLines (remaining (gate.answerLine number).length room) lines)
      else
        ⟨String.ofList ((gate.answerLine number).toList.take (room.getD 0)),
          [(gate.decide number).2], some .outputFull⟩ := by
  rw [Gate.screenLines, Text.decode_encode]
  rfl

/-- Such a line is decided, and where its answer fits so are those behind it. -/
lemma decidedLines_text (gate : Gate) (room : Option Nat) (number : String)
    (lines : List (List UInt8)) :
    gate.decidedLines room (Text.encode number :: lines) =
      number ::
        if fits (gate.answerLine number).length room then
          gate.decidedLines (remaining (gate.answerLine number).length room) lines
        else [] := by
  rw [Gate.decidedLines, Text.decode_encode]
  rfl

/-- Screening is always one of the ways to go over the lines. -/
lemma screened (gate : Gate) (room : Option Nat) (lines : List (List UInt8)) :
    Screened gate room lines (gate.decidedLines room lines) (gate.screenLines room lines) := by
  induction lines generalizing room with
  | nil =>
    rw [Gate.screenLines, Gate.decidedLines]
    exact .done
  | cons line lines ih =>
    by_cases htext : Text.IsText line
    · obtain ⟨number, rfl⟩ := htext
      rw [screenLines_text, decidedLines_text]
      by_cases hfits : fits (gate.answerLine number).length room = true
      · rw [if_pos hfits, if_pos hfits]
        exact .answered hfits (ih _)
      · rw [if_neg hfits, if_neg hfits]
        cases room with
        | none => exact absurd rfl hfits
        | some room =>
          rw [fits, decide_eq_true_eq] at hfits
          exact .full (Nat.lt_of_not_le hfits)
    · rw [screenLines_bad gate room lines htext, Gate.decidedLines, Text.decode_eq_none_iff.2 htext]
      exact .notText htext

/-! ## The lines that are decided -/

section
variable {gate : Gate} {room : Option Nat} {lines : List (List UInt8)} {decided : List String}
variable {screening : Screening}

/-- They are the first lines of the input. -/
lemma Screened.isPrefix (h : Screened gate room lines decided screening) :
    decided.map Text.encode <+: lines := by
  induction h with
  | done => exact List.nil_prefix
  | notText _ => exact List.nil_prefix
  | full _ => exact List.prefix_cons_iff.2 (.inr ⟨[], rfl, List.nil_prefix⟩)
  | answered _ _ ih => exact List.cons_prefix_cons.2 ⟨rfl, ih⟩

/-- There is room for a text, in characters of one byte each. -/
def HasRoom (room : Option Nat) (text : String) : Prop :=
  ∀ limit ∈ room, text.length ≤ limit

/-- There is room for the answers to all numbers if there is room for the later ones in what the
first one leaves. -/
lemma hasRoom_cons {number : String} {numbers : List String}
    (hfits : fits (gate.answerLine number).length room = true) :
    HasRoom room (gate.answers (number :: numbers)) ↔
      HasRoom (remaining (gate.answerLine number).length room) (gate.answers numbers) := by
  cases room with
  | none => exact ⟨fun _ => nofun, fun _ => nofun⟩
  | some limit =>
    rw [fits, decide_eq_true_eq] at hfits
    simp only [HasRoom, remaining, Option.map_some, Option.mem_some_iff, forall_eq',
      Gate.answers_cons, String.length_append]
    omega

/-- Where the first answer does not fit, there is no room for all of them. -/
lemma not_hasRoom_of_lt {number : String} {numbers : List String} {limit : Nat}
    (h : limit < (gate.answerLine number).length) :
    ¬ HasRoom (some limit) (gate.answers (number :: numbers)) := by
  intro hroom
  have hle := hroom limit rfl
  rw [Gate.answers_cons, String.length_append] at hle
  omega

/-- A line is decided if it and those before it are texts and the answers to those before it fit. -/
lemma Screened.lt_length_iff (h : Screened gate room lines decided screening) (i : Nat) :
    i < decided.length ↔
      i < lines.length ∧ (∀ line ∈ lines.take (i + 1), Text.IsText line) ∧
        HasRoom room (gate.answers (decided.take i)) := by
  -- Nothing keeps a first line that is a text from being decided.
  have hfirst : ∀ room number lines, 0 < (Text.encode number :: lines).length ∧
      (∀ line ∈ (Text.encode number :: lines).take 1, Text.IsText line) ∧
        HasRoom room (gate.answers []) :=
    fun room number lines => ⟨Nat.succ_pos _,
      fun line hline => ⟨number, (List.mem_singleton.1 hline).symm⟩, fun limit _ => limit.zero_le⟩
  induction h generalizing i with
  | done => exact ⟨nofun, fun h => h.1⟩
  | notText hbad => exact ⟨nofun, fun h => absurd (h.2.1 _ List.mem_cons_self) hbad⟩
  | full hfull =>
    cases i with
    | zero => exact ⟨fun _ => hfirst _ _ _, fun _ => Nat.one_pos⟩
    | succ i =>
      refine ⟨fun h => absurd h (by simp), fun h => ?_⟩
      exact absurd h.2.2 (not_hasRoom_of_lt hfull)
  | @answered room number lines decided rest hfits _ ih =>
    cases i with
    | zero => exact ⟨fun _ => hfirst _ _ _, fun _ => Nat.succ_pos _⟩
    | succ i =>
      rw [List.length_cons, List.length_cons, Nat.succ_lt_succ_iff, Nat.succ_lt_succ_iff,
        List.take_succ_cons, List.take_succ_cons, hasRoom_cons hfits, List.forall_mem_cons]
      refine (ih i).trans (and_congr_right fun _ => and_congr_left fun _ => ?_)
      exact ⟨fun h => ⟨⟨number, rfl⟩, h⟩, fun h => h.2⟩

/-! ## Complete lines of the output -/

/-- The word for a decision has no line feed in it. -/
lemma not_mem_word (decision : Decision) : '\n' ∉ decision.word.toList := by
  cases decision with
  | authorized => decide
  | rejected => decide

/-- Of an answer that does not fit no line feed is written. -/
lemma not_mem_take_answerLine {number : String} {limit : Nat}
    (h : limit < (gate.answerLine number).length) :
    '\n' ∉ (gate.answerLine number).toList.take limit := by
  have hword := not_mem_word (gate.decide number).1
  rw [← String.length_toList, Gate.answerLine, String.toList_append, List.length_append] at h
  rw [Gate.answerLine, String.toList_append, List.take_append_of_le_length (Nat.le_of_lt_succ h)]
  exact fun hmem => hword (List.mem_of_mem_take hmem)

/-- The output holds the answers to all lines that are decided, or to all but the last and a part of
that one, if screening stopped there for want of room. -/
lemma Screened.exists_output (h : Screened gate room lines decided screening) :
    ∃ answered part, screening.output.toList = (gate.answers answered).toList ++ part ∧
      '\n' ∉ part ∧
      (screening.fault ≠ some .outputFull ∧ decided = answered ∨
        screening.fault = some .outputFull ∧ ∃ last, decided = answered ++ [last]) := by
  induction h with
  | done => exact ⟨[], [], rfl, List.not_mem_nil, .inl ⟨nofun, rfl⟩⟩
  | notText _ => exact ⟨[], [], rfl, List.not_mem_nil, .inl ⟨nofun, rfl⟩⟩
  | @full limit number lines hfull =>
    exact ⟨[], _, String.toList_ofList, not_mem_take_answerLine hfull, .inr ⟨rfl, number, rfl⟩⟩
  | @answered room number lines decided rest _ _ ih =>
    obtain ⟨answered, part, houtput, hpart, hdecided⟩ := ih
    refine ⟨number :: answered, part, ?_, hpart, ?_⟩
    · rw [Gate.answers_cons, String.toList_append, List.append_assoc, ← houtput]
      exact String.toList_append
    · obtain ⟨hfault, rfl⟩ | ⟨hfault, last, rfl⟩ := hdecided
      · exact .inl ⟨hfault, rfl⟩
      · exact .inr ⟨hfault, last, rfl⟩

end

/-- Answers take up one byte for each character. -/
lemma length_encode_answers (gate : Gate) (numbers : List String) :
    (Text.encode (gate.answers numbers)).length = (gate.answers numbers).length := by
  rw [Text.encode_ascii fun c => Gate.ascii_of_mem_answers, List.length_map, String.length_toList]

/-- Answers, and a rest after them that no line feed ends, are split into their words and that. -/
lemma splitOn_answers (gate : Gate) (numbers : List String) {part : List Char}
    (hpart : '\n' ∉ part) :
    ((gate.answers numbers).toList ++ part).splitOn '\n' =
      (numbers.map fun number => (gate.decide number).1.word.toList) ++ [part] := by
  induction numbers with
  | nil => exact List.splitOn_eq_singleton hpart
  | cons number numbers ih =>
    have hword := not_mem_word (gate.decide number).1
    rw [Gate.answers_cons, Gate.answerLine, String.toList_append, String.toList_append,
      List.append_assoc, List.append_assoc]
    exact (List.splitOn_append_cons_self_of_not_mem hword _).trans (congrArg (List.cons _) ih)

/-- The complete lines of an output that ends within a line are those before it. -/
lemma completeLines_of_output (gate : Gate) {output : String} {numbers : List String}
    {part : List Char} (h : output.toList = (gate.answers numbers).toList ++ part)
    (hpart : '\n' ∉ part) :
    completeLines output = numbers.map fun number => (gate.decide number).1.word := by
  rw [completeLines, h, splitOn_answers gate numbers hpart, List.dropLast_concat, List.map_map]
  apply List.map_congr_left
  intro number _
  exact String.ofList_toList

/-- Without a limit the lines of the output are the words for the decisions on the lines of the
input, up to the first that is no text. -/
lemma completeLines_screenInput (gate : Gate) (input : List UInt8) :
    completeLines (gate.screenInput none input).output =
      (Text.leadingTexts (Text.splitLines input)).map fun line => (gate.decide line).1.word := by
  have houtput : (gate.screenInput none input).output.toList =
      (gate.answers (Text.leadingTexts (Text.splitLines input))).toList ++ [] := by
    rw [(screenInput_unlimited gate input).1, List.append_nil]
  exact completeLines_of_output gate houtput List.not_mem_nil

/-- Whatever stops screening, the lines of the output are such words. -/
lemma Screened.completeLines_prefix {gate : Gate} {room : Option Nat} {lines : List (List UInt8)}
    {decided : List String} {screening : Screening}
    (h : Screened gate room lines decided screening) :
    completeLines screening.output <+: decided.map fun line => (gate.decide line).1.word := by
  obtain ⟨numbers, part, houtput, hpart, hnumbers⟩ := h.exists_output
  rw [completeLines_of_output gate houtput hpart]
  obtain ⟨-, rfl⟩ | ⟨-, last, rfl⟩ := hnumbers
  · exact List.prefix_rfl
  · rw [List.map_append]
    exact List.prefix_append _ _

/-- So each of them is about the line of the input in the same place. -/
lemma exists_of_completeLines {gate : Gate} {room : Option Nat} {input : List UInt8} {i : Nat}
    {word : String} (h : (completeLines (gate.screenInput room input).output)[i]? = some word) :
    ∃ number, (Text.splitLines input)[i]? = some (Text.encode number) ∧
      word = (gate.decide number).1.word := by
  have hrun := screened gate room (Text.splitLines input)
  rw [← screenInput_eq] at hrun
  obtain ⟨hi, rfl⟩ := List.getElem?_eq_some_iff.1 h
  have hword := List.prefix_iff_getElem?.1 hrun.completeLines_prefix i hi
  rw [List.getElem?_map] at hword
  obtain ⟨number, hnumber, hdecided⟩ := Option.map_eq_some_iff.1 hword
  obtain ⟨hline, rfl⟩ := List.getElem?_eq_some_iff.1 hnumber
  refine ⟨_, ?_, hdecided.symm⟩
  have hmap := List.prefix_iff_getElem?.1 hrun.isPrefix i (by rwa [List.length_map])
  rw [hmap, List.getElem_map]

/-! ## One decision -/

/-- An event of a decision is told in the words that suit it. -/
lemma record_decide (gate : Gate) (line : String) :
    (gate.decide line).2.record = gate.account line := by
  unfold Gate.account
  obtain ⟨rfl, h⟩ | ⟨-, h⟩ | ⟨hline, h⟩ := gate.decide_cases line
  · have hempty : Text.quoteOption (some "") = "Some(\"\")" := by decide +kernel
    rw [h, if_neg nofun, if_pos rfl, ← hempty]
    rfl
  · rw [h, if_pos rfl]
    rfl
  · rw [h, if_neg nofun, if_neg hline]
    rfl

/-- An event says that the line passed exactly if the answer does. -/
lemma name_decide_eq_iff (gate : Gate) (line : String) :
    (gate.decide line).2.name = "auth_success" ↔ (gate.decide line).1.word = "authorized" := by
  obtain ⟨-, h⟩ | ⟨-, h⟩ | ⟨-, h⟩ := gate.decide_cases line
  · rw [h]
    show "auth_failed_empty_number" = "auth_success" ↔ "rejected" = "authorized"
    decide
  · rw [h]
    show "auth_success" = "auth_success" ↔ "authorized" = "authorized"
    decide
  · rw [h]
    show "auth_failed_unauthorized" = "auth_success" ↔ "rejected" = "authorized"
    decide

/-- Only a full output is reported under that name. -/
lemma kind_eq_writeZero {fault : Option StreamFault}
    (h : fault.map StreamFault.kind = some "WriteZero") : fault = some .outputFull := by
  obtain ⟨fault, rfl, hkind⟩ := Option.map_eq_some_iff.1 h
  cases fault with
  | notText => exact absurd hkind (by decide)
  | outputFull => rfl

/-! ## The two accounts -/

/-- The lines that are decided are the first of the input, as many as are texts with room for the
answers before them. Each is told to the audit trail, in order and as suits its decision, and each
is answered by a complete line of the output, but for the last one if its answer did not fit. So an
event says that the number passed exactly if the complete line in its place does. -/
theorem screenInput_audited (gate : Gate) (room : Option Nat) (input : List UInt8) :
    let lines := Text.splitLines input
    let decided := gate.decidedLines room lines
    let screening := gate.screenInput room input
    let answered := completeLines screening.output
    (decided.map Text.encode <+: lines ∧
      ∀ i, i < decided.length ↔ i < lines.length ∧
        (∀ line ∈ lines.take (i + 1), Text.IsText line) ∧
        ∀ limit ∈ room, (Text.encode (gate.answers (decided.take i))).length ≤ limit) ∧
    screening.events.map Event.record = decided.map gate.account ∧
    (answered <+: decided.map fun line => (gate.decide line).1.word) ∧
    (∀ i < answered.length, screening.events[i]?.map Event.name = some "auth_success" ↔
      answered[i]? = some "authorized") ∧
    screening.events.length = answered.length +
      if screening.fault.map StreamFault.kind = some "WriteZero" then 1 else 0 := by
  intro lines decided screening answered
  have h : Screened gate room lines decided screening := by
    have hrun := screened gate room lines
    rw [← screenInput_eq] at hrun
    exact hrun
  have hevents : screening.events = decided.map fun line => (gate.decide line).2 := by
    have hrun := screenLines_events gate room lines
    rw [← screenInput_eq] at hrun
    exact hrun
  obtain ⟨numbers, part, houtput, hpart, hnumbers⟩ := h.exists_output
  have hanswered : answered = numbers.map fun line => (gate.decide line).1.word :=
    completeLines_of_output gate houtput hpart
  have hprefix : answered <+: decided.map fun line => (gate.decide line).1.word :=
    h.completeLines_prefix
  refine ⟨⟨h.isPrefix, fun i => ?_⟩, ?_, hprefix, fun i hi => ?_, ?_⟩
  · simp only [length_encode_answers]
    exact h.lt_length_iff i
  · rw [hevents, List.map_map]
    exact List.map_congr_left fun line _ => record_decide gate line
  · obtain ⟨rest, hrest⟩ := hprefix
    have hfront : (answered ++ rest)[i]? = answered[i]? := List.getElem?_append_left hi
    rw [← hfront, hrest, hevents, List.getElem?_map, List.getElem?_map]
    cases decided[i]? with
    | none => exact ⟨nofun, nofun⟩
    | some line =>
      simp only [Option.map_some, Option.some.injEq]
      exact name_decide_eq_iff gate line
  · rw [hanswered, hevents, List.length_map, List.length_map]
    obtain ⟨hfault, e⟩ | ⟨hfault, last, e⟩ := hnumbers
    · rw [if_neg (mt kind_eq_writeZero hfault), e]
      rfl
    · rw [hfault, e, List.length_append]
      rfl

end Screening

end Gatekeeper
