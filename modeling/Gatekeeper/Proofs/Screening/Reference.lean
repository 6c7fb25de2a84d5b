import Gatekeeper.Screening
import Gatekeeper.Proofs.Gate.Check
import Gatekeeper.Proofs.Text.Lines

/-!
# Screening without a limit

What screening writes if the output takes everything: one answer a line, up to the first line that
is no text. It stops early exactly if the stream as a whole is no text, and nothing behind the line
at which it stops has any influence on it.

The lines of the input are texts throughout, or there is a first one that is none (`lines_cases`).
In either case the texts before that are answered in turn (`screenLines_append`, an induction along
the lines), for which `Gate.answerAll` stands; what stops screening is then seen at the first line
behind them (`screenLines_bad`). `Gate.decidedLines` are the numbers that are decided, with a limit
or without, and `screenLines_events` that the audit trail is told of just these.
-/

namespace Gatekeeper

/-- The line that is written for a number. -/
def Gate.answerLine (gate : Gate) (number : String) : String :=
  (gate.decide number).1.word ++ "\n"

/-- What screening comes to when numbers are answered in full before the rest. -/
def Gate.answerAll (gate : Gate) (numbers : List String) (rest : Screening) : Screening :=
  numbers.foldr (fun number rest =>
    .after (gate.answerLine number) (gate.decide number).2 rest) rest

/-! ## The lines that are decided -/

/-- A line is empty, passes or does not, and the audit trail is told which. -/
lemma Gate.decide_cases (gate : Gate) (line : String) :
    line = "" ∧ gate.decide line = (.rejected, .emptyNumber (some "")) ∨
    line ≠ "" ∧ gate.decide line = (.authorized, .authorized line) ∨
    line ≠ "" ∧ gate.decide line = (.rejected, .unauthorized line (mask gate.number)) := by
  unfold decide checkNumber
  obtain ⟨e | e, hcheck⟩ | ⟨number, e, hline, hcheck | hcheck⟩ := gate.check_cases (some line)
  · cases e
  · rw [hcheck]
    exact .inl ⟨Option.some.inj e, congrArg (_, Event.emptyNumber ·) e⟩
  · cases e
    rw [hcheck]
    exact .inr (.inl ⟨hline, rfl⟩)
  · cases e
    rw [hcheck]
    exact .inr (.inr ⟨hline, rfl⟩)

/-- The numbers among the lines that are decided before screening stops. -/
def Gate.decidedLines (gate : Gate) : Option Nat → List (List UInt8) → List String
  | _, [] => []
  | room, line :: lines =>
    match Text.decode line with
    | none => []
    | some number =>
      let length := ((gate.decide number).1.word ++ "\n").length
      number ::
        if Screening.fits length room then
          gate.decidedLines (Screening.remaining length room) lines
        else []

namespace Screening

/-- A decided line is told to the audit trail, in order, and nothing else is. -/
lemma screenLines_events (gate : Gate) (room : Option Nat) (lines : List (List UInt8)) :
    (gate.screenLines room lines).events =
      (gate.decidedLines room lines).map fun number => (gate.decide number).2 := by
  induction lines generalizing room with
  | nil => rfl
  | cons line lines ih =>
    rw [Gate.screenLines, Gate.decidedLines]
    cases Text.decode line with
    | none => rfl
    | some number =>
      simp only
      split
      · exact congrArg (List.cons _) (ih _)
      · rfl

/-! ## Lines that are texts and lines that are not -/

/-- Lines are texts throughout, or there is a first one that is none. -/
lemma lines_cases (lines : List (List UInt8)) :
    (∃ numbers : List String, lines = numbers.map Text.encode) ∨
    ∃ (numbers : List String) (bad : List UInt8) (rest : List (List UInt8)),
      lines = numbers.map Text.encode ++ bad :: rest ∧ ¬ Text.IsText bad := by
  induction lines with
  | nil => exact .inl ⟨[], rfl⟩
  | cons line lines ih =>
    by_cases h : Text.IsText line
    · obtain ⟨number, rfl⟩ := h
      obtain ⟨numbers, rfl⟩ | ⟨numbers, bad, rest, rfl, hbad⟩ := ih
      · exact .inl ⟨number :: numbers, rfl⟩
      · exact .inr ⟨number :: numbers, bad, rest, rfl, hbad⟩
    · exact .inr ⟨[], line, lines, rfl, h⟩

/-- Numbers are answered in turn before the lines after them. -/
lemma screenLines_append (gate : Gate) (numbers : List String) (lines : List (List UInt8)) :
    gate.screenLines none (numbers.map Text.encode ++ lines) =
      gate.answerAll numbers (gate.screenLines none lines) := by
  induction numbers with
  | nil => rfl
  | cons number numbers ih =>
    rw [List.map_cons, List.cons_append, Gate.screenLines, Text.decode_encode]
    exact congrArg (Screening.after _ _) ih

/-- Screening stops at a line that is no text. -/
lemma screenLines_bad (gate : Gate) (room : Option Nat) {bad : List UInt8}
    (lines : List (List UInt8)) (h : ¬ Text.IsText bad) :
    gate.screenLines room (bad :: lines) = ⟨"", [], some .notText⟩ := by
  rw [Gate.screenLines, Text.decode_eq_none_iff.2 h]

/-- What is written when numbers are answered before the rest. -/
lemma answerAll_output (gate : Gate) (numbers : List String) (rest : Screening) :
    (gate.answerAll numbers rest).output =
      String.join (numbers.map gate.answerLine) ++ rest.output := by
  induction numbers with
  | nil => simp [Gate.answerAll]
  | cons number numbers ih =>
    rw [List.map_cons, String.join_cons, String.append_assoc, ← ih]
    rfl

/-- Answers change nothing about why screening stops. -/
lemma answerAll_fault (gate : Gate) (numbers : List String) (rest : Screening) :
    (gate.answerAll numbers rest).fault = rest.fault := by
  induction numbers with
  | nil => rfl
  | cons number numbers ih => exact ih

/-- The answer that a line deserves: `authorized` for the bytes of the number, `rejected` for all
others. -/
def answerTo (number : String) (line : List UInt8) : String :=
  if line = Text.encode number then "authorized\n" else "rejected\n"

/-- A gate answers each number as it deserves. -/
lemma answerLine_eq {gate : Gate} (made : gate.Made) (number : String) :
    gate.answerLine number = answerTo gate.number (Text.encode number) := by
  unfold Gate.answerLine Gate.decide Gate.checkNumber answerTo
  by_cases h : number = gate.number
  · subst h
    rw [Gate.check_self made.number_ne_empty, if_pos rfl]
    rfl
  · have hne : some number ≠ some gate.number := fun e => h (Option.some.inj e)
    rw [Gate.check_of_ne hne, if_neg (fun e => h (Text.encode_injective e))]
    rfl

/-- The answers of a gate are those of the reference, line by line. -/
lemma map_answerLine {gate : Gate} (made : gate.Made) (numbers : List String) :
    numbers.map gate.answerLine = (numbers.map Text.encode).map (answerTo gate.number) := by
  rw [List.map_map]
  apply List.map_congr_left
  intro number _
  exact answerLine_eq made number

/-- Screening goes through the lines that the parts of the stream give. -/
lemma screenInput_eq (gate : Gate) (room : Option Nat) (input : List UInt8) :
    gate.screenInput room input = gate.screenLines room (Text.splitLines input) := by
  rw [Gate.screenInput, Text.lines_eq_splitLines]

/-- A stream whose lines are texts is screened to its end. -/
lemma screenInput_of_texts (gate : Gate) {input : List UInt8} {numbers : List String}
    (h : Text.splitLines input = numbers.map Text.encode) :
    gate.screenInput none input = gate.answerAll numbers .finished := by
  rw [screenInput_eq, h, ← List.append_nil (numbers.map Text.encode), screenLines_append]
  rfl

/-- A stream with a line that is no text is screened up to the first such line. -/
lemma screenInput_of_bad (gate : Gate) {input bad : List UInt8} {numbers : List String}
    {rest : List (List UInt8)} (hbad : ¬ Text.IsText bad)
    (h : Text.splitLines input = numbers.map Text.encode ++ bad :: rest) :
    gate.screenInput none input = gate.answerAll numbers ⟨"", [], some .notText⟩ := by
  rw [screenInput_eq, h, screenLines_append, screenLines_bad gate none rest hbad]

/-- The UTF-8 form of a text is a text. -/
lemma isText_of_mem_encode (numbers : List String) :
    ∀ line ∈ numbers.map Text.encode, Text.IsText line := by
  intro line hline
  obtain ⟨number, -, rfl⟩ := List.mem_map.1 hline
  exact ⟨number, rfl⟩

/-- Without a limit, screening answers every line of a text and succeeds. Of a stream that is no
text it answers the lines before the first that is none, and fails there whatever follows. -/
theorem screenInput_eq_reference {gate : Gate} (made : gate.Made) (input : List UInt8) :
    (Text.IsText input →
      (gate.screenInput none input).output =
        String.join ((Text.splitLines input).map (answerTo gate.number)) ∧
      (gate.screenInput none input).fault = none) ∧
    (¬ Text.IsText input → ∃ before bad after,
      Text.splitLines input = before ++ bad :: after ∧
      (∀ line ∈ before, Text.IsText line) ∧ ¬ Text.IsText bad ∧
      (gate.screenInput none input).output =
        String.join (before.map (answerTo gate.number)) ∧
      (gate.screenInput none input).fault.map StreamFault.kind = some "InvalidData" ∧
      ∀ input' after', Text.splitLines input' = before ++ bad :: after' →
        gate.screenInput none input' = gate.screenInput none input) ∧
    ((gate.screenInput none input).fault ≠ none ↔ ¬ Text.IsText input) := by
  -- Either all lines are texts, or there is a first that is none, and the run is known up to it.
  obtain ⟨numbers, h⟩ | ⟨numbers, bad, after, h, hbad⟩ := lines_cases (Text.splitLines input)
  · have good : Text.IsText input := by
      rw [Text.isText_iff_splitLines, h]
      exact isText_of_mem_encode numbers
    have run := screenInput_of_texts gate h
    have fault : (gate.screenInput none input).fault = none := by
      rw [run, answerAll_fault]
      rfl
    refine ⟨fun _ => ⟨?_, fault⟩, fun bad => absurd good bad, ?_⟩
    · rw [run, answerAll_output, map_answerLine made, ← h]
      exact String.append_empty
    · exact ⟨fun hf => absurd fault hf, fun bad => absurd good bad⟩
  · have notGood : ¬ Text.IsText input := by
      intro good
      apply hbad
      apply (Text.isText_iff_splitLines input).1 good
      rw [h]
      exact List.mem_append_right _ (List.mem_cons_self ..)
    have run := screenInput_of_bad gate hbad h
    have fault : (gate.screenInput none input).fault = some .notText := by
      rw [run, answerAll_fault]
    refine ⟨fun good => absurd good notGood, fun _ => ?_, ?_⟩
    · refine ⟨numbers.map Text.encode, bad, after, h, isText_of_mem_encode numbers, hbad,
        ?_, ?_, ?_⟩
      · rw [run, answerAll_output, map_answerLine made]
        exact String.append_empty
      · rw [fault]
        rfl
      · intro input' after' h'
        rw [run]
        exact screenInput_of_bad gate hbad h'
    · rw [fault]
      exact ⟨fun _ => notGood, fun _ => nofun⟩

/-- A stream that breaks off inside a character in its third line: the first line passes without
its carriage return, the second is blank, and the fourth is not looked at. -/
theorem screenInput_eq_reference_cut_character :
    (⟨"+1", "gate.json"⟩ : Gate).Made ∧
    ¬ Text.IsText [0x2B, 0x31, 0x0D, 0x0A, 0x0A, 0xE2, 0x82, 0x0A, 0x2B, 0x31] ∧
    ((⟨"+1", "gate.json"⟩ : Gate).screenInput none
      [0x2B, 0x31, 0x0D, 0x0A, 0x0A, 0xE2, 0x82, 0x0A, 0x2B, 0x31]).fault ≠ none := by
  have notText : ¬ Text.IsText [0x2B, 0x31, 0x0D, 0x0A, 0x0A, 0xE2, 0x82, 0x0A, 0x2B, 0x31] :=
    Text.decode_eq_none_iff.1 (by decide +kernel)
  exact ⟨Gate.made_plusOne, notText,
    (screenInput_eq_reference Gate.made_plusOne _).2.2.2 notText⟩

end Screening

end Gatekeeper
