import Gatekeeper.Proofs.Screening.Agreement

/-!
# Screening framed lines

Numbers that are put together, with a carriage return and a line feed after each, are screened as
they are, one by one. With the line feed alone, a carriage return at the end of a number is lost. No
line holds a line feed, so a number that has one never passes.

Both parts come down to the lines of the stream: where they are the encodings of numbers, screening
decides these (`screenInput_of_lines`), and a number with a line feed in it is none of them
(`decide_line_of_feed`).
-/

namespace Gatekeeper

/-- What screening comes to if it decides these numbers and nothing stops it. -/
def Gate.fullScreening (gate : Gate) (numbers : List String) : Screening where
  output := Text.framed "\n" (gate.words numbers)
  events := numbers.map fun number => (gate.decide number).2
  fault := none

namespace Screening

variable {gate : Gate}

/-- Where no line stops it, screening comes to the answers to all numbers. -/
lemma answerAll_finished (gate : Gate) (numbers : List String) :
    gate.answerAll numbers .finished = gate.fullScreening numbers := by
  induction numbers with
  | nil => rfl
  | cons number numbers ih =>
    have houtput : (gate.fullScreening (number :: numbers)).output =
        gate.answerLine number ++ (gate.fullScreening numbers).output := Text.framed_cons _ _ _
    have hafter : gate.fullScreening (number :: numbers) =
        .after (gate.answerLine number) (gate.decide number).2 (gate.fullScreening numbers) := by
      rw [Screening.after, ← houtput]
      rfl
    rw [hafter, ← ih]
    rfl

/-- The lines of that output are the words for the decisions. -/
lemma completeLines_fullScreening (gate : Gate) (numbers : List String) :
    completeLines (gate.fullScreening numbers).output = gate.words numbers := by
  have houtput : (gate.fullScreening numbers).output.toList =
      (gate.answers numbers).toList ++ [] := by
    rw [Gate.answers_eq_framed, List.append_nil]
    rfl
  exact completeLines_of_output gate houtput List.not_mem_nil

/-- A stream whose lines are the encodings of numbers decides these. -/
lemma screenInput_of_lines (gate : Gate) {input : List UInt8} {numbers : List String}
    (h : Text.lines input = numbers.map Text.encode) :
    gate.screenInput none input = gate.fullScreening numbers := by
  rw [Text.lines_eq_splitLines] at h
  rw [screenInput_of_texts gate h, answerAll_finished]

/-- A number with a line feed is no line of any stream, so that all lines are turned away. -/
lemma decide_line_of_feed (hfeed : '\n' ∈ gate.number.toList) {input : List UInt8}
    {number : String} (h : Text.encode number ∈ Text.splitLines input) :
    (gate.decide number).1 = .rejected := by
  have ascii : '\n'.toNat < 0x80 := by decide
  have hne : some number ≠ some gate.number := by
    intro e
    rw [← Text.lines_eq_splitLines] at h
    apply Text.lineFeed_not_mem_of_mem_lines h
    rw [Option.some.inj e]
    exact (Text.asciiByte_mem_encode_iff ascii).2 hfeed
  unfold Gate.decide Gate.checkNumber
  rw [Gate.check_of_ne hne]
  rfl

/-- So each line of the output says `rejected`, whatever the output takes. -/
lemma word_of_feed (hfeed : '\n' ∈ gate.number.toList) {room : Option Nat} {input : List UInt8}
    {word : String} (h : word ∈ completeLines (gate.screenInput room input).output) :
    word = "rejected" := by
  obtain ⟨i, hi⟩ := List.mem_iff_getElem?.1 h
  obtain ⟨number, hnumber, rfl⟩ := exists_of_completeLines hi
  rw [decide_line_of_feed hfeed (List.mem_of_getElem? hnumber)]
  rfl

/-- And if it takes everything, so does every line of the stream before the first that is no
text. -/
lemma screenInput_of_feed (hfeed : '\n' ∈ gate.number.toList) (input : List UInt8) :
    completeLines (gate.screenInput none input).output =
      (Text.leadingTexts (Text.splitLines input)).map fun _ => "rejected" := by
  rw [completeLines_screenInput]
  apply List.map_congr_left
  intro number hnumber
  obtain ⟨rest, _, hlines, -, -⟩ := exists_leadingTexts (Text.splitLines input)
  have hmem : Text.encode number ∈ Text.splitLines input := by
    rw [hlines]
    exact List.mem_append_left _ (List.mem_map_of_mem hnumber)
  rw [decide_line_of_feed hfeed hmem]
  rfl

/-- Lines without line feeds that are put together with a carriage return and a line feed after each
are decided as they are, all of them and nothing else; with a line feed alone, without a carriage
return at their end. A gate whose number has a line feed turns away every line of every stream. -/
theorem screenInput_framed (gate : Gate) {lines : List String}
    (h : ∀ line ∈ lines, '\n' ∉ line.toList) :
    gate.screenInput none (Text.encode (Text.framed "\r\n" lines)) = gate.fullScreening lines ∧
    completeLines (gate.screenInput none (Text.encode (Text.framed "\r\n" lines))).output =
      gate.words lines ∧
    gate.screenInput none (Text.encode (Text.framed "\n" lines)) =
      gate.fullScreening (lines.map Text.dropReturn) ∧
    completeLines (gate.screenInput none (Text.encode (Text.framed "\n" lines))).output =
      gate.words (lines.map Text.dropReturn) ∧
    ('\n' ∈ gate.number.toList → ∀ input,
      completeLines (gate.screenInput none input).output =
        ((Text.leadingTexts (Text.splitLines input)).map fun _ => "rejected") ∧
      ∀ room, ∀ word ∈ completeLines (gate.screenInput room input).output, word = "rejected") := by
  have hreturns := screenInput_of_lines gate (Text.lines_framed_returns h)
  have hfeeds := screenInput_of_lines gate (Text.lines_framed h)
  refine ⟨hreturns, ?_, hfeeds, ?_, fun hfeed input => ⟨screenInput_of_feed hfeed input, ?_⟩⟩
  · rw [hreturns]
    exact completeLines_fullScreening gate lines
  · rw [hfeeds]
    exact completeLines_fullScreening gate (lines.map Text.dropReturn)
  · intro room word hword
    exact word_of_feed hfeed hword

/-- Lines with one, several and no carriage returns at their end, and an empty one, for a gate whose
number ends in one itself; and a number with a line feed, typed in as two lines. -/
theorem screenInput_framed_returns :
    (∀ line ∈ ["+1\r", "", "\r\r", "+1"], '\n' ∉ line.toList) ∧
    (⟨"+1\r", "gate.json"⟩ : Gate).screenInput none
        (Text.encode (Text.framed "\r\n" ["+1\r", "", "\r\r", "+1"])) =
      (⟨"+1\r", "gate.json"⟩ : Gate).fullScreening ["+1\r", "", "\r\r", "+1"] ∧
    (⟨"+1\r", "gate.json"⟩ : Gate).words ["+1\r", "", "\r\r", "+1"] =
      ["authorized", "rejected", "rejected", "rejected"] ∧
    completeLines ((⟨"+\n1", "gate.json"⟩ : Gate).screenInput none [0x2B, 0x0A, 0x31]).output =
      ["rejected", "rejected"] := by
  have h : ∀ line ∈ ["+1\r", "", "\r\r", "+1"], '\n' ∉ line.toList := by decide
  obtain ⟨-, -, -, -, hfeed⟩ := screenInput_framed ⟨"+\n1", "gate.json"⟩ h
  refine ⟨h, (screenInput_framed _ h).1, by decide, ?_⟩
  exact (hfeed (by decide) _).1.trans (by decide +kernel)

end Screening

end Gatekeeper
