import Gatekeeper.Proofs.Screening.Reference

/-!
# Answers

The answers that screening writes when the output takes everything are those to the lines before the
first that is no text, one line each. They can be read back line by line, so that each line of the
output tells of the line of the input in the same place.

`Gate.answers` is the output as a text and `Gate.words` the same line by line; `splitLines_answers`
is that one can be told from the other. `Text.leadingTexts` are the lines that are answered. What
screening does without a limit is `screenInput_unlimited`, which is what the other modules on
screening start from.
-/

namespace Gatekeeper

/-- The texts before the first line that is none. -/
def Text.leadingTexts (lines : List (List UInt8)) : List String :=
  (lines.takeWhile fun line => (decode line).isSome).filterMap decode

/-- The words for the decisions on numbers, in order. -/
def Gate.words (gate : Gate) (numbers : List String) : List String :=
  numbers.map fun number => (gate.decide number).1.word

/-- The answers to numbers, one after the other. -/
def Gate.answers (gate : Gate) (numbers : List String) : String :=
  String.join (numbers.map gate.answerLine)

/-- The answers are the words, with a line feed after each. -/
lemma Gate.answers_eq_framed (gate : Gate) (numbers : List String) :
    gate.answers numbers = Text.framed "\n" (gate.words numbers) := by
  rw [answers, Text.framed, words, List.map_map]
  rfl

/-- The answer to the first number comes first. -/
lemma Gate.answers_cons (gate : Gate) (number : String) (numbers : List String) :
    gate.answers (number :: numbers) = gate.answerLine number ++ gate.answers numbers :=
  String.join_cons

/-- Answers to some numbers and then to others come in that order. -/
lemma Gate.answers_append (gate : Gate) (front back : List String) :
    gate.answers (front ++ back) = gate.answers front ++ gate.answers back := by
  rw [answers, List.map_append, String.join_append]
  rfl

/-- An answer is written in characters of ASCII. -/
lemma Gate.ascii_of_mem_answerLine {gate : Gate} {number : String} {c : Char}
    (h : c ∈ (gate.answerLine number).toList) : c.toNat < 0x80 := by
  have hall : ∀ decision : Decision,
      (decision.word ++ "\n").toList.all (fun c => c.toNat < 0x80) = true := by
    intro decision
    cases decision with
    | authorized => decide
    | rejected => decide
  exact of_decide_eq_true (List.all_eq_true.1 (hall _) c h)

/-- Answers are of ASCII throughout. -/
lemma Gate.ascii_of_mem_answers {gate : Gate} {numbers : List String} {c : Char}
    (h : c ∈ (gate.answers numbers).toList) : c.toNat < 0x80 := by
  induction numbers with
  | nil => cases h
  | cons number numbers ih =>
    rw [answers_cons, String.toList_append, List.mem_append] at h
    obtain h | h := h
    · exact ascii_of_mem_answerLine h
    · exact ih h

namespace Screening

/-! ## The lines before the first that is no text -/

/-- Texts in front of other lines lead. -/
lemma leadingTexts_append (numbers : List String) (lines : List (List UInt8)) :
    Text.leadingTexts (numbers.map Text.encode ++ lines) =
      numbers ++ Text.leadingTexts lines := by
  induction numbers with
  | nil => rfl
  | cons number numbers ih =>
    simp only [Text.leadingTexts, List.map_cons, List.cons_append, List.takeWhile_cons,
      Text.decode_encode, Option.isSome_some, if_true, List.filterMap_cons] at ih ⊢
    rw [ih]

/-- No text leads where the first line is none. -/
lemma leadingTexts_bad {bad : List UInt8} (lines : List (List UInt8)) (h : ¬ Text.IsText bad) :
    Text.leadingTexts (bad :: lines) = [] := by
  simp only [Text.leadingTexts, List.takeWhile_cons, Text.decode_eq_none_iff.2 h,
    Option.isSome_none, Bool.false_eq_true, if_false, List.filterMap_nil]

/-- A line that is a text is among those lines, at its place, if all lines before it are texts. -/
lemma getElem?_leadingTexts {lines : List (List UInt8)} {i : Nat} {number : String}
    (hnumber : lines[i]? = some (Text.encode number))
    (hbefore : ∀ line ∈ lines.take i, Text.IsText line) :
    (Text.leadingTexts lines)[i]? = some number := by
  induction lines generalizing i with
  | nil => cases hnumber
  | cons line lines ih =>
    cases i with
    | zero =>
      obtain rfl := Option.some.inj hnumber
      rw [show Text.encode number :: lines = [number].map Text.encode ++ lines from rfl,
        leadingTexts_append]
      rfl
    | succ i =>
      rw [List.take_succ_cons, List.forall_mem_cons] at hbefore
      obtain ⟨⟨first, rfl⟩, hbefore⟩ := hbefore
      rw [show Text.encode first :: lines = [first].map Text.encode ++ lines from rfl,
        leadingTexts_append]
      exact ih hnumber hbefore

/-- Where those lines end screening stops, however much room is left, and without a fault exactly if
they are all. -/
lemma exists_leadingTexts (lines : List (List UInt8)) :
    ∃ rest fault, lines = (Text.leadingTexts lines).map Text.encode ++ rest ∧
      (∀ (gate : Gate) room, gate.screenLines room rest = ⟨"", [], fault⟩) ∧
      (fault = none ↔ ∀ line ∈ lines, Text.IsText line) := by
  obtain ⟨numbers, rfl⟩ | ⟨numbers, bad, after, rfl, hbad⟩ := lines_cases lines
  · refine ⟨[], none, ?_, fun gate room => ?_, fun _ => isText_of_mem_encode numbers, fun _ => rfl⟩
    · have hall := leadingTexts_append numbers []
      rw [List.append_nil, show Text.leadingTexts [] = [] from rfl, List.append_nil] at hall
      rw [hall, List.append_nil]
    · rw [Gate.screenLines]
      rfl
  · refine ⟨bad :: after, some .notText, ?_, fun gate room => ?_,
      fun h => absurd h (Option.some_ne_none _), fun hall => ?_⟩
    · rw [leadingTexts_append, leadingTexts_bad after hbad, List.append_nil]
    · exact screenLines_bad gate room after hbad
    · exact absurd (hall bad (List.mem_append_right _ List.mem_cons_self)) hbad

/-! ## The output as a whole -/

/-- Without a limit the answers to those lines are all that is written, and screening fails exactly
if the stream is no text. -/
lemma screenInput_unlimited (gate : Gate) (input : List UInt8) :
    (gate.screenInput none input).output =
      gate.answers (Text.leadingTexts (Text.splitLines input)) ∧
    ((gate.screenInput none input).fault = none ↔ Text.IsText input) := by
  obtain ⟨rest, fault, hlines, hstop, hfault⟩ := exists_leadingTexts (Text.splitLines input)
  have hrun : gate.screenInput none input =
      gate.answerAll (Text.leadingTexts (Text.splitLines input)) ⟨"", [], fault⟩ := by
    rw [← hstop gate none, ← screenLines_append, ← hlines, screenInput_eq]
  rw [hrun, answerAll_output, answerAll_fault, hfault, ← Text.isText_iff_splitLines]
  exact ⟨String.append_empty, Iff.rfl⟩

/-- The lines of the answers are the words for the decisions. -/
lemma splitLines_answers (gate : Gate) (numbers : List String) :
    Text.splitLines (Text.encode (gate.answers numbers)) =
      numbers.map fun number => Text.encode (gate.decide number).1.word := by
  have hword : ∀ decision : Decision,
      '\n' ∉ decision.word.toList ∧ Text.dropReturn decision.word = decision.word := by
    intro decision
    cases decision with
    | authorized => decide
    | rejected => decide
  have hfeed : ∀ word ∈ gate.words numbers, '\n' ∉ word.toList := by
    intro word hmem
    obtain ⟨number, -, rfl⟩ := List.mem_map.1 hmem
    exact (hword _).1
  rw [← Text.lines_eq_splitLines, Gate.answers_eq_framed, Text.lines_framed hfeed, Gate.words,
    List.map_map, List.map_map]
  apply List.map_congr_left
  intro number _
  exact congrArg Text.encode (hword _).2

end Screening

end Gatekeeper
