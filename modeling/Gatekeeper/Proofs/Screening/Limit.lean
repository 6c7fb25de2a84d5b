import Mathlib.Order.Bounds.Basic
import Gatekeeper.Proofs.Screening.Answers

/-!
# Screening into a limited output

An output that takes only so many bytes is filled with the first bytes of the answers. Where all of
them fit nothing else changes. Otherwise screening stops with the first answer that does not fit,
whose line has been decided and told to the audit trail by then.

Screening is followed as long as answers fit (`screenLines_fitting`) and to the first that does not
(`screenLines_full`). Where that comes first is told by the length of all answers up to it
(`exists_first_unfit`), and these grow with every line, so that it is the least number of lines
whose answers are too long (`exists_unfit_run`). `screenInput_fitting` and `screenInput_unfit` are
the two cases of the result.
-/

namespace Gatekeeper.Screening

/-- What the audit trail is told when numbers are answered before the rest. -/
lemma answerAll_events (gate : Gate) (numbers : List String) (rest : Screening) :
    (gate.answerAll numbers rest).events =
      numbers.map (fun number => (gate.decide number).2) ++ rest.events := by
  induction numbers with
  | nil => rfl
  | cons number numbers ih => exact congrArg (List.cons _) ih

/-- Numbers whose answers fit are answered in turn before the lines after them, which find less
room. -/
lemma screenLines_fitting (gate : Gate) (numbers : List String) (lines : List (List UInt8))
    {room : Nat} (h : (gate.answers numbers).length ≤ room) :
    gate.screenLines (some room) (numbers.map Text.encode ++ lines) =
      gate.answerAll numbers
        (gate.screenLines (some (room - (gate.answers numbers).length)) lines) := by
  induction numbers generalizing room with
  | nil => rfl
  | cons number numbers ih =>
    rw [Gate.answers_cons, String.length_append] at h ⊢
    have hfits : fits (gate.answerLine number).length (some room) = true :=
      decide_eq_true (by omega)
    have hrest := @ih (room - (gate.answerLine number).length) (by omega)
    rw [Nat.sub_sub] at hrest
    rw [List.map_cons, List.cons_append, Gate.screenLines, Text.decode_encode]
    exact (if_pos hfits).trans (congrArg (after _ _) hrest)

/-- An answer that does not fit fills the output, and nothing is screened after it. -/
lemma screenLines_full (gate : Gate) (number : String) (lines : List (List UInt8)) {room : Nat}
    (h : room < (gate.answerLine number).length) :
    gate.screenLines (some room) (Text.encode number :: lines) =
      ⟨String.ofList ((gate.answerLine number).toList.take room), [(gate.decide number).2],
        some .outputFull⟩ := by
  have hfits : ¬ fits (gate.answerLine number).length (some room) = true := by
    rw [fits, decide_eq_true_eq]
    omega
  rw [Gate.screenLines, Text.decode_encode]
  exact if_neg hfits

/-- If not all answers fit, there is a first one that does not. -/
lemma exists_first_unfit (gate : Gate) {numbers : List String} {room : Nat}
    (h : room < (gate.answers numbers).length) :
    ∃ fitting number others, numbers = fitting ++ number :: others ∧
      (gate.answers fitting).length ≤ room ∧
      room - (gate.answers fitting).length < (gate.answerLine number).length := by
  induction numbers generalizing room with
  | nil => exact absurd h (Nat.not_lt_zero room)
  | cons number numbers ih =>
    rw [Gate.answers_cons, String.length_append] at h
    by_cases hfirst : (gate.answerLine number).length ≤ room
    · obtain ⟨fitting, last, others, rfl, hle, hlt⟩ :=
        @ih (room - (gate.answerLine number).length) (by omega)
      refine ⟨number :: fitting, last, others, rfl, ?_, ?_⟩
      · rw [Gate.answers_cons, String.length_append]
        omega
      · rw [Gate.answers_cons, String.length_append]
        omega
    · exact ⟨[], number, numbers, rfl, Nat.zero_le room, Nat.lt_of_not_le hfirst⟩

/-- Answers to more numbers take up no fewer characters. -/
lemma length_answers_take_le (gate : Gate) (numbers : List String) {j k : Nat} (h : j ≤ k) :
    (gate.answers (numbers.take j)).length ≤ (gate.answers (numbers.take k)).length := by
  obtain ⟨d, rfl⟩ := Nat.exists_eq_add_of_le h
  rw [List.take_add, Gate.answers_append, String.length_append]
  exact Nat.le_add_right _ _

/-- The answers before the first that does not fit, and what there is room for of that one, are
the first characters of all answers. -/
lemma toList_answers_take (gate : Gate) (fitting others : List String) (number : String)
    {room : Nat} (hle : (gate.answers fitting).length ≤ room)
    (hlt : room - (gate.answers fitting).length < (gate.answerLine number).length) :
    (gate.answers (fitting ++ number :: others)).toList.take room =
      (gate.answers fitting).toList ++
        (gate.answerLine number).toList.take (room - (gate.answers fitting).length) := by
  simp only [← String.length_toList] at hle hlt ⊢
  rw [Gate.answers_append, Gate.answers_cons, String.toList_append, String.toList_append,
    List.take_append, List.take_of_length_le hle,
    List.take_append_of_le_length (Nat.le_of_lt hlt)]

/-- If not all answers fit, screening stops after the fewest numbers whose answers do not, whatever
follows them. -/
lemma exists_unfit_run (gate : Gate) {numbers : List String} {room : Nat}
    (h : room < (gate.answers numbers).length) :
    ∃ k, k ≤ numbers.length ∧ IsLeast {k | room < (gate.answers (numbers.take k)).length} k ∧
      ∃ stopped : Screening, stopped.fault = some .outputFull ∧
        stopped.output.toList = (gate.answers numbers).toList.take room ∧
        stopped.events = (numbers.take k).map (fun number => (gate.decide number).2) ∧
        ∀ lines, gate.screenLines (some room) ((numbers.take k).map Text.encode ++ lines) =
          stopped := by
  obtain ⟨fitting, number, others, rfl, hle, hlt⟩ := exists_first_unfit gate h
  have htake : (fitting ++ number :: others).take (fitting.length + 1) = fitting ++ [number] :=
    List.take_length_add_append 1
  have hstop : ∀ j, room < (gate.answers ((fitting ++ number :: others).take j)).length →
      fitting.length + 1 ≤ j := by
    intro j hj
    by_contra hless
    have hfront : (fitting ++ number :: others).take fitting.length = fitting := List.take_left
    have hj : j ≤ fitting.length := by omega
    have hmono := length_answers_take_le gate (fitting ++ number :: others) hj
    rw [hfront] at hmono
    omega
  refine ⟨fitting.length + 1, ?_, ⟨?_, hstop⟩, gate.answerAll fitting
    ⟨String.ofList ((gate.answerLine number).toList.take (room - (gate.answers fitting).length)),
      [(gate.decide number).2], some .outputFull⟩, ?_, ?_, ?_, ?_⟩
  · rw [List.length_append, List.length_cons]
    omega
  · have hone : gate.answers [number] = gate.answerLine number := by
      rw [Gate.answers_cons]
      exact String.append_empty
    rw [Set.mem_ofPred_eq, htake, Gate.answers_append, String.length_append, hone]
    omega
  · exact answerAll_fault gate fitting _
  · rw [answerAll_output, toList_answers_take gate fitting others number hle hlt,
      String.toList_append, String.toList_ofList]
    rfl
  · rw [htake, answerAll_events, List.map_append]
    rfl
  · intro lines
    rw [htake, List.map_append, List.append_assoc, screenLines_fitting gate fitting _ hle]
    exact congrArg _ (screenLines_full gate number lines hlt)

/-- If all answers fit, the limit makes no difference. -/
lemma screenInput_fitting (gate : Gate) (input : List UInt8) {room : Nat}
    (h : (gate.answers (Text.leadingTexts (Text.splitLines input))).length ≤ room) :
    gate.screenInput (some room) input = gate.screenInput none input := by
  obtain ⟨rest, fault, hlines, hstop, -⟩ := exists_leadingTexts (Text.splitLines input)
  generalize Text.leadingTexts (Text.splitLines input) = numbers at h hlines
  -- The answers leave room, and what stops the run after them does not depend on how much.
  calc gate.screenInput (some room) input
    _ = gate.screenLines (some room) (numbers.map Text.encode ++ rest) := by
      rw [screenInput_eq, hlines]
    _ = gate.answerAll numbers ⟨"", [], fault⟩ := by
      rw [screenLines_fitting gate numbers rest h, hstop]
    _ = gate.screenInput none input := by
      rw [← hstop gate none, ← screenLines_append, ← hlines, screenInput_eq]

/-- If not all answers fit, screening stops after the fewest lines whose answers do not, and does so
for every stream that begins with these lines. -/
lemma screenInput_unfit (gate : Gate) (input : List UInt8) {room : Nat} {numbers : List String}
    (hnumbers : Text.leadingTexts (Text.splitLines input) = numbers)
    (h : room < (gate.answers numbers).length) :
    ∃ k, IsLeast {k | room < (gate.answers (numbers.take k)).length} k ∧
      (gate.screenInput (some room) input).fault = some .outputFull ∧
      (gate.screenInput (some room) input).output.toList =
        (gate.answers numbers).toList.take room ∧
      (gate.screenInput (some room) input).events =
        (numbers.take k).map (fun number => (gate.decide number).2) ∧
      ∀ input', (Text.splitLines input').take k = (Text.splitLines input).take k →
        gate.screenInput (some room) input' = gate.screenInput (some room) input := by
  obtain ⟨rest, -, hlines, -, -⟩ := exists_leadingTexts (Text.splitLines input)
  rw [hnumbers] at hlines
  obtain ⟨k, hk, hleast, stopped, hfault, houtput, hevents, hrun⟩ := exists_unfit_run gate h
  have hfront : (Text.splitLines input).take k = (numbers.take k).map Text.encode := by
    rw [hlines, List.take_append_of_le_length (by rw [List.length_map]; exact hk), List.map_take]
  have hstopped : ∀ input', (Text.splitLines input').take k = (Text.splitLines input).take k →
      gate.screenInput (some room) input' = stopped := by
    intro input' h
    rw [screenInput_eq, ← List.take_append_drop k (Text.splitLines input'), h, hfront]
    exact hrun _
  rw [hstopped input rfl]
  exact ⟨k, hleast, hfault, houtput, hevents, hstopped⟩

/-- A limited output takes the first bytes of the answers to the lines before the first that is no
text, which are all that is written without a limit. If all answers fit, the limit makes no
difference. Otherwise screening fails there, and the lines that are decided are the fewest whose
answers do not fit; no line after them has any influence. -/
theorem screenInput_limited (gate : Gate) (room : Nat) (input : List UInt8) :
    let numbers := Text.leadingTexts (Text.splitLines input)
    let limited := gate.screenInput (some room) input
    (gate.screenInput none input).output = gate.answers numbers ∧
    ((Text.encode (gate.answers numbers)).length ≤ room →
      limited = gate.screenInput none input) ∧
    (room < (Text.encode (gate.answers numbers)).length → ∃ k,
      IsLeast {k | room < (Text.encode (gate.answers (numbers.take k))).length} k ∧
      limited.fault.map StreamFault.kind = some "WriteZero" ∧
      Text.encode limited.output = (Text.encode (gate.answers numbers)).take room ∧
      limited.events = (numbers.take k).map (fun number => (gate.decide number).2) ∧
      ∀ input', (Text.splitLines input').take k = (Text.splitLines input).take k →
        gate.screenInput (some room) input' = limited) := by
  intro numbers limited
  have hascii : ∀ numbers, Text.encode (gate.answers numbers) =
      (gate.answers numbers).toList.map Text.asciiByte :=
    fun numbers => Text.encode_ascii fun c => Gate.ascii_of_mem_answers
  simp only [hascii, List.length_map, String.length_toList]
  refine ⟨(screenInput_unlimited gate input).1, screenInput_fitting gate input, fun hunfit => ?_⟩
  obtain ⟨k, hleast, hfault, houtput, hevents, hrun⟩ := screenInput_unfit gate input rfl hunfit
  refine ⟨k, hleast, congrArg (Option.map StreamFault.kind) hfault, ?_, hevents, hrun⟩
  have hmem : ∀ c ∈ limited.output.toList, c.toNat < 0x80 := by
    intro c hc
    rw [houtput] at hc
    exact Gate.ascii_of_mem_answers (List.mem_of_mem_take hc)
  rw [Text.encode_ascii hmem, houtput, List.map_take]

end Gatekeeper.Screening
