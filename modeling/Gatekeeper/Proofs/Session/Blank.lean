import Gatekeeper.Proofs.Gate.Check
import Gatekeeper.Proofs.Screening.Agreement
import Gatekeeper.Proofs.Session.Construction
import Gatekeeper.Proofs.Text.Basic

/-!
# Nothing blank passes

Whatever steps a session has taken, each of its gates was made from a document, so that its number
says something. A candidate of nothing but white space is another one than that, and is turned away
however the gate is asked, also as a line of a stream.

`Gate.Made` is kept by every step (`WellMade.step`), and so it holds of all gates after any steps
(`WellMade.after`). About one gate, `Gate.Made.check_blank` and `Gate.Made.screenInput_blank` say
what becomes of white space. The theorem puts the two together.
-/

namespace Gatekeeper

/-! ## One gate -/

section
variable {gate : Gate} {blank : String}

/-- The number of a gate has a character that is no white space. -/
lemma Gate.Made.exists_not_isWhiteSpace (made : gate.Made) :
    ∃ c ∈ gate.number.toList, ¬ Text.IsWhiteSpace c := by
  obtain ⟨c, hc, hblank⟩ := made.exists_not_isBlank
  refine ⟨c, hc, fun hspace => ?_⟩
  rw [Text.isBlank_iff.2 hspace] at hblank
  cases hblank

/-- A candidate of white space is turned away. -/
lemma Gate.Made.check_blank (made : gate.Made)
    (hblank : ∀ c ∈ blank.toList, Text.IsWhiteSpace c) : (gate.check (some blank)).1 = false := by
  rw [Gate.check_of_ne]
  intro e
  obtain ⟨c, hc, hspace⟩ := made.exists_not_isWhiteSpace
  rw [← Option.some.inj e] at hc
  exact hspace (hblank c hc)

/-- A gate that was made rejects what is blank. -/
lemma Gate.Made.decide_blank (made : gate.Made)
    (hblank : ∀ c ∈ blank.toList, Text.IsWhiteSpace c) : (gate.decide blank).1 = .rejected := by
  show (if (gate.check (some blank)).1 then Decision.authorized else Decision.rejected) = _
  rw [made.check_blank hblank]
  rfl

/-- A line of white space that is answered is answered with `rejected`, whatever the output takes;
if it takes everything, the line is answered as soon as all before it are texts. -/
lemma Gate.Made.screenInput_blank (made : gate.Made)
    (hblank : ∀ c ∈ blank.toList, Text.IsWhiteSpace c) {input : List UInt8} {i : Nat}
    (hline : (Text.splitLines input)[i]? = some (Text.encode blank)) :
    (∀ room word, (Screening.completeLines (gate.screenInput room input).output)[i]? = some word →
      word = "rejected") ∧
    ((∀ line ∈ (Text.splitLines input).take i, Text.IsText line) →
      (Screening.completeLines (gate.screenInput none input).output)[i]? = some "rejected") := by
  have hword : (gate.decide blank).1.word = "rejected" :=
    congrArg Decision.word (made.decide_blank hblank)
  refine ⟨fun room word hanswer => ?_, fun hbefore => ?_⟩
  · obtain ⟨number, hnumber, rfl⟩ := Screening.exists_of_completeLines hanswer
    rw [hline, Option.some.injEq] at hnumber
    rw [← Text.encode_injective hnumber, hword]
  · rw [Screening.completeLines_screenInput, List.getElem?_map,
      Screening.getElem?_leadingTexts hline hbefore, Option.map_some, hword]

end

/-! ## Sessions -/

namespace Session

/-- Every gate of the session was made from a document. -/
def WellMade (session : Session) : Prop :=
  ∀ entry ∈ session.gates, entry.2.Made

variable {session : Session}

/-- In the beginning there is no gate, so all of them are well made. -/
lemma wellMade_start (files : Files.Node) : (start files).WellMade :=
  List.forall_mem_nil _

/-- They are when a gate that was made is set. -/
lemma WellMade.setGate (h : session.WellMade) (name : String) {gate : Gate} (made : gate.Made) :
    (session.setGate name gate).WellMade :=
  List.forall_mem_cons.2 ⟨made, h⟩

/-- No step makes a gate from anything else: one that fails to load or to read a document makes
none. -/
lemma WellMade.step (h : session.WellMade) (step : Step) : (session.step step).1.WellMade := by
  cases step with
  | write path content => exact h
  | makeDirectory path => exact h
  | remove path => exact h
  | load name path =>
    simp only [Session.step, Gate.ofFile]
    cases hfile : Configuration.ofFile session.files (pathOrDefault path) with
    | error fault => exact h
    | ok config => exact h.setGate name (Configuration.made_of_ofFile hfile _)
  | define name path text =>
    simp only [Session.step]
    cases htext : Configuration.ofText text with
    | error defect => exact h
    | ok config => exact h.setGate name ⟨text, config, path, htext, rfl⟩
  | read path =>
    simp only [Session.step]
    split
    · exact h
    · exact h
  | levelOf path => exact h
  | resolve path => exact h
  | ask name request =>
    rw [step_ask_fst]
    exact h

/-- They are after any steps. -/
lemma WellMade.after (h : session.WellMade) (steps : List Step) :
    (session.after steps).WellMade := by
  induction steps generalizing session with
  | nil => exact h
  | cons step steps ih => exact ih (h.step step)

/-- Each gate of such a session was made. -/
lemma WellMade.made (h : session.WellMade) {name : String} {gate : Gate}
    (hgate : session.gate? name = some gate) : gate.Made := by
  obtain ⟨front, back, hgates, -⟩ := List.lookup_eq_some_iff.1 hgate
  apply h (name, gate)
  rw [hgates]
  exact List.mem_append_right front List.mem_cons_self

/-- After any steps, the number of any gate has a character that is no white space. So the gate lets
nothing pass that is absent, empty or white space throughout, whichever way it is asked; a line of
white space is answered with `rejected` in every stream, whatever the output takes. -/
theorem blank_never_authorized {files : Files.Node} {steps : List Step} {name : String}
    {gate : Gate} (h : ((start files).after steps).gate? name = some gate) :
    (∃ c ∈ gate.number.toList, ¬ Text.IsWhiteSpace c) ∧
    (gate.check none).1 = false ∧
    ∀ blank : String, (∀ c ∈ blank.toList, Text.IsWhiteSpace c) →
      (gate.check (some blank)).1 = false ∧ (gate.checkNumber blank).1 = false ∧
      (gate.decide blank).1 = .rejected ∧
      ∀ (input : List UInt8) (i : Nat),
        (Text.splitLines input)[i]? = some (Text.encode blank) →
        (∀ room word,
          (Screening.completeLines (gate.screenInput room input).output)[i]? = some word →
          word = "rejected") ∧
        ((∀ line ∈ (Text.splitLines input).take i, Text.IsText line) →
          (Screening.completeLines (gate.screenInput none input).output)[i]? =
            some "rejected") := by
  have made : gate.Made := ((wellMade_start files).after steps).made h
  refine ⟨made.exists_not_isWhiteSpace, rfl, fun blank hblank => ?_⟩
  have hcheck := made.check_blank hblank
  exact ⟨hcheck, hcheck, made.decide_blank hblank, fun input i => made.screenInput_blank hblank⟩

/-- A gate that was loaded in place of another one, with a wide blank at the front of its number,
and a document with nothing but that blank, which makes no gate. -/
theorem blank_never_authorized_wide :
    ∃ steps gate,
      steps = [
        .define "g" "inline.json" "\x7b\"authorized_number\": \"+1\"\x7d",
        .write "gate.json" (Text.encode "\x7b\"authorized_number\": \"\\u3000+1 \"\x7d"),
        .load "g" (some "gate.json"),
        .define "g" "inline.json" "\x7b\"authorized_number\": \"\\u3000\"\x7d"] ∧
      ((start .empty).after steps).gate? "g" = some gate ∧ gate.number = "\u3000+1 " ∧
      (∀ c ∈ "\u3000".toList, Text.IsWhiteSpace c) ∧ (gate.check (some "\u3000")).1 = false ∧
      (Screening.completeLines
        (gate.screenInput none [0x0A, 0xE3, 0x80, 0x80, 0x0D, 0x0A]).output)[1]? =
          some "rejected" := by
  refine ⟨_, ⟨"\u3000+1 ", "gate.json"⟩, rfl, ?_⟩
  generalize hsteps : ([_, _, _, _] : List Step) = steps
  have hgate : ((start .empty).after steps).gate? "g" = some ⟨"\u3000+1 ", "gate.json"⟩ := by
    rw [← hsteps]
    decide +kernel
  have hspace : ∀ c ∈ "\u3000".toList, Text.IsWhiteSpace c := by
    intro c hc
    have hc : c ∈ ['\u3000'] := hc
    rw [List.mem_singleton.1 hc]
    decide
  have hline : (Text.splitLines [0x0A, 0xE3, 0x80, 0x80, 0x0D, 0x0A])[1]? =
      some (Text.encode "\u3000") := by decide +kernel
  obtain ⟨-, -, hblank⟩ := blank_never_authorized hgate
  obtain ⟨hcheck, -, -, hscreen⟩ := hblank "\u3000" hspace
  refine ⟨hgate, rfl, hspace, hcheck, (hscreen _ 1 hline).2 fun line hmem => ?_⟩
  have hempty : line ∈ [([] : List UInt8)] := by
    have hfront : (Text.splitLines [0x0A, 0xE3, 0x80, 0x80, 0x0D, 0x0A]).take 1 = [[]] := by
      decide +kernel
    rw [hfront] at hmem
    exact hmem
  rw [List.mem_singleton.1 hempty]
  exact Text.isText_nil

end Session

end Gatekeeper
