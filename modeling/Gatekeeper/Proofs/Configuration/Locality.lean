import Gatekeeper.Proofs.Configuration.Document
import Gatekeeper.Proofs.Json.Locality

/-!
# What is said of malformed texts

A text that is no document is turned away with one of a few phrases and a place in it. Nothing of
the text itself is quoted, and nothing behind the place matters: the text may go on in any other
way, even inside a character, and is turned away with the same words.

`read_eq_error` is that a fault is an end, a number out of range, or settled by the bytes before its
place. `malformed_local` adds the words, which come from `phrases`, and the line and the column,
which `LiesAt` defines from the bytes before the place without counting as the reader does.
-/

namespace Gatekeeper

namespace Json

/-- The phrases for what is wrong with a text. -/
def phrases : List String := [
  "EOF while parsing a list",
  "EOF while parsing an object",
  "EOF while parsing a string",
  "EOF while parsing a value",
  "expected `:`",
  "expected `,` or `]`",
  "expected `,` or `\x7d`",
  "expected ident",
  "expected value",
  "invalid escape",
  "invalid number",
  "number out of range",
  "control character (\\u0000-\\u001F) found while parsing a string",
  "key must be a string",
  "lone leading surrogate in hex escape",
  "unexpected end of hex escape",
  "trailing comma",
  "trailing characters",
  "recursion limit exceeded"]

/-- The phrase of a cause is in the list of phrases. -/
lemma Cause.phrase_mem (cause : Cause) : cause.phrase ∈ phrases := by
  cases cause <;> decide

/-- Behind those bytes one is on that line and in that column: there is one line more than there are
line feeds, and the column counts the bytes behind the last of them. -/
def LiesAt (bytes : List UInt8) (line column : Nat) : Prop :=
  line = 1 + bytes.count 0x0A ∧
    ∃ before current, bytes = before ++ current ∧ 0x0A ∉ current ∧
      (before = [] ∨ before.getLast? = some 0x0A) ∧ column = current.length

/-- The position behind some bytes is the one that is counted from their line feeds. -/
lemma Position.liesAt_after (bytes : List UInt8) :
    LiesAt bytes (Position.after bytes).line (Position.after bytes).column := by
  refine ⟨rfl, (bytes.reverse.dropWhile (· != Text.lineFeed)).reverse,
    (bytes.reverse.takeWhile (· != Text.lineFeed)).reverse, ?_, ?_, ?_, ?_⟩
  · rw [← List.reverse_append, List.takeWhile_append_dropWhile, List.reverse_reverse]
  · intro hmem
    have htest := List.all_eq_true.1 List.all_takeWhile _ (List.mem_reverse.1 hmem)
    exact absurd htest (by decide)
  · have hfirst := List.head?_dropWhile_not (· != Text.lineFeed) bytes.reverse
    rw [List.getLast?_reverse, List.reverse_eq_nil_iff]
    generalize bytes.reverse.dropWhile (· != Text.lineFeed) = before at hfirst ⊢
    cases before with
    | nil => exact .inl rfl
    | cons b before =>
      right
      have hb : b = Text.lineFeed := by simpa using hfirst
      rw [hb]
      rfl
  · rw [List.length_reverse]
    rfl

/-- The place of a fault, and what depends on no more than the bytes before it. -/
lemma read_eq_error {text : String} {m : Malformation} (h : read text = .error m) :
    ∃ place ≤ (Text.encode text).length,
      m.position = .after ((Text.encode text).take place) ∧
      (m.cause.IsEnd → place = (Text.encode text).length) ∧
      (¬ m.cause.IsEnd → m.cause ≠ .numberOutOfRange → ∀ other,
        (Text.encode other).take place = (Text.encode text).take place →
        read other = .error m) := by
  have hread : ∀ fault, readDocument text.toList = .error fault → m = fault.locate text := by
    intro fault hfault
    rw [read, hfault] at h
    exact (Except.error.inj h).symm
  cases readDocument_judged text.toList with
  | accepted hok _ =>
    rw [read, hok] at h
    cases h
  | ended hend hfault =>
    obtain rfl := hread _ hfault
    exact ⟨_, Nat.le_refl _, rfl, fun _ => rfl, fun hne => absurd hend hne⟩
  | @outOfRange left hfault =>
    obtain rfl := hread _ hfault
    have hnot : ¬ Cause.numberOutOfRange.IsEnd := by decide
    exact ⟨_, Nat.sub_le _ left, rfl, fun hend => absurd hend hnot, fun _ hne => absurd rfl hne⟩
  | @refused cause place hrefuses =>
    obtain rfl := hread _ (hrefuses.fault _ (Text.sameFront_self hrefuses.le))
    have hlocate : ∀ other, Text.SameFront place text.toList other.toList →
        Fault.locate other ⟨cause, Text.size other.toList - place⟩ =
          ⟨cause, .after ((Text.encode other).take place)⟩ := by
      intro other hother
      simp only [Fault.locate, Text.length_encode, Nat.sub_sub_self hother.le_size]
    rw [hlocate text (Text.sameFront_self hrefuses.le)]
    refine ⟨place, ?_, rfl, fun hend => absurd hend hrefuses.notEnd, fun _ _ other hfront => ?_⟩
    · rw [Text.length_encode]
      exact hrefuses.le
    · have hother : Text.SameFront place text.toList other.toList := by
        refine ⟨hrefuses.le, ?_⟩
        rw [← Text.encode_eq_flatMap, ← Text.encode_eq_flatMap, hfront]
      rw [read, hrefuses.fault _ hother, ← hfront]
      exact congrArg Except.error (hlocate other hother)

end Json

namespace Configuration
open Json

/-- What is said of a malformed text is one of the phrases, with the line and the column of a place
in the text. The place is the end of the text if the phrase says that it ends too early. Otherwise,
and unless a number is out of range, any text with the same bytes before the place is turned away
with the same words. -/
theorem malformed_local {text : String} {m : Malformation}
    (h : ofText text = .error (.malformed m)) :
    ∃ phrase ∈ phrases, ∃ place line column, place ≤ (Text.encode text).length ∧
      (Defect.malformed m).message =
        phrase ++ " at line " ++ toString line ++ " column " ++ toString column ∧
      LiesAt ((Text.encode text).take place) line column ∧
      ((∃ what, phrase = "EOF while parsing " ++ what) → place = (Text.encode text).length) ∧
      ((¬ ∃ what, phrase = "EOF while parsing " ++ what) → phrase ≠ "number out of range" →
        ∀ other, (Text.encode other).take place = (Text.encode text).take place →
          ofText other = .error (.malformed m)) := by
  obtain ⟨place, hplace, hposition, hend, hlocal⟩ := read_eq_error (ofText_eq_malformed_iff.1 h)
  refine ⟨m.cause.phrase, m.cause.phrase_mem, place, m.position.line, m.position.column, hplace,
    rfl, ?_, hend, fun hnot hrange other hfront => ?_⟩
  · rw [hposition]
    exact Position.liesAt_after _
  · rw [ofText_eq_malformed_iff]
    apply hlocal hnot _ other hfront
    intro hcause
    rw [hcause] at hrange
    exact hrange rfl

/-- A backslash before a character of two bytes, on the second line of a text in two brackets, and
the same text with something behind it. -/
theorem malformed_local_escape :
    ∃ text m, text = "[\x7b\n\"é\\é" ∧ ofText text = .error (.malformed m) ∧
      (Defect.malformed m).message = "invalid escape at line 2 column 5" ∧
      ofText (text ++ "\": 1\x7d]") = .error (.malformed m) := by
  refine ⟨_, ⟨.escapeUnknown, 2, 5⟩, rfl, ?_⟩
  have hm : ofText "[\x7b\n\"é\\é" = .error (.malformed ⟨.escapeUnknown, 2, 5⟩) := by
    have hfault : (match Json.read "[\x7b\n\"é\\é" with
        | .error m => some m
        | .ok _ => none) = some ⟨.escapeUnknown, 2, 5⟩ := by decide +kernel
    split at hfault
    · next e => rw [ofText_eq_malformed_iff, e, Option.some.inj hfault]
    · cases hfault
  have hmessage : (Defect.malformed ⟨.escapeUnknown, 2, 5⟩).message =
      "invalid escape at line 2 column 5" := by decide +kernel
  refine ⟨hm, hmessage, ?_⟩
  obtain ⟨phrase, -, place, line, column, hplace, hphrase, -, -, hlocal⟩ := malformed_local hm
  have hfirst := congrArg (fun s : String => s.toList.head?) (hmessage.symm.trans hphrase)
  apply hlocal
  · rintro ⟨what, rfl⟩
    simp at hfirst
  · rintro rfl
    simp at hfirst
  · rw [Text.encode_append, List.take_append_of_le_length hplace]

end Configuration

end Gatekeeper
