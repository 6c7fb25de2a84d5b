import Gatekeeper.Configuration
import Gatekeeper.Proofs.Json.Completeness

/-!
# Which texts are configurations

What a text configures depends on the value that the grammar of documents finds in it. A text that
is no document is malformed; a document never is, but for numbers out of range; and what is not
malformed is told from an object by the value alone.

The result joins `Json.read_eq_ok_iff`, which is about all texts, with `ofMembers_ne`: members of an
object lead neither to a malformed text nor to one that holds no object. So each of the errors of a
configuration is told by the reader, by the value or by the members, and by one of these only.
-/

namespace Gatekeeper.Configuration
open Json

/-- What an object configures is decided by its members, and it is not malformed. -/
lemma ofMembers_ne {members : List (String × Value)} :
    (∀ m, ofMembers members ≠ .error (.malformed m)) ∧ ofMembers members ≠ .error .notObject := by
  unfold ofMembers
  split
  · exact ⟨nofun, nofun⟩
  · split
    · exact ⟨nofun, nofun⟩
    · exact ⟨nofun, nofun⟩

/-- A text is malformed for the reason that the reader gives. -/
lemma ofText_eq_malformed_iff {text : String} {m : Malformation} :
    ofText text = .error (.malformed m) ↔ read text = .error m := by
  unfold ofText
  split
  · next fault e =>
    rw [e, Except.error.injEq, Except.error.injEq, Defect.malformed.injEq]
  · next members e =>
    rw [e]
    exact ⟨fun h => absurd h (ofMembers_ne.1 m), nofun⟩
  · next e =>
    rw [e]
    exact ⟨nofun, nofun⟩

/-- A text that holds a value is turned away as no object exactly if the value is none. -/
lemma ofText_eq_notObject_iff {text : String} {v : Value} (h : read text = .ok v) :
    ofText text = .error .notObject ↔ ∀ members, v ≠ .object members := by
  unfold ofText
  rw [h]
  cases v with
  | object members =>
    exact ⟨fun e => absurd e ofMembers_ne.2, fun hne => absurd rfl (hne members)⟩
  | _ => exact ⟨fun _ => nofun, fun _ => rfl⟩

/-- A text that is no document is malformed. A document is malformed only for a number out of
range, and not at all if its numbers are plain integers of 64 bits; if it is not, it is turned away
as no object exactly if the value it denotes is none. -/
theorem ofText_follows_grammar (text : String) :
    ((∀ v, ¬ IsDocument text v) → ∃ m, ofText text = .error (.malformed m)) ∧
    ∀ v, IsDocument text v →
      (∀ m, ofText text = .error (.malformed m) →
        (Defect.malformed m).message = "number out of range at line " ++ toString m.position.line ++
          " column " ++ toString m.position.column) ∧
      (v.AllNumerals Numeral.IsPlainWord → ∀ m, ofText text ≠ .error (.malformed m)) ∧
      ((∀ m, ofText text ≠ .error (.malformed m)) →
        (ofText text = .error .notObject ↔ ∀ members, v ≠ .object members)) := by
  refine ⟨?_, ?_⟩
  · -- Whatever is read is a document, so nothing can have been read.
    intro hnone
    cases h : read text with
    | error m => exact ⟨m, ofText_eq_malformed_iff.2 h⟩
    | ok v => exact absurd (isDocument_of_read h) (hnone v)
  · intro v hdocument
    refine ⟨?_, ?_, ?_⟩
    · intro m hm
      rw [ofText_eq_malformed_iff] at hm
      obtain ⟨-, h⟩ | ⟨-, position, h⟩ := read_of_isDocument hdocument
      · rw [h] at hm
        cases hm
      · rw [h] at hm
        cases hm
        rfl
    · intro hplain m hm
      have hrange : v.InRange := hplain.imp fun n hn => hn.overflow_eq_none
      rw [ofText_eq_malformed_iff, read_eq_ok_iff.2 ⟨hdocument, hrange⟩] at hm
      cases hm
    · intro hne
      obtain ⟨-, h⟩ | ⟨-, position, h⟩ := read_of_isDocument hdocument
      · exact ofText_eq_notObject_iff h
      · exact absurd (ofText_eq_malformed_iff.2 h) (hne _)

end Gatekeeper.Configuration
