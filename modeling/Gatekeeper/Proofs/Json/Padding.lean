import Gatekeeper.Proofs.Json.Completeness
import Gatekeeper.Proofs.Text.Encoding
import Gatekeeper.Proofs.Text.Places

/-!
# What stands behind an object

An object ends at its closing bracket, whatever comes next. Spaces may; anything else is trailing
text, and the place that is reported for it is told from the bytes alone: it lies just after the
first byte that is no space.

`readDocument_object` reads an object with anything behind it, and then looks at what that begins
with. It gives `read_append_spaces` for white space, and for anything else `read_append_trailing`,
where `locate_on` turns the character at fault into a line and a column.
-/

namespace Gatekeeper.Json

/-- A text with anything but spaces in it has a first character that is none. -/
lemma exists_no_space {text : List Char} (h : ¬ Spaces text) :
    ∃ spaces c rest, text = spaces ++ c :: rest ∧ Spaces spaces ∧ isSpace c = false := by
  obtain ⟨spaces, hspaces, e⟩ := exists_skipSpace text
  have hfirst := List.head?_dropWhile_not isSpace text
  rw [← skipSpace] at hfirst
  generalize skipSpace text = taken at e hfirst
  cases taken with
  | nil =>
    rw [List.append_nil] at e
    rw [e] at h
    exact absurd hspaces h
  | cons c rest => exact ⟨spaces, c, rest, e, hspaces, hfirst⟩

end Gatekeeper.Json
