import Mathlib.Data.List.DropRight
import Mathlib.Tactic.Lemma
import Gatekeeper.Text.Basic

/-!
# Parts of texts, and white space

What is left of a list when it is cut at its marks: one part more than there are marks
(`length_split`), and in the parts nothing but what was in the list (`mem_of_mem_split`). Both are
inductions along `split`.

The characters that count as blank are listed one by one: they are those with the property
White_Space in the Unicode Character Database (`isBlank_iff`). Trimming a text leaves the one part
of it that neither begins nor ends with white space and has nothing else around it: `Bare` and
`Padded` say so without a word about how it is done, `Padded.trim_eq` is that there is no other such
part, and `padded_trim` and `bare_trim` are that trimming finds one.
-/

namespace Gatekeeper.Text

/-! ## Parts between marks -/

section
variable {α : Type} [BEq α] {mark : α} {xs : List α}

/-- Without a mark there is one part, which is all. -/
lemma split_of_not_mem [LawfulBEq α] (h : mark ∉ xs) : split mark xs = [xs] := by
  induction xs with
  | nil => rfl
  | cons x xs ih =>
    obtain ⟨hne, hmem⟩ := List.ne_and_not_mem_of_not_mem_cons h
    have hbeq : (x == mark) = false := beq_false_of_ne hne.symm
    rw [split, ih hmem]
    simp only [hbeq, Bool.false_eq_true, if_false]

/-- There is one part more than there are marks. -/
lemma length_split (mark : α) (xs : List α) : (split mark xs).length = xs.count mark + 1 := by
  induction xs with
  | nil => rfl
  | cons x xs ih =>
    rw [split, List.count_cons]
    split
    · rw [List.length_cons, ih]
    · cases hsplit : split mark xs with
      | nil =>
        rw [hsplit] at ih
        exact absurd ih (Nat.succ_ne_zero _).symm
      | cons part parts =>
        rw [hsplit] at ih
        exact ih

/-- There is one part only if there is no mark. -/
lemma length_split_eq_one_iff [LawfulBEq α] : (split mark xs).length = 1 ↔ mark ∉ xs := by
  rw [length_split, Nat.succ_inj, List.count_eq_zero]

/-- What is in a part was in the list. -/
lemma mem_of_mem_split {part : List α} {x : α} (hpart : part ∈ split mark xs) (hx : x ∈ part) :
    x ∈ xs := by
  induction xs generalizing part with
  | nil =>
    rw [split, List.mem_singleton] at hpart
    rw [← hpart]
    exact hx
  | cons y xs ih =>
    rw [split] at hpart
    split at hpart
    · obtain rfl | hpart := List.mem_cons.1 hpart
      · cases hx
      · exact List.mem_cons_of_mem y (ih hpart hx)
    · cases hsplit : split mark xs with
      | nil =>
        rw [hsplit, List.mem_singleton] at hpart
        rw [hpart, List.mem_singleton] at hx
        rw [hx]
        exact List.mem_cons_self
      | cons first others =>
        rw [hsplit] at hpart ih
        obtain rfl | hpart := List.mem_cons.1 hpart
        · obtain rfl | hx := List.mem_cons.1 hx
          · exact List.mem_cons_self
          · exact List.mem_cons_of_mem y (ih List.mem_cons_self hx)
        · exact List.mem_cons_of_mem y (ih (List.mem_cons_of_mem first hpart) hx)

end

/-! ## White space -/

/-- The numbers of the characters that have the property White_Space. -/
def whiteSpace : List Nat := [
  0x0009, 0x000A, 0x000B, 0x000C, 0x000D, 0x0020, 0x0085, 0x00A0, 0x1680, 0x2000, 0x2001, 0x2002,
  0x2003, 0x2004, 0x2005, 0x2006, 0x2007, 0x2008, 0x2009, 0x200A, 0x2028, 0x2029, 0x202F, 0x205F,
  0x3000]

/-- The character is one of them. -/
def IsWhiteSpace (c : Char) : Prop := c.toNat ∈ whiteSpace

/-- Whether a character is one of them can be computed. -/
instance : DecidablePred IsWhiteSpace :=
  fun c => inferInstanceAs (Decidable (c.toNat ∈ whiteSpace))

/-- These are the characters that count as blank. -/
lemma isBlank_iff {c : Char} : isBlank c = true ↔ IsWhiteSpace c := by
  simp only [isBlank, IsWhiteSpace, whiteSpace, Bool.or_eq_true, Bool.and_eq_true,
    decide_eq_true_eq, beq_iff_eq, List.mem_cons, List.not_mem_nil, or_false]
  omega

/-- The text neither begins nor ends with white space. -/
structure Bare (text : List Char) : Prop where
  head : ∀ c ∈ text.head?, ¬ IsWhiteSpace c
  last : ∀ c ∈ text.getLast?, ¬ IsWhiteSpace c

/-- The first text is the second one with white space around it. -/
def Padded (text core : List Char) : Prop :=
  ∃ front back, text = front ++ core ++ back ∧ ∀ c ∈ front ++ back, IsWhiteSpace c

/-! ## Trimming -/

section
variable {text core : List Char}

/-- A text is padded with nothing around itself. -/
lemma padded_self (text : List Char) : Padded text text :=
  ⟨[], [], by rw [List.nil_append, List.append_nil], List.forall_mem_nil _⟩

/-- Padding around padding is padding. -/
lemma Padded.trans {inner : List Char} (h : Padded text core) (h' : Padded core inner) :
    Padded text inner := by
  obtain ⟨front, back, rfl, hspace⟩ := h
  obtain ⟨front', back', rfl, hspace'⟩ := h'
  refine ⟨front ++ front', back' ++ back, by simp only [List.append_assoc], fun c hc => ?_⟩
  simp only [List.mem_append] at hc hspace hspace'
  obtain (hc | hc) | hc | hc := hc
  · exact hspace c (.inl hc)
  · exact hspace' c (.inl hc)
  · exact hspace' c (.inr hc)
  · exact hspace c (.inr hc)

/-- White space in front is skipped. -/
lemma dropWhile_append {front : List Char} (h : ∀ c ∈ front, IsWhiteSpace c) :
    (front ++ text).dropWhile isBlank = text.dropWhile isBlank :=
  List.dropWhile_append_of_pos fun c hc => isBlank_iff.2 (h c hc)

/-- White space at the end is cut off. -/
lemma trimEnd_append {back : List Char} (h : ∀ c ∈ back, IsWhiteSpace c) :
    trimEnd (text ++ back) = trimEnd text := by
  unfold trimEnd
  rw [List.reverse_append, dropWhile_append fun c hc => h c (List.mem_reverse.1 hc)]

/-- Cutting off at the end leaves a front of the text. -/
lemma prefix_trimEnd (text : List Char) : trimEnd text <+: text :=
  List.rdropWhile_prefix isBlank text

/-- A text is padded around what trimming leaves. -/
lemma padded_trim (text : List Char) : Padded text (trim text) := by
  refine ⟨text.takeWhile isBlank, (text.dropWhile isBlank).rtakeWhile isBlank, ?_, ?_⟩
  · rw [List.append_assoc]
    show text = _ ++ ((text.dropWhile isBlank).rdropWhile isBlank ++ _)
    rw [List.rdropWhile_append_rtakeWhile, List.takeWhile_append_dropWhile]
  · intro c hc
    apply isBlank_iff.1
    obtain hc | hc := List.mem_append.1 hc
    · exact List.mem_takeWhile_imp hc
    · exact List.mem_rtakeWhile_imp hc

/-- Trimming leaves no white space at either end. -/
lemma bare_trim (text : List Char) : Bare (trim text) := by
  constructor
  · intro c hc hspace
    -- Cutting blanks off the end leaves the first character, if any, where it was.
    obtain ⟨back, hback⟩ : trim text <+: text.dropWhile isBlank := prefix_trimEnd _
    have hhead : (text.dropWhile isBlank).head? = some c := by
      rw [← hback, List.head?_append_of_ne_nil]
      · exact hc
      · intro e
        rw [e] at hc
        cases hc
    have hblank := List.head?_dropWhile_not isBlank text
    rw [hhead] at hblank
    exact absurd (isBlank_iff.2 hspace) (ne_true_of_eq_false hblank)
  · intro c hc hspace
    obtain ⟨hne, rfl⟩ := List.mem_getLast?_eq_getLast hc
    exact List.rdropWhile_last_not isBlank _ hne (isBlank_iff.2 hspace)

/-- Trimming a text that is padded takes off the padding. -/
lemma Bare.trim_eq (hbare : Bare core) (h : Padded text core) : trim text = core := by
  obtain ⟨front, back, rfl, hspace⟩ := h
  have hfront : ∀ c ∈ front, IsWhiteSpace c := fun c hc => hspace c (List.mem_append_left _ hc)
  have hback : ∀ c ∈ back, IsWhiteSpace c := fun c hc => hspace c (List.mem_append_right _ hc)
  rw [trim, List.append_assoc, dropWhile_append hfront]
  cases core with
  | nil =>
    rw [List.nil_append, List.dropWhile_eq_nil_iff.2 fun c hc => isBlank_iff.2 (hback c hc)]
    rfl
  | cons c core =>
    rw [List.cons_append, List.dropWhile_cons_of_neg (mt isBlank_iff.1 (hbare.head c rfl)),
      ← List.cons_append, trimEnd_append hback]
    apply List.rdropWhile_eq_self_iff.2
    intro hne hblank
    exact hbare.last _ (List.getLast?_eq_some_getLast hne) (isBlank_iff.1 hblank)

/-- Padding makes no difference to what is left of a text. -/
lemma Padded.trim_eq (h : Padded text core) : trim text = trim core :=
  (bare_trim core).trim_eq (h.trans (padded_trim core))

end

end Gatekeeper.Text
