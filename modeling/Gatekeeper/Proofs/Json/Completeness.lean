import Gatekeeper.Proofs.Json.Soundness

/-!
# Every document is read

A text that is a document is read as the value it denotes, unless one of the numbers in it is out
of range: that, and nothing else, is then what the reader says. Its outcome therefore comes in two
cases that are carried through items, members and values together.

`Outcome` names these two cases, and `Outcome.cons` carries them along a list of items.
`readMore_more` is an induction along the items of the grammar, with fuel for each of them
(`More.length_le`); `readValue_isValue` is one on the depth of a value. With the soundness of the
reader, `read_of_isDocument` gives `read_eq_ok_iff`: exactly the documents with all numbers in range
are read, and as the values that they denote.
-/

namespace Gatekeeper.Json

/-- What comes of reading something: the thing and the rest of the text if it fits, and otherwise
that a number is out of range. -/
inductive Outcome {α : Type} (fits : Prop) (a : α) (rest : List Char) :
    Except Fault (α × List Char) → Prop where
  | taken :
    fits →
    Outcome fits a rest (.ok (a, rest))
  | outOfRange {left} :
    ¬ fits →
    Outcome fits a rest (.error ⟨.numberOutOfRange, left⟩)

section
variable {α β : Type} {fits also : Prop} {a : α} {b : β} {rest after : List Char}
variable {result : Except Fault (α × List Char)}

/-- An outcome depends only on whether the condition holds. -/
lemma Outcome.congr (h : Outcome fits a rest result) (e : fits ↔ also) :
    Outcome also a rest result := by
  cases h with
  | taken hfits => exact .taken (e.1 hfits)
  | outOfRange hfits => exact .outOfRange fun h => hfits (e.2 h)

/-- An outcome stays one when the value that is read is mapped. -/
lemma Outcome.map (h : Outcome fits a rest result) (f : α → β) :
    Outcome fits (f a) rest (result.map fun (a, rest) => (f a, rest)) := by
  cases h with
  | taken hfits => exact .taken hfits
  | outOfRange hfits => exact .outOfRange hfits

/-- A first item is read before further ones, and all have to fit. -/
lemma Outcome.cons {fits : α → Prop} {as : List α} (h : Outcome (fits a) a rest result)
    (others : List Char → Except Fault (List α × List Char))
    (hothers : Outcome (∀ b ∈ as, fits b) as after (others rest)) :
    Outcome (∀ b ∈ a :: as, fits b) (a :: as) after (do
      let (first, rest) ← result
      let (others, rest) ← others rest
      return (first :: others, rest)) := by
  cases h with
  | outOfRange hfits => exact .outOfRange fun h => hfits (h a List.mem_cons_self)
  | taken hfits =>
    simp only [bind, Except.bind]
    generalize others rest = result at hothers
    cases hothers with
    | taken hall => exact .taken (List.forall_mem_cons.2 ⟨hfits, hall⟩)
    | outOfRange hall => exact .outOfRange fun h => hall (List.forall_mem_cons.1 h).2

end

/-! ## What comes next -/

/-- Spaces before something else are skipped. -/
lemma skipSpace_append {spaces c rest} (hspaces : Spaces spaces) (hc : isSpace c = false) :
    skipSpace (spaces ++ c :: rest) = c :: rest := by
  have hall : ∀ d ∈ spaces, isSpace d = true := fun d hd => isSpace_iff.2 (hspaces d hd)
  rw [skipSpace, List.dropWhile_append_of_pos hall, List.dropWhile_cons_of_neg (by simp [hc])]

/-- Spaces at the end of a text are skipped. -/
lemma skipSpace_spaces {spaces} (hspaces : Spaces spaces) : skipSpace spaces = [] := by
  have hall : ∀ d ∈ spaces, isSpace d = true := fun d hd => isSpace_iff.2 (hspaces d hd)
  have e := @List.dropWhile_append_of_pos Char isSpace spaces [] hall
  rw [List.append_nil] at e
  exact e

/-- A number ends before a space, a comma and a closing bracket. -/
lemma numberEnds_cons {c : Char} (rest : List Char)
    (h : isSpace c = true ∨ c = ',' ∨ c = ']' ∨ c = '\x7d') : NumberEnds (c :: rest) := by
  rintro d ⟨⟩
  rw [isSpace_iff] at h
  obtain (rfl | rfl | rfl | rfl) | rfl | rfl | rfl := h <;> decide

/-- A number ends before spaces, if it ends where they do. -/
lemma NumberEnds.append {spaces rest} (hspaces : Spaces spaces) (h : NumberEnds rest) :
    NumberEnds (spaces ++ rest) := by
  cases spaces with
  | nil => exact h
  | cons c spaces => exact numberEnds_cons _ (.inl (isSpace_iff.2 (hspaces c List.mem_cons_self)))

/-- A closing bracket is no white space. -/
lemma isSpace_closing {c : Char} (h : c = ']' ∨ c = '\x7d') : isSpace c = false := by
  obtain rfl | rfl := h
  · rfl
  · rfl

/-- What is neither of the closing brackets is not the one at hand. -/
lemma ne_closing {c closing : Char} (h : closing = ']' ∨ closing = '\x7d') (hlist : c ≠ ']')
    (hobject : c ≠ '\x7d') : (c == closing) = false := by
  obtain rfl | rfl := h
  · exact beq_false_of_ne hlist
  · exact beq_false_of_ne hobject

/-- Something that is written starts with a character that is no space and closes no bracket. -/
def Starts {α : Type} (item : List Char → α → Prop) : Prop :=
  ∀ {text a}, item text a →
    ∃ c cs, text = c :: cs ∧ isSpace c = false ∧ c ≠ ']' ∧ c ≠ '\x7d'

/-! ## Items between brackets -/

section
variable {α : Type} {brackets : Brackets} {reader : Reader α} {item : List Char → α → Prop}
variable {fits : α → Prop}

/-- There are no more items than characters that spell them. -/
lemma More.length_le {text as} (h : More item text as) : as.length ≤ text.length := by
  induction h with
  | none => exact Nat.le_refl 0
  | next _ _ ih =>
    simp only [List.length_append, List.length_cons] at ih ⊢
    omega

/-- A number ends before further items and the closing bracket. -/
lemma More.numberEnds {text as} (h : More item text as) {closing : Char}
    (hclosing : closing = ']' ∨ closing = '\x7d') (rest : List Char) :
    NumberEnds (text ++ closing :: rest) := by
  cases h with
  | none => exact numberEnds_cons _ (.inr (.inr hclosing))
  | next _ _ => exact numberEnds_cons _ (.inr (.inl rfl))

/-- Further items are read back, up to the closing bracket. -/
lemma readMore_more (hclose : brackets.close = ']' ∨ brackets.close = '\x7d')
    (hstarts : Starts item) {text as} (h : More item text as)
    (hreader : ∀ a ∈ as, ∀ text rest, item text a → NumberEnds rest →
      Outcome (fits a) a rest (reader (text ++ rest)))
    {spaces fuel} (hspaces : Spaces spaces) (hfuel : as.length < fuel) (rest : List Char) :
    Outcome (∀ a ∈ as, fits a) as rest
      (readMore brackets reader fuel (spaces ++ (text ++ brackets.close :: rest))) := by
  induction h generalizing spaces fuel with
  | none =>
    cases fuel with
    | zero => exact absurd hfuel (Nat.not_lt_zero _)
    | succ fuel =>
      rw [List.nil_append, readMore, skipSpace_append hspaces (isSpace_closing hclose)]
      simp only [beq_self_eq_true, if_true]
      exact .taken (List.forall_mem_nil _)
  | @next first others a as hfirst hothers ih =>
    cases fuel with
    | zero => exact absurd hfuel (Nat.not_lt_zero _)
    | succ fuel =>
      obtain @⟨front, text, back, _, hfront, hitem, hback⟩ := hfirst
      -- The item is read up to the spaces behind it; these are left to the items that follow.
      have hread := hreader a List.mem_cons_self text _ hitem
        (.append hback (hothers.numberEnds hclose rest))
      have hmore := ih (fun a ha => hreader a (List.mem_cons_of_mem _ ha)) hback
        (Nat.lt_of_succ_lt_succ hfuel)
      obtain ⟨c, cs, rfl, hspace, hlist, hobject⟩ := hstarts hitem
      have hc : (c == brackets.close) = false := ne_closing hclose hlist hobject
      have hcomma : (',' == brackets.close) = false := ne_closing hclose (by decide) (by decide)
      simp only [List.append_assoc, List.cons_append] at hread ⊢
      rw [readMore, skipSpace_append hspaces (by decide)]
      simp only [hcomma, beq_self_eq_true, if_true, Bool.false_eq_true, if_false]
      rw [skipSpace_append hfront hspace]
      simp only [hc, Bool.false_eq_true, if_false]
      exact hread.cons (readMore brackets reader fuel) hmore

/-- Items between brackets are read back, from just after the opening bracket. -/
lemma readItems_bracketed (brackets : Brackets)
    (hclose : brackets.close = ']' ∨ brackets.close = '\x7d') (hstarts : Starts item)
    {opening text as}
    (h : Bracketed item opening brackets.close text as)
    (hreader : ∀ a ∈ as, ∀ text rest, item text a → NumberEnds rest →
      Outcome (fits a) a rest (reader (text ++ rest))) :
    ∃ inside, text = opening :: inside ∧ ∀ rest,
      Outcome (∀ a ∈ as, fits a) as rest (readItems brackets reader (inside ++ rest)) := by
  cases h with
  | @empty spaces hspaces =>
    refine ⟨spaces ++ [brackets.close], rfl, fun rest => ?_⟩
    unfold readItems
    rw [List.append_assoc, List.cons_append, skipSpace_append hspaces (isSpace_closing hclose)]
    simp only [beq_self_eq_true, if_true]
    exact .taken (List.forall_mem_nil _)
  | @items first others a as hfirst hothers =>
    refine ⟨first ++ others ++ [brackets.close], rfl, fun rest => ?_⟩
    obtain @⟨front, text, back, _, hfront, hitem, hback⟩ := hfirst
    have hread := hreader a List.mem_cons_self text _ hitem
      (.append hback (hothers.numberEnds hclose rest))
    have hfuel : as.length < (back ++ (others ++ brackets.close :: rest)).length + 1 := by
      have := hothers.length_le
      simp only [List.length_append, List.length_cons]
      omega
    have hmore := readMore_more hclose hstarts hothers
      (fun a ha => hreader a (List.mem_cons_of_mem _ ha)) hback hfuel rest
    obtain ⟨c, cs, rfl, hspace, hlist, hobject⟩ := hstarts hitem
    have hc : (c == brackets.close) = false := ne_closing hclose hlist hobject
    unfold readItems
    simp only [List.append_assoc, List.cons_append, List.nil_append] at hread ⊢
    rw [skipSpace_append hfront hspace]
    simp only [hc, Bool.false_eq_true, if_false]
    exact hread.cons (fun rest => readMore brackets reader (rest.length + 1) rest) hmore

end

/-! ## How values start -/

/-- A number starts with a minus or a digit. -/
lemma IsNumeral.exists_cons {text n} (h : IsNumeral text n) :
    ∃ c cs, text = c :: cs ∧ (c == '-' || c.isDigit) = true := by
  obtain @⟨sign, whole, point, mark, negative, fraction, power, hsign, hwhole, -, -⟩ := h
  cases hsign with
  | minus => exact ⟨'-', _, rfl, rfl⟩
  | none =>
    obtain ⟨c, cs, rfl, hc⟩ := Numeral.exists_digit_of_whole hwhole
    exact ⟨c, _, rfl, by rw [hc, Bool.or_true]⟩

/-- What a number starts with is no character that another value starts with. -/
lemma ne_of_numeral_head {c d : Char} (hc : (c == '-' || c.isDigit) = true)
    (hd : (d == '-' || d.isDigit) = false) : c ≠ d := by
  rintro rfl
  rw [hc] at hd
  cases hd

/-- What stands in brackets begins with the opening one. -/
lemma Bracketed.exists_cons {α : Type} {item : List Char → α → Prop} {opening closing text as}
    (h : Bracketed item opening closing text as) : ∃ cs, text = opening :: cs := by
  cases h with
  | empty _ => exact ⟨_, rfl⟩
  | items _ _ => exact ⟨_, rfl⟩

/-- A value starts with neither a space nor a closing bracket. -/
lemma starts_isValue : Starts IsValue := by
  intro text v h
  cases h with
  | null => exact ⟨'n', _, rfl, by decide⟩
  | yes => exact ⟨'t', _, rfl, by decide⟩
  | no => exact ⟨'f', _, rfl, by decide⟩
  | number hnumeral =>
    obtain ⟨c, cs, rfl, hc⟩ := hnumeral.exists_cons
    refine ⟨c, cs, rfl, ?_, ne_of_numeral_head hc (by decide), ne_of_numeral_head hc (by decide)⟩
    rw [Bool.eq_false_iff, Ne, isSpace_iff]
    rintro (rfl | rfl | rfl | rfl)
    all_goals exact absurd hc (by decide)
  | string hliteral =>
    cases hliteral
    exact ⟨'\"', _, rfl, by decide⟩
  | list hitems =>
    obtain ⟨cs, rfl⟩ := hitems.exists_cons
    exact ⟨'[', cs, rfl, by decide⟩
  | object hmembers =>
    obtain ⟨cs, rfl⟩ := hmembers.exists_cons
    exact ⟨'\x7b', cs, rfl, by decide⟩

/-- Nor does a member, which starts with a quotation mark. -/
lemma starts_member (value : List Char → Value → Prop) : Starts (Member value) := by
  intro text m h
  obtain ⟨hliteral, -, -, -⟩ := h
  cases hliteral
  exact ⟨'\"', _, rfl, by decide⟩

/-! ## Members and words -/

/-- A member is read back if its value is. -/
lemma readMember_member {reader : Reader Value} {value : List Char → Value → Prop} {fits : Prop}
    {text m} (h : Member value text m)
    (hreader : ∀ spaces text rest, Spaces spaces → value text m.2 → NumberEnds rest →
      Outcome fits m.2 rest (reader (spaces ++ (text ++ rest))))
    {rest} (hend : NumberEnds rest) :
    Outcome fits m rest (readMember reader (text ++ rest)) := by
  obtain @⟨literal, before, behind, text, name, v, hliteral, hbefore, hbehind, hvalue⟩ := h
  obtain ⟨tail, rfl, hname⟩ := StringLiteral.read_literal hliteral
  have hread := hreader behind text rest hbehind hvalue hend
  simp only [List.append_assoc, List.cons_append]
  unfold readMember
  simp only [hname, bind, Except.bind]
  rw [skipSpace_append hbefore (by decide)]
  simp only [beq_self_eq_true, if_true]
  generalize reader (behind ++ (text ++ rest)) = result at hread ⊢
  cases hread with
  | taken hfits => exact .taken hfits
  | outOfRange hfits => exact .outOfRange hfits

/-- A word that stands in front is read. -/
lemma readWord_self (word : Value) (letters rest : List Char) :
    readWord word letters (letters ++ rest) = .ok (word, rest) := by
  induction letters with
  | nil => rfl
  | cons letter letters ih =>
    rw [List.cons_append, readWord, if_pos (beq_self_eq_true letter)]
    exact ih

/-! ## Values -/

/-- Each number in a value is within the range of numbers. -/
abbrev Value.InRange (v : Value) : Prop :=
  v.AllNumerals fun n => n.overflow = none

/-- A property of numbers that another one follows from. -/
lemma Value.AllNumerals.imp {p q : Numeral → Prop} {v : Value} (h : v.AllNumerals p)
    (himp : ∀ n, p n → q n) : v.AllNumerals q := by
  induction h with
  | null => exact .null
  | boolean => exact .boolean
  | number hn => exact .number (himp _ hn)
  | string => exact .string
  | list _ ih => exact .list ih
  | object _ ih => exact .object ih

/-- The numerals of a list are those of its items, -/
lemma Value.allNumerals_list {p : Numeral → Prop} {items : List Value} :
    (∀ v ∈ items, v.AllNumerals p) ↔ (Value.list items).AllNumerals p := by
  refine ⟨.list, ?_⟩
  rintro ⟨⟩
  assumption

/-- and those of an object are the ones of its members. -/
lemma Value.allNumerals_object {p : Numeral → Prop} {members : List (String × Value)} :
    (∀ m ∈ members, m.2.AllNumerals p) ↔ (Value.object members).AllNumerals p := by
  refine ⟨.object, ?_⟩
  rintro ⟨⟩
  assumption

/-- The items of a list are nested less deeply than the list, -/
lemma Value.NestedWithin.of_list {depth items} (h : NestedWithin (depth + 1) (.list items)) :
    ∀ v ∈ items, v.NestedWithin depth := by
  cases h with
  | list h => exact h

/-- and so are the members of an object. -/
lemma Value.NestedWithin.of_object {depth members}
    (h : NestedWithin (depth + 1) (.object members)) : ∀ m ∈ members, m.2.NestedWithin depth := by
  cases h with
  | object h => exact h

/-- A number is read back where it ends, unless it is out of range. -/
lemma Numeral.read_numeral {text n rest} (h : IsNumeral text n) (hend : NumberEnds rest) :
    Outcome (n.overflow = none) n rest (Numeral.read (text ++ rest)) := by
  unfold Numeral.read
  simp only [Numeral.scan_numeral h hend, bind, Except.bind]
  cases hrange : n.overflow with
  | none => exact .taken rfl
  | some early => exact .outOfRange (by simp)

/-- A value without brackets is read back, whatever may stand inside brackets. -/
lemma readWith_scalar {text v} (h : IsValue text v) (hv : v.NestedWithin 0)
    (inner : Option (Reader Value)) {spaces rest} (hspaces : Spaces spaces)
    (hend : NumberEnds rest) :
    Outcome v.InRange v rest (readWith inner (spaces ++ (text ++ rest))) := by
  unfold readWith
  cases h with
  | null =>
    rw [List.cons_append, skipSpace_append hspaces (by decide)]
    simp only
    rw [if_pos (by decide), readWord_self]
    exact .taken .null
  | yes =>
    rw [List.cons_append, skipSpace_append hspaces (by decide)]
    simp only
    rw [if_neg (by decide), if_pos (by decide), readWord_self]
    exact .taken .boolean
  | no =>
    rw [List.cons_append, skipSpace_append hspaces (by decide)]
    simp only
    rw [if_neg (by decide), if_neg (by decide), if_pos (by decide), readWord_self]
    exact .taken .boolean
  | string hliteral =>
    obtain ⟨tail, rfl, hread⟩ := StringLiteral.read_literal hliteral
    rw [List.cons_append, skipSpace_append hspaces (by decide)]
    simp only
    rw [if_neg (by decide), if_neg (by decide), if_neg (by decide), if_pos (by decide), hread]
    exact .taken .string
  | @number _ n hnumeral =>
    have hread := Numeral.read_numeral hnumeral hend
    obtain ⟨c, cs, rfl, hc⟩ := hnumeral.exists_cons
    obtain ⟨_, _, e, hspace, -⟩ := starts_isValue (.number hnumeral)
    obtain ⟨rfl, -⟩ := List.cons.inj e
    have hne : ∀ d : Char, (d == '-' || d.isDigit) = false → ¬ (c == d) = true :=
      fun d hd => by simpa using ne_of_numeral_head hc hd
    rw [List.cons_append] at hread ⊢
    rw [skipSpace_append hspaces hspace]
    simp only
    rw [if_neg (hne 'n' (by decide)), if_neg (hne 't' (by decide)), if_neg (hne 'f' (by decide)),
      if_neg (hne '\"' (by decide)), if_pos hc]
    refine (hread.map Value.number).congr ⟨fun h => .number h, ?_⟩
    rintro ⟨⟩
    assumption
  | list _ => cases hv
  | object _ => cases hv

/-- An object is read back if the values in it are, whatever follows it. -/
lemma readWith_object {depth text members}
    (h : Bracketed (Member IsValue) '\x7b' '\x7d' text members)
    (hnested : ∀ m ∈ members, m.2.NestedWithin depth)
    (hinner : ∀ {text v}, IsValue text v → v.NestedWithin depth → ∀ {spaces rest}, Spaces spaces →
      NumberEnds rest → Outcome v.InRange v rest (readValue depth (spaces ++ (text ++ rest))))
    {spaces} (hspaces : Spaces spaces) (rest : List Char) :
    Outcome (Value.object members).InRange (.object members) rest
      (readWith (some (readValue depth)) (spaces ++ (text ++ rest))) := by
  have hreader : ∀ m ∈ members, ∀ text rest, Member IsValue text m → NumberEnds rest →
      Outcome m.2.InRange m rest (readMember (readValue depth) (text ++ rest)) := by
    intro m hm text rest h hend
    apply readMember_member h _ hend
    intro spaces text rest hspaces h hend
    exact hinner h (hnested m hm) hspaces hend
  obtain ⟨inside, rfl, hread⟩ :=
    readItems_bracketed .object (.inr rfl) (starts_member _) h hreader
  unfold readWith
  rw [List.cons_append, skipSpace_append hspaces (by decide)]
  simp only
  rw [if_neg (by decide), if_neg (by decide), if_neg (by decide), if_neg (by decide),
    if_neg (by decide), if_neg (by decide), if_pos (by decide)]
  exact ((hread rest).map Value.object).congr Value.allNumerals_object

/-- A value is read back within the depth of its brackets. -/
lemma readValue_isValue {depth text v} (h : IsValue text v) (hv : v.NestedWithin depth)
    {spaces rest} (hspaces : Spaces spaces) (hend : NumberEnds rest) :
    Outcome v.InRange v rest (readValue depth (spaces ++ (text ++ rest))) := by
  -- The values inside brackets are in reach of one level less, which is all the induction is on.
  induction depth generalizing text v spaces rest with
  | zero => exact readWith_scalar h hv none hspaces hend
  | succ depth ih =>
    cases h with
    | null => exact readWith_scalar .null .null _ hspaces hend
    | yes => exact readWith_scalar .yes .boolean _ hspaces hend
    | no => exact readWith_scalar .no .boolean _ hspaces hend
    | number hnumeral => exact readWith_scalar (.number hnumeral) .number _ hspaces hend
    | string hliteral => exact readWith_scalar (.string hliteral) .string _ hspaces hend
    | @list _ items hitems =>
      have hnested := hv.of_list
      have hreader : ∀ v ∈ items, ∀ text rest, IsValue text v → NumberEnds rest →
          Outcome v.InRange v rest (readValue depth (text ++ rest)) :=
        fun v hv text rest h hend => ih h (hnested v hv) .nil hend
      obtain ⟨inside, rfl, hread⟩ :=
        readItems_bracketed .list (.inl rfl) starts_isValue hitems hreader
      rw [readValue]
      unfold readWith
      rw [List.cons_append, skipSpace_append hspaces (by decide)]
      simp only
      rw [if_neg (by decide), if_neg (by decide), if_neg (by decide), if_neg (by decide),
        if_neg (by decide), if_pos (by decide)]
      exact ((hread rest).map Value.list).congr Value.allNumerals_list
    | object hmembers => exact readWith_object hmembers hv.of_object ih hspaces rest

/-- A document is read as the value it denotes, unless a number in it is out of range; then that is
what the reader says. -/
theorem read_of_isDocument {text : String} {v : Value} (h : IsDocument text v) :
    (v.InRange ∧ read text = .ok v) ∨
    (¬ v.InRange ∧ ∃ position, read text = .error ⟨.numberOutOfRange, position⟩) := by
  obtain ⟨hpadded, hnested⟩ := h
  unfold read readDocument
  generalize text.toList = cs at hpadded ⊢
  obtain @⟨front, taken, back, _, hfront, hv, hback⟩ := hpadded
  -- Nothing but spaces stands behind the value, so a number at its end ends there.
  have hend : NumberEnds back := by
    have hends := @NumberEnds.append back [] hback (by rintro c ⟨⟩)
    rw [List.append_nil] at hends
    exact hends
  have hread := readValue_isValue hv hnested hfront hend
  rw [List.append_assoc, maxDepth]
  generalize readValue 127 (front ++ (taken ++ back)) = result at hread ⊢
  cases hread with
  | taken hrange =>
    left
    refine ⟨hrange, ?_⟩
    simp only [bind, Except.bind, skipSpace_spaces hback]
    rfl
  | outOfRange hrange =>
    right
    exact ⟨hrange, _, rfl⟩

/-- What is read are exactly the documents with all numbers in range, each as the value it
denotes. -/
theorem read_eq_ok_iff {text : String} {v : Value} :
    read text = .ok v ↔ IsDocument text v ∧ v.InRange := by
  constructor
  · intro h
    have hdocument := isDocument_of_read h
    obtain ⟨hrange, -⟩ | ⟨-, position, e⟩ := read_of_isDocument hdocument
    · exact ⟨hdocument, hrange⟩
    · rw [h] at e
      cases e
  · rintro ⟨hdocument, hrange⟩
    obtain ⟨-, e⟩ | ⟨hout, -⟩ := read_of_isDocument hdocument
    · exact e
    · exact absurd hrange hout

end Gatekeeper.Json
