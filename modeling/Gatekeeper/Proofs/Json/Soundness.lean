import Gatekeeper.Proofs.Json.Number

/-!
# What is read is a document

Whenever the reader gives a value, the text it took is a way to write that value, and brackets nest
no deeper in it than the reader allows. Items between commas are treated once, for whatever reader
of items they are read with; lists and objects are two uses of that.

`SoundFor` is what is shown of a reader of items; `readItems_sound` passes it from the items to all
that stands between two brackets, by induction on the fuel of the loop over them. `readValue_sound`
is an induction on the depth that the reader allows, and `isDocument_of_read` the result.
-/

namespace Gatekeeper.Json

/-! ## Spaces -/

/-- The reader skips the four characters that the grammar allows. -/
lemma isSpace_iff {c : Char} : isSpace c = true ↔ c = ' ' ∨ c = '\t' ∨ c = '\n' ∨ c = '\r' := by
  simp only [isSpace, Bool.or_eq_true, beq_iff_eq]
  constructor
  · rintro (((h | h) | h) | h)
    · exact .inl h
    · exact .inr (.inr (.inl h))
    · exact .inr (.inl h)
    · exact .inr (.inr (.inr h))
  · rintro (h | h | h | h)
    · exact .inl (.inl (.inl h))
    · exact .inl (.inr h)
    · exact .inl (.inl (.inr h))
    · exact .inr h

/-- What is skipped at the front of a text are spaces. -/
lemma exists_skipSpace (text : List Char) :
    ∃ spaces, Spaces spaces ∧ text = spaces ++ skipSpace text := by
  refine ⟨text.takeWhile isSpace, fun c hc => ?_, List.takeWhile_append_dropWhile.symm⟩
  exact isSpace_iff.1 (List.all_eq_true.1 List.all_takeWhile c hc)

/-- White space behind white space is white space. -/
lemma Spaces.append {front back} (hfront : Spaces front) (hback : Spaces back) :
    Spaces (front ++ back) := by
  intro c hc
  obtain hc | hc := List.mem_append.1 hc
  · exact hfront c hc
  · exact hback c hc

/-- There may be none at all. -/
lemma Spaces.nil : Spaces [] :=
  List.forall_mem_nil _

/-! ## Items between brackets -/

/-- Whatever the reader takes is, after some spaces, an item with that property. -/
def SoundFor {α : Type} (reader : Reader α) (item : List Char → α → Prop) (p : α → Prop) : Prop :=
  ∀ {text a rest}, reader text = .ok (a, rest) →
    ∃ spaces taken, text = spaces ++ (taken ++ rest) ∧ Spaces spaces ∧ item taken a ∧ p a

section
variable {α : Type} {brackets : Brackets} {reader : Reader α} {item : List Char → α → Prop}
variable {p : α → Prop}

/-- What is read as further items are such, up to the closing bracket. -/
lemma readMore_sound (hreader : SoundFor reader item p) {fuel text as rest}
    (h : readMore brackets reader fuel text = .ok (as, rest)) :
    ∃ spaces taken, text = spaces ++ (taken ++ brackets.close :: rest) ∧ Spaces spaces ∧
      More item taken as ∧ ∀ a ∈ as, p a := by
  induction fuel generalizing text as with
  | zero => cases h
  | succ fuel ih =>
    obtain ⟨spaces, hspaces, etext⟩ := exists_skipSpace text
    rw [readMore] at h
    split at h
    · cases h
    next c after eskip =>
    rw [eskip] at etext
    split at h
    · next hclose =>
      cases h
      rw [eq_of_beq hclose] at etext
      exact ⟨spaces, [], etext, hspaces, .none, List.forall_mem_nil _⟩
    split at h
    · next hcomma =>
      obtain ⟨front, hfront, eafter⟩ := exists_skipSpace after
      split at h
      · cases h
      next d afterComma eskip =>
      rw [eskip] at eafter
      split at h
      · cases h
      obtain ⟨⟨a, afterFirst⟩, hfirst, h⟩ := ok_of_bind_eq_ok h
      obtain ⟨⟨others, afterOthers⟩, hothers, h⟩ := ok_of_bind_eq_ok h
      cases h
      obtain ⟨front', taken, efirst, hfront', hitem, ha⟩ := hreader hfirst
      obtain ⟨back, more, eothers, hback, hmore, hp⟩ := ih hothers
      -- The spaces before the next comma or bracket belong to the item before them.
      have hnext : More item (',' :: (front ++ front' ++ taken ++ back) ++ more) (a :: others) :=
        .next (.mk (hfront.append hfront') hitem hback) hmore
      refine ⟨spaces, _, ?_, hspaces, hnext, List.forall_mem_cons.2 ⟨ha, hp⟩⟩
      rw [etext, eafter, efirst, eothers, eq_of_beq hcomma]
      simp only [List.append_assoc, List.cons_append]
    · cases h

/-- What is read from just after an opening bracket are items between brackets. -/
lemma readItems_sound (hreader : SoundFor reader item p) (opening : Char) {text as rest}
    (h : readItems brackets reader text = .ok (as, rest)) :
    ∃ taken, opening :: text = taken ++ rest ∧
      Bracketed item opening brackets.close taken as ∧ ∀ a ∈ as, p a := by
  obtain ⟨spaces, hspaces, etext⟩ := exists_skipSpace text
  unfold readItems at h
  split at h
  · cases h
  next c after eskip =>
  rw [eskip] at etext
  split at h
  · next hclose =>
    cases h
    refine ⟨opening :: spaces ++ [brackets.close], ?_, .empty hspaces, List.forall_mem_nil _⟩
    rw [etext, eq_of_beq hclose]
    simp only [List.append_assoc, List.cons_append, List.nil_append]
  · obtain ⟨⟨a, afterFirst⟩, hfirst, h⟩ := ok_of_bind_eq_ok h
    obtain ⟨⟨others, afterOthers⟩, hothers, h⟩ := ok_of_bind_eq_ok h
    cases h
    obtain ⟨front, taken, efirst, hfront, hitem, ha⟩ := hreader hfirst
    obtain ⟨back, more, eothers, hback, hmore, hp⟩ := readMore_sound hreader hothers
    have hitems : Bracketed item opening brackets.close
        (opening :: (spaces ++ front ++ taken ++ back) ++ more ++ [brackets.close]) (a :: others) :=
      .items (.mk (hspaces.append hfront) hitem hback) hmore
    refine ⟨_, ?_, hitems, List.forall_mem_cons.2 ⟨ha, hp⟩⟩
    rw [etext, efirst, eothers]
    simp only [List.append_assoc, List.cons_append, List.nil_append]

end

/-! ## Members and words -/

/-- What is read as a member is one. -/
lemma readMember_sound {reader : Reader Value} {value : List Char → Value → Prop}
    {p : Value → Prop} (hreader : SoundFor reader value p) :
    SoundFor (readMember reader) (Member value) fun m => p m.2 := by
  intro text m rest h
  unfold readMember at h
  split at h
  · next after =>
    obtain ⟨⟨name, afterName⟩, hname, h⟩ := ok_of_bind_eq_ok h
    obtain ⟨before, hbefore, ename⟩ := exists_skipSpace afterName
    simp only at h
    split at h
    · cases h
    next c afterColon eskip =>
    rw [eskip] at ename
    split at h
    · next hcolon =>
      obtain ⟨⟨v, afterValue⟩, hvalue, h⟩ := ok_of_bind_eq_ok h
      cases h
      obtain ⟨literal, hliteral, etext⟩ := StringLiteral.read_sound hname
      obtain ⟨behind, taken, evalue, hbehind, hv, hp⟩ := hreader hvalue
      refine ⟨[], _, ?_, .nil, .mk hliteral hbefore hbehind hv, hp⟩
      rw [etext, ename, evalue, eq_of_beq hcolon]
      simp only [List.append_assoc, List.cons_append, List.nil_append]
    · cases h
  · cases h

/-- What is read as a word is that word. -/
lemma readWord_sound {word : Value} {letters text v rest}
    (h : readWord word letters text = .ok (v, rest)) : text = letters ++ rest ∧ v = word := by
  induction letters generalizing text with
  | nil =>
    cases h
    exact ⟨rfl, rfl⟩
  | cons letter letters ih =>
    cases text with
    | nil => cases h
    | cons c text =>
      rw [readWord] at h
      split at h
      · next hletter =>
        obtain ⟨rfl, rfl⟩ := ih h
        rw [eq_of_beq hletter]
        exact ⟨rfl, rfl⟩
      · cases h

/-! ## Values -/

/-- What is read as a value is one, and its brackets nest one level deeper than those of the values
that may stand inside them. -/
lemma readWith_sound {inner : Option (Reader Value)} {depth : Nat}
    (hinner : ∀ reader ∈ inner, ∃ d, depth = d + 1 ∧
      SoundFor reader IsValue (Value.NestedWithin d)) :
    SoundFor (readWith inner) IsValue (Value.NestedWithin depth) := by
  intro text v rest h
  obtain ⟨spaces, hspaces, etext⟩ := exists_skipSpace text
  unfold readWith at h
  split at h
  · cases h
  next c after eskip =>
  rw [eskip] at etext
  subst etext
  split at h
  · next hc =>
    obtain ⟨rfl, rfl⟩ := readWord_sound h
    rw [eq_of_beq hc]
    exact ⟨spaces, _, rfl, hspaces, .null, .null⟩
  split at h
  · next hc =>
    obtain ⟨rfl, rfl⟩ := readWord_sound h
    rw [eq_of_beq hc]
    exact ⟨spaces, _, rfl, hspaces, .yes, .boolean⟩
  split at h
  · next hc =>
    obtain ⟨rfl, rfl⟩ := readWord_sound h
    rw [eq_of_beq hc]
    exact ⟨spaces, _, rfl, hspaces, .no, .boolean⟩
  split at h
  · next hc =>
    obtain ⟨⟨s, afterString⟩, hstring, e⟩ := ok_of_map_eq_ok h
    cases e
    obtain ⟨literal, hliteral, etext⟩ := StringLiteral.read_sound hstring
    rw [eq_of_beq hc, etext]
    exact ⟨spaces, literal, rfl, hspaces, .string hliteral, .string⟩
  split at h
  · obtain ⟨⟨numeral, afterNumber⟩, hnumber, e⟩ := ok_of_map_eq_ok h
    cases e
    obtain ⟨taken, etext, hnumeral, -⟩ := Numeral.read_sound hnumber
    rw [etext]
    exact ⟨spaces, taken, rfl, hspaces, .number hnumeral, .number⟩
  split at h
  · next hc =>
    split at h
    · next reader =>
      obtain ⟨d, rfl, hreader⟩ := hinner reader rfl
      obtain ⟨⟨items, afterItems⟩, hitems, e⟩ := ok_of_map_eq_ok h
      cases e
      obtain ⟨taken, etext, hbrackets, hnested⟩ := readItems_sound hreader '[' hitems
      rw [eq_of_beq hc, etext]
      exact ⟨spaces, taken, rfl, hspaces, .list hbrackets, .list hnested⟩
    · cases h
  split at h
  · next hc =>
    split at h
    · next reader =>
      obtain ⟨d, rfl, hreader⟩ := hinner reader rfl
      obtain ⟨⟨members, afterMembers⟩, hmembers, e⟩ := ok_of_map_eq_ok h
      cases e
      obtain ⟨taken, etext, hbrackets, hnested⟩ :=
        readItems_sound (readMember_sound hreader) '\x7b' hmembers
      rw [eq_of_beq hc, etext]
      exact ⟨spaces, taken, rfl, hspaces, .object hbrackets, .object hnested⟩
    · cases h
  · cases h

/-- What is read as a value is one, within the depth that the reader allows. -/
lemma readValue_sound (depth : Nat) :
    SoundFor (readValue depth) IsValue (Value.NestedWithin depth) := by
  induction depth with
  | zero => exact readWith_sound fun reader h => by cases h
  | succ depth ih =>
    refine readWith_sound fun reader h => ?_
    cases h
    exact ⟨depth, rfl, ih⟩

/-- What is read as a document is one. -/
theorem isDocument_of_read {text : String} {v : Value} (h : read text = .ok v) :
    IsDocument text v := by
  unfold read at h
  cases hdocument : readDocument text.toList with
  | error fault =>
    rw [hdocument] at h
    cases h
  | ok v' =>
    rw [hdocument] at h
    cases h
    obtain ⟨⟨v', rest⟩, hvalue, hend⟩ := ok_of_bind_eq_ok hdocument
    obtain ⟨back, hback, erest⟩ := exists_skipSpace rest
    simp only at hend
    split at hend
    · next eskip =>
      cases hend
      rw [eskip, List.append_nil] at erest
      obtain ⟨front, taken, etext, hfront, hv, hnested⟩ := readValue_sound maxDepth hvalue
      refine ⟨?_, hnested⟩
      rw [etext, erest, ← List.append_assoc]
      exact .mk hfront hv hback
    · cases hend

end Gatekeeper.Json
