import Gatekeeper.Log.Filter
import Gatekeeper.Proofs.Text.Basic
import Gatekeeper.Proofs.Text.Places

/-!
# Filters that can be read

The marks of a part are looked for without the blanks around it, but its names are cut out of the
part as it stands. That goes wrong only where a place in the one is no place in the other: never in
a part that does not begin with a blank, and never in one of ASCII.

One argument about the reader carries all of this. `Rule.Slices P part text` says of the places in
`text`, which is the part without the blanks around it, that what goes wrong as pieces are cut out
of the part between them has the property `P`. By `Rule.ofPart_cuts` it then has this property
wherever reading the part goes wrong, since the reader cuts at places that it has reached in `text`
and nowhere else. There are two cases of it:

* if the places in the text are places in the part, nothing goes wrong (`Rule.ofPart_uncut`);
* in any case a character of the part is in the way (`Rule.Cut.lies_of_ofPart`), as none of these
  places is beyond the end of the part.

The same is then told of a whole filter. `Filter.Plain` is what can be seen of a text without
reading it and is enough for it to be read (`Filter.Plain.read_uncut`,
`Filter.Plain.isOk_readLenient`).
-/

namespace Gatekeeper.Log

namespace Rule
open Text (IsPlace size)

/-! ## What goes wrong in reading -/

/-- Where a piece cannot be cut out in reading, that has the property. -/
def Cuts {α : Type} (P : Cut → Prop) (reading : Reading α) : Prop :=
  ∀ cut, reading.run = .error cut → P cut

/-- Every piece can be cut out. -/
def Uncut {α : Type} (reading : Reading α) : Prop :=
  ∀ cut, reading.run ≠ .error cut

section
variable {α β : Type} {P : Cut → Prop}

/-- Nothing is cut out for a value that is there. -/
lemma cuts_pure (a : α) : Cuts P (pure a : Reading α) := fun _ => nofun

/-- Nothing is cut out for a fault. -/
lemma cuts_throw (fault : Fault) : Cuts P (throw fault : Reading α) := fun _ => nofun

/-- What goes wrong in one step or in the next has the property if it does in both. -/
lemma Cuts.bind {reading : Reading α} {f : α → Reading β} (h : Cuts P reading)
    (hf : ∀ a, Cuts P (f a)) : Cuts P (reading >>= f) := by
  intro cut hcut
  cases hrun : reading.run with
  | error cut' =>
    rw [ExceptT.run_bind, hrun] at hcut
    cases hcut
    exact h _ hrun
  | ok result =>
    rw [ExceptT.run_bind, hrun] at hcut
    cases result with
    | error fault => cases hcut
    | ok a => exact hf a cut hcut

/-- Over a list nothing more goes wrong than at its members. -/
lemma cuts_mapM {f : α → Reading β} {as : List α} (h : ∀ a ∈ as, Cuts P (f a)) :
    Cuts P (as.mapM f) := by
  induction as with
  | nil => exact cuts_pure []
  | cons a as ih =>
    obtain ⟨ha, has⟩ := List.forall_mem_cons.1 h
    rw [List.mapM_cons]
    exact ha.bind fun _ => (ih has).bind fun _ => cuts_pure _

end

/-- A piece goes wrong to be cut out as its text does. -/
lemma cuts_slice {P : Cut → Prop} {piece : Piece} {part : List Char} {start stop : Nat}
    (h : ∀ miscut, Text.slice part start stop = .error miscut → P ⟨piece, miscut⟩) :
    Cuts P (slice piece part start stop) := by
  intro cut hcut
  unfold slice at hcut
  cases hslice : Text.slice part start stop with
  | error miscut =>
    rw [hslice] at hcut
    cases hcut
    exact h miscut hslice
  | ok text =>
    rw [hslice] at hcut
    cases hcut

/-! ## The places that the reader comes to -/

/-- What goes wrong as a piece is cut out between places of the text, or from one of them to the end
of the part, has the property. -/
structure Slices (P : Cut → Prop) (part text : List Char) : Prop where
  between {piece start stop} :
    IsPlace start text → IsPlace stop text → start ≤ stop → Cuts P (slice piece part start stop)
  toEnd {piece start} :
    IsPlace start text → Cuts P (slice piece part start (size part))

/-- Reading has come to a place in a text, and this is the rest. -/
def Reached (text : List Char) (place : Nat) (rest : List Char) : Prop :=
  ∃ front, text = front ++ rest ∧ size front = place

section
variable {P : Cut → Prop} {part text rest : List Char} {place : Nat}

/-- What has been reached is a place in the text. -/
lemma Reached.isPlace (h : Reached text place rest) : IsPlace place text := by
  obtain ⟨front, e, hfront⟩ := h
  exact ⟨front, rest, e, hfront⟩

/-- Reading goes on behind what has been read. -/
lemma Reached.append {span : List Char} (h : Reached text place (span ++ rest)) :
    Reached text (place + size span) rest := by
  obtain ⟨front, rfl, rfl⟩ := h
  exact ⟨front ++ span, by rw [List.append_assoc], Text.size_append front span⟩

/-- Reading goes on behind a mark, which takes up one byte. -/
lemma Reached.mark {mark : Char} (h : Reached text place (mark :: rest))
    (hmark : mark.utf8Size = 1) : Reached text (place + 1) rest := by
  have hrest := @Reached.append text rest place [mark] h
  rw [size, size, hmark] at hrest
  exact hrest

/-- Reading goes on at the first character that is other. -/
lemma Reached.takeWhile (h : Reached text place rest) (p : Char → Bool) :
    Reached text (place + size (rest.takeWhile p)) (rest.drop (rest.takeWhile p).length) := by
  have e := List.prefix_iff_eq_append.1 (List.takeWhile_prefix p (l := rest))
  rw [← e] at h
  exact h.append

/-- The first character that is other is other. -/
lemma not_of_drop_takeWhile {p : Char → Bool} {c : Char} {others : List Char}
    (h : rest.drop (rest.takeWhile p).length = c :: others) : p c = false := by
  have e : rest.dropWhile p = c :: others := by
    rw [← h]
    apply List.append_cancel_left
    rw [List.takeWhile_append_dropWhile]
    exact (List.prefix_iff_eq_append.1 (List.takeWhile_prefix p)).symm
  have hfirst := List.head?_dropWhile_not p rest
  rw [e] at hfirst
  exact hfirst

/-! ## The reader, step by step -/

/-- A threshold is cut out from a place to the end. -/
lemma readThreshold_cuts (h : Slices P part text) (hplace : IsPlace place text) :
    Cuts P (readThreshold part place) := by
  refine (h.toEnd hplace).bind fun text => ?_
  split
  · exact cuts_pure _
  · split
    · exact cuts_pure _
    · exact cuts_throw _

/-- The scope of a field is read without anything being cut out. -/
lemma fieldScope_cuts (named : Bool) (field : List Char) : Cuts P (fieldScope named field) := by
  unfold fieldScope
  split
  · exact cuts_pure _
  · split
    · exact cuts_pure _
    · exact cuts_throw _

/-- Behind the closing bracket there is at most a threshold. -/
lemma readAfterBracket_cuts (h : Slices P part text) (hrest : Reached text place rest)
    (target : Option String) (scope : Scope) :
    Cuts P (readAfterBracket part target scope place rest) := by
  cases rest with
  | nil => exact cuts_pure _
  | cons c rest =>
    simp only [readAfterBracket]
    split
    · next hc =>
      obtain rfl := eq_of_beq hc
      exact (readThreshold_cuts h (hrest.mark (by decide)).isPlace).bind fun _ => cuts_pure _
    · exact cuts_throw _

/-- In brackets a span is cut out, or what stands before the brace, and then the field. -/
lemma readBrackets_cuts (h : Slices P part text) (hrest : Reached text place rest)
    (target : Option String) : Cuts P (readBrackets part target place rest) := by
  have hspan := hrest.takeWhile fun c => c != ']' && c != '\x7b'
  have hle := Nat.le_add_right place (size (rest.takeWhile fun c => c != ']' && c != '\x7b'))
  unfold readBrackets
  simp only
  split
  · next rest hafter =>
    rw [hafter] at hspan
    refine (h.between hrest.isPlace hspan.isPlace hle).bind fun _ => ?_
    exact readAfterBracket_cuts h (hspan.mark (by decide)) _ _
  · next rest hafter =>
    rw [hafter] at hspan
    have hopen := hspan.mark (by decide)
    have hfield := hopen.takeWhile (· != '\x7d')
    refine (h.between hrest.isPlace hspan.isPlace hle).bind fun _ => ?_
    split
    · next rest hafter =>
      rw [hafter] at hfield
      refine (h.between hopen.isPlace hfield.isPlace (Nat.le_add_right _ _)).bind fun field => ?_
      split
      · exact cuts_throw _
      · refine (fieldScope_cuts _ field).bind fun scope => ?_
        split
        · next rest =>
          exact readAfterBracket_cuts h ((hfield.mark (by decide)).mark (by decide)) _ _
        · exact cuts_throw _
    · exact cuts_throw _
  · exact cuts_throw _

/-- Reading a part goes wrong only as pieces of it are cut out at places of the text without the
blanks around it. -/
theorem ofPart_cuts (h : Slices P part (Text.trim part)) : Cuts P (ofPart part) := by
  unfold ofPart
  simp only
  split
  · exact cuts_throw _
  · next c rest htext =>
    have hstart : Reached (Text.trim part) 0 (c :: rest) := ⟨[], htext, rfl⟩
    split
    · next hc =>
      obtain rfl := eq_of_beq hc
      exact readBrackets_cuts h (hstart.mark (by decide)) none
    · split
      · have hname := hstart.takeWhile fun c => c != '=' && c != '['
        rw [htext]
        split
        · exact cuts_pure _
        · next mark rest hrest =>
          rw [hrest] at hname
          -- Only a mark ends the name, and every mark takes one byte.
          have hmark : mark.utf8Size = 1 := by
            have hone := not_of_drop_takeWhile hrest
            simp only [Bool.and_eq_false_iff, bne_eq_false_iff_eq] at hone
            obtain rfl | rfl := hone
            · rfl
            · rfl
          rw [Nat.zero_add] at hname
          split
          · refine (h.between hstart.isPlace hname.isPlace (Nat.zero_le _)).bind fun _ => ?_
            exact readBrackets_cuts h (hname.mark hmark) _
          · refine (h.between hstart.isPlace hname.isPlace (Nat.zero_le _)).bind fun _ => ?_
            refine (readThreshold_cuts h (hname.mark hmark).isPlace).bind fun _ => ?_
            exact cuts_pure _
      · exact cuts_throw _

end

/-! ## Parts that can be read -/

/-- The places in a text are places in a part that it was found in. -/
def Aligned (part text : List Char) : Prop :=
  ∀ place, IsPlace place text → IsPlace place part

/-- Between places of the part all can be cut out. -/
lemma Aligned.slices {part text : List Char} (h : Aligned part text) :
    Slices (fun _ => False) part text where
  between hstart hstop hle := cuts_slice fun miscut hmiscut => by
    obtain ⟨middle, hmiddle⟩ := Text.slice_of_isPlace (h _ hstart) (h _ hstop) hle
    rw [hmiddle] at hmiscut
    cases hmiscut
  toEnd hstart := cuts_slice fun miscut hmiscut => by
    have hplace := h _ hstart
    obtain ⟨middle, hmiddle⟩ := Text.slice_of_isPlace hplace (Text.isPlace_size _) hplace.le
    rw [hmiddle] at hmiscut
    cases hmiscut

/-- A part is read if the places in it are those of the text without blanks around it. -/
theorem ofPart_uncut {part : List Char} (h : Aligned part (Text.trim part)) : Uncut (ofPart part) :=
  ofPart_cuts h.slices

/-- A part that does not begin with a blank begins with the text without the blanks around it. -/
lemma aligned_of_head {part : List Char} (h : ∀ c ∈ part.head?, Text.isBlank c = false) :
    Aligned part (Text.trim part) := by
  have e : part.dropWhile Text.isBlank = part := by
    cases part with
    | nil => rfl
    | cons c part =>
      rw [List.dropWhile_cons_of_neg]
      rw [h c rfl]
      exact Bool.false_ne_true
  rintro _ ⟨front, back, htext, rfl⟩
  have hfront : front <+: Text.trim part := ⟨back, htext.symm⟩
  rw [Text.trim, e] at hfront
  exact Text.isPlace_of_prefix (hfront.trans (Text.prefix_trimEnd part))

/-- The text without the blanks around it is taken out of the part in order. -/
lemma trim_sublist (part : List Char) : (Text.trim part).Sublist part :=
  (Text.prefix_trimEnd _).sublist.trans (List.dropWhile_suffix _).sublist

/-- In a part of ASCII every place will do. -/
lemma aligned_of_ascii {part : List Char} (ascii : ∀ c ∈ part, c.toNat < 0x80) :
    Aligned part (Text.trim part) := by
  rintro _ ⟨front, back, htext, rfl⟩
  have hfront : front <+: Text.trim part := ⟨back, htext.symm⟩
  have hsub : front.Sublist part := hfront.sublist.trans (trim_sublist part)
  rw [Text.size_ascii fun c hc => ascii c (hsub.subset hc)]
  exact Text.isPlace_ascii ascii hsub.length_le

/-! ## Parts that cannot be read -/

/-- What is taken out of a text in order takes up no more bytes than the text. -/
lemma size_le_of_sublist {cs ds : List Char} (h : cs.Sublist ds) : size cs ≤ size ds := by
  induction h with
  | slnil => exact Nat.le_refl _
  | cons c _ ih =>
    rw [size]
    omega
  | cons_cons c _ ih =>
    rw [size, size]
    omega

/-- No place of the text is beyond the end of the part, so that only a character can be in the
way. -/
lemma slices_lies (part : List Char) :
    Slices (fun cut => cut.miscut.Lies part) part (Text.trim part) := by
  have hsize := size_le_of_sublist (trim_sublist part)
  refine ⟨fun _ hstop hle => ?_, fun hstart => ?_⟩
  · have hstop := Nat.le_trans hstop.le hsize
    exact cuts_slice fun miscut hmiscut => Text.Miscut.lies_of_slice hle hstop hmiscut
  · have hstart := Nat.le_trans hstart.le hsize
    exact cuts_slice fun miscut hmiscut => Text.Miscut.lies_of_slice hstart (Nat.le_refl _) hmiscut

/-- Where a part cannot be read, a character of it is in the way, and is named with the bytes that
it takes up in the part. -/
theorem Cut.lies_of_ofPart {part : List Char} {cut : Cut} (h : (ofPart part).run = .error cut) :
    cut.miscut.Lies part :=
  ofPart_cuts (slices_lies part) cut h

end Rule

namespace Filter

/-! ## Filters -/

/-- What goes wrong as a filter is read goes wrong as one of its parts is. -/
lemma read_cuts {P : Rule.Cut → Prop} {text : String}
    (h : ∀ part ∈ parts text, Rule.Cuts P (Rule.ofPart part)) : Rule.Cuts P (read text) :=
  (Rule.cuts_mapM h).bind fun _ => Rule.cuts_pure _

/-- The same goes for reading with complaints. -/
lemma readParts_cuts {P : Rule.Cut → Prop} {parts : List (List Char)} {cut : Rule.Cut}
    (h : ∀ part ∈ parts, Rule.Cuts P (Rule.ofPart part))
    (hcut : (readParts parts).2 = .error cut) : P cut := by
  induction parts with
  | nil => cases hcut
  | cons part parts ih =>
    obtain ⟨hpart, hparts⟩ := List.forall_mem_cons.1 h
    rw [readParts] at hcut
    cases hrun : (Rule.ofPart part).run with
    | error cut' =>
      rw [hrun] at hcut
      cases hcut
      exact hpart _ hrun
    | ok result =>
      rw [hrun] at hcut
      cases result with
      | error fault => exact ih hparts hcut
      | ok rule => cases hrest : (readParts parts).2 with
        | error cut' =>
          simp only [hrest, Except.map] at hcut
          cases hcut
          exact ih hparts hrest
        | ok rules =>
          simp only [hrest, Except.map] at hcut
          cases hcut

/-- And it is the whole of what can go wrong there. -/
lemma readLenient_cuts {P : Rule.Cut → Prop} {text : String} {cut : Rule.Cut}
    (h : ∀ part ∈ parts text, Rule.Cuts P (Rule.ofPart part))
    (hcut : (readLenient text).2 = .error cut) : P cut := by
  unfold readLenient at hcut
  cases hrules : (readParts (parts text)).2 with
  | error cut' =>
    simp only [hrules, Except.map] at hcut
    cases hcut
    exact readParts_cuts h hrules
  | ok rules =>
    simp only [hrules, Except.map] at hcut
    cases hcut

/-- No part begins with a blank, but for those of ASCII throughout. -/
def Plain (text : String) : Prop :=
  ∀ part ∈ parts text,
    (∀ c ∈ part.head?, Text.isBlank c = false) ∨ ∀ c ∈ part, c.toNat < 0x80

/-- The parts of a plain text can be read. -/
lemma Plain.ofPart_uncut {text : String} (h : Plain text) {part} (hpart : part ∈ parts text) :
    Rule.Uncut (Rule.ofPart part) := by
  obtain hhead | hascii := h part hpart
  · exact Rule.ofPart_uncut (Rule.aligned_of_head hhead)
  · exact Rule.ofPart_uncut (Rule.aligned_of_ascii hascii)

/-- A plain text can be read as a filter, or be refused. -/
theorem Plain.read_uncut {text : String} (h : Plain text) : Rule.Uncut (read text) :=
  read_cuts fun _ => h.ofPart_uncut

/-- There is always a filter in a plain text, where complaints about parts are in order. -/
theorem Plain.isOk_readLenient {text : String} (h : Plain text) : (readLenient text).2.isOk := by
  cases hread : (readLenient text).2 with
  | ok filter => rfl
  | error cut => exact absurd (readLenient_cuts (fun _ => h.ofPart_uncut) hread) id

end Filter

end Gatekeeper.Log
