import Gatekeeper.Proofs.Json.Cut
import Gatekeeper.Proofs.Json.Padding
import Gatekeeper.Proofs.Text.Front

/-!
# Where readers stop

A reader goes through a text from its front. If it refuses the text at some place, the bytes before
that place alone are to blame, so that it refuses every other text with these bytes for the same
cause and at the same place. What it takes it also takes of any text that goes on alike behind it.
Two causes make an exception: that the text ends too early, which is a fault at its end, and that a
number is out of range, which depends on all of its digits.

This is said of one text at a time and carried from the parts of a reader to the whole.

`Refuses` is the first half of this and `Takes` the second; `Judged` leaves open what becomes of a
text that is accepted, and `Settled` is both. `Settled.bind`, `Settled.map` and
`Settled.of_skipSpace` are the ways to put readers together, and the modules on tokens and on
documents use these.
-/

namespace Gatekeeper.Json

/-- The cause is one of these four. -/
lemma Cause.isEnd_iff {cause : Cause} :
    cause.IsEnd ↔ cause ∈ [endInList, endInObject, endInString, endInValue] := by
  constructor
  · rintro ⟨what, h⟩
    have hfront : cause.phrase.toList.take 3 = ['E', 'O', 'F'] := by
      rw [h, String.toList_append]
      rfl
    clear h
    revert hfront
    cases cause <;> decide
  · intro h
    simp only [List.mem_cons, List.not_mem_nil, or_false] at h
    obtain rfl | rfl | rfl | rfl := h
    · exact isEnd_endInList
    · exact isEnd_endInObject
    · exact isEnd_endInString
    · exact isEnd_endInValue

/-- Whether a cause is an end is decided by that list. -/
instance : DecidablePred Cause.IsEnd :=
  fun _ => decidable_of_iff _ Cause.isEnd_iff.symm

section
variable {α β : Type}

/-- The reader refuses the text at a place, and so it does each text with the same bytes before
it. -/
structure Refuses (reader : List Char → Except Fault α) (text : List Char) (cause : Cause)
    (place : Nat) : Prop where
  notEnd : ¬ cause.IsEnd
  pos : 0 < place
  le : place ≤ Text.size text
  fault : ∀ other, Text.SameFront place text other →
    reader other = .error ⟨cause, Text.size other - place⟩

/-- What a reader may make of a text. -/
inductive Judged (good : α → Prop) (reader : List Char → Except Fault α) (text : List Char) :
    Prop where
  | accepted {a} :
    reader text = .ok a →
    good a →
    Judged good reader text
  | ended {cause} :
    cause.IsEnd →
    reader text = .error (.atEnd cause) →
    Judged good reader text
  | outOfRange {left} :
    reader text = .error ⟨.numberOutOfRange, left⟩ →
    Judged good reader text
  | refused {cause place} :
    Refuses reader text cause place →
    Judged good reader text

/-- The reader takes something of the text, and also of each text that goes on alike behind it. How
it goes on may matter for one byte: without that nobody knows that a number is at its end. -/
def Takes (reader : Reader α) (text : List Char) (result : α × List Char) : Prop :=
  ∃ taken, text = taken ++ result.2 ∧
    ∀ other, Text.SameStart result.2 other → reader (taken ++ other) = .ok (result.1, other)

/-- What a reader makes of a text is settled where it stops. -/
def Settled (reader : Reader α) (text : List Char) : Prop :=
  Judged (Takes reader text) reader text

variable {good : α → Prop} {good' : β → Prop} {reader : List Char → Except Fault α}
  {part : List Char → Except Fault β} {front rest text : List Char} {c : Char} {cause : Cause}

/-! ## Faults -/

/-- What starts alike is refused behind a front, on its first byte. -/
lemma Judged.on (front : List Char) (cause : Cause) (hend : ¬ cause.IsEnd)
    (h : ∀ other, Text.SameStart (c :: rest) other →
      reader (front ++ other) = .error (.on cause other)) :
    Judged good reader (front ++ c :: rest) := by
  have hle : Text.size front + 1 ≤ Text.size (front ++ c :: rest) := by
    rw [Text.size_append]
    exact Nat.add_le_add_left (Text.one_le_size c rest) _
  have hpos : 0 < Text.size front + 1 := Nat.succ_pos _
  refine .refused ⟨hend, hpos, hle, fun other hother => ?_⟩
  obtain ⟨behind, rfl, hbehind⟩ := Text.sameFront_append.1 hother
  rw [h behind (hbehind.sameStart Nat.zero_lt_one), Fault.on, Text.size_append,
    Nat.add_sub_add_left]

/-- A character is refused behind a front if each one like it is. -/
lemma Judged.onChar (front : List Char) (cause : Cause) (hend : ¬ cause.IsEnd)
    (h : ∀ d rest, Text.Alike c d →
      reader (front ++ d :: rest) = .error (.on cause (d :: rest))) :
    Judged good reader (front ++ c :: rest) := by
  apply Judged.on front cause hend
  intro other hother
  obtain ⟨d, rest, rfl, halike⟩ := hother.exists_cons
  exact h d rest halike

/-- Something is refused just behind a front. -/
lemma Judged.before (cause : Cause) (hend : ¬ cause.IsEnd) (hfront : front ≠ [])
    (h : ∀ other, reader (front ++ other) = .error (.before cause other)) :
    Judged good reader (front ++ rest) := by
  have hpos : 0 < Text.size front :=
    Nat.pos_of_ne_zero fun e => hfront (Text.eq_nil_of_size_eq_zero e)
  have hle : Text.size front ≤ Text.size (front ++ rest) := by
    rw [Text.size_append]
    exact Nat.le_add_right _ _
  refine .refused ⟨hend, hpos, hle, fun other hother => ?_⟩
  obtain ⟨behind, rfl⟩ := hother.exists_append
  rw [h, Fault.before, Text.size_append, Nat.add_sub_cancel_left]

/-- What refuses the rest of a text refuses all of it, if its faults are passed on. -/
lemma Refuses.after {place : Nat} (h : Refuses part rest cause place)
    (hfault : ∀ other fault, Text.SameStart rest other → part other = .error fault →
      reader (front ++ other) = .error fault) :
    Refuses reader (front ++ rest) cause (Text.size front + place) := by
  refine ⟨h.notEnd, Nat.lt_of_lt_of_le h.pos (Nat.le_add_left _ _), ?_, fun other hother => ?_⟩
  · rw [Text.size_append]
    exact Nat.add_le_add_left h.le _
  · obtain ⟨behind, rfl, hbehind⟩ := Text.sameFront_append.1 hother
    rw [hfault behind _ (hbehind.sameStart h.pos) (h.fault behind hbehind), Text.size_append,
      Nat.add_sub_add_left]

/-- A reader whose faults are passed on leaves only what it accepts to be judged. -/
lemma Judged.after (front : List Char) (h : Judged good' part rest)
    (hfault : ∀ other fault, Text.SameStart rest other → part other = .error fault →
      reader (front ++ other) = .error fault)
    (hok : ∀ b, part rest = .ok b → good' b → Judged good reader (front ++ rest)) :
    Judged good reader (front ++ rest) := by
  have hself := Text.sameStart_self rest
  cases h with
  | accepted hread hgood => exact hok _ hread hgood
  | ended hend hread => exact .ended hend (hfault rest _ hself hread)
  | outOfRange hread => exact .outOfRange (hfault rest _ hself hread)
  | refused hrefuses => exact .refused (hrefuses.after hfault)

end

/-! ## Readers one after the other -/

/-- White space consists of ASCII characters. -/
lemma isSpace_ascii (c : Char) (h : isSpace c = true) : c.toNat < 0x80 := by
  obtain rfl | rfl | rfl | rfl := isSpace_iff.1 h <;> decide

/-- What is no white space may be replaced by a character that is like it. -/
lemma isSpace_alike {c d : Char} (hc : isSpace c = false) (h : Text.Alike c d) :
    isSpace d = false :=
  (h.test_eq isSpace_ascii).trans hc

namespace Settled

variable {α β : Type} {reader : Reader α} {part : Reader β} {rest text : List Char} {a : α}

/-- What is taken whatever comes next, or whatever starts as the rest does. -/
lemma of_taken (taken : List Char)
    (h : ∀ other, Text.SameStart rest other → reader (taken ++ other) = .ok (a, other)) :
    Settled reader (taken ++ rest) :=
  .accepted (h rest (Text.sameStart_self rest)) ⟨taken, rfl, h⟩

/-- What is read in the end is what is taken. -/
lemma takes (h : Settled reader text) (hread : reader text = .ok (a, rest)) :
    Takes reader text (a, rest) := by
  cases h with
  | accepted hread' htakes =>
    rw [hread] at hread'
    cases hread'
    exact htakes
  | ended _ hread' =>
    rw [hread] at hread'
    cases hread'
  | outOfRange hread' =>
    rw [hread] at hread'
    cases hread'
  | refused hrefuses =>
    rw [hrefuses.fault text (Text.sameFront_self hrefuses.le)] at hread
    cases hread

/-- A settled reader leaves no more text than there was. -/
lemma length_le (h : Settled reader text) (hread : reader text = .ok (a, rest)) :
    rest.length ≤ text.length := by
  obtain ⟨taken, rfl, -⟩ := h.takes hread
  rw [List.length_append]
  exact Nat.le_add_left _ _

/-- Behind a front that is read in any case, all depends on the rest. -/
lemma after (front : List Char) {reader' : Reader α} (h : Settled reader' rest)
    (heq : ∀ other, Text.SameStart rest other → reader (front ++ other) = reader' other) :
    Settled reader (front ++ rest) := by
  refine Judged.after front h (fun other fault hother e => (heq other hother).trans e) ?_
  rintro ⟨a, left⟩ hread ⟨taken, rfl, htakes⟩
  simp only at hread htakes
  rw [← List.append_assoc]
  apply of_taken
  intro other hother
  rw [List.append_assoc, heq _ (hother.append taken), htakes other hother]

/-- A change of what is read changes nothing in how it is. -/
lemma map (h : Settled part text) (f : β → α) :
    Settled (fun text => (part text).map fun (b, rest) => (f b, rest)) text := by
  refine Judged.after [] h (fun other fault _ e => ?_) ?_
  · rw [List.nil_append, e]
    rfl
  · rintro ⟨b, left⟩ - ⟨taken, rfl, htakes⟩
    apply of_taken
    intro other hother
    rw [htakes other hother]
    rfl

/-- A reader and then another one, on what the first leaves. -/
lemma bind (next : β → Reader α) (h : Settled part text)
    (hbind : ∀ text, reader text = part text >>= fun read => next read.1 read.2)
    (hnext : ∀ b taken rest, text = taken ++ rest → Settled (next b) rest) :
    Settled reader text := by
  refine Judged.after [] h (fun other fault _ e => ?_) ?_
  · rw [List.nil_append, hbind, e]
    rfl
  · rintro ⟨b, left⟩ - ⟨taken, rfl, htakes⟩
    apply (hnext b taken left rfl).after taken
    intro other hother
    rw [hbind, htakes other hother]
    rfl

/-- A reader that skips spaces is settled where it is so for what comes behind them. -/
lemma of_skipSpace (hskip : ∀ text, reader (skipSpace text) = reader text) {cause : Cause}
    (hend : cause.IsEnd) (hnil : reader [] = .error (.atEnd cause))
    (h : ∀ spaces c rest, text = spaces ++ c :: rest → isSpace c = false →
      Settled reader (c :: rest)) : Settled reader text := by
  by_cases hspaces : Spaces text
  · refine .ended hend ?_
    rw [← hskip, skipSpace_spaces hspaces, hnil]
  · obtain ⟨spaces, c, rest, e, hspaces, hspace⟩ := exists_no_space hspaces
    rw [e]
    apply (h spaces c rest e hspace).after spaces
    intro other hother
    obtain ⟨d, rest, rfl, halike⟩ := hother.exists_cons
    rw [← hskip, skipSpace_append hspaces (isSpace_alike hspace halike)]

end Settled

end Gatekeeper.Json
