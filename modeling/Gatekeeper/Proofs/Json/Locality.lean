import Mathlib.Data.List.DropRight
import Gatekeeper.Proofs.Json.Scalars

/-!
# Documents are settled where they stop

Lists, objects and the document itself are settled because their items are. The fuel of the loop
over items stands for the text that is left: with fuel enough, how much there is makes no
difference, and so two texts of different lengths are read alike.

`readMore_fuel` and `readMore_cons` take the fuel out of the loop. `readFrom` and `readNext` are the
two halves of its body as readers of their own, with one lemma each, so that `readMore_settled` is
an induction on the length of the text. `readValue_settled` is one on the depth of brackets, and
`readDocument_judged` the result for whole texts.
-/

namespace Gatekeeper.Json

/-- Behind the white space there is none. -/
lemma skipSpace_skipSpace (text : List Char) : skipSpace (skipSpace text) = skipSpace text :=
  List.dropWhile_idempotent isSpace text

/-- Nothing is skipped in front of any other character. -/
lemma skipSpace_cons {c : Char} (hc : isSpace c = false) (rest : List Char) :
    skipSpace (c :: rest) = c :: rest :=
  skipSpace_append Spaces.nil hc

/-! ## Items between brackets -/

section
variable {α : Type} (brackets : Brackets) (item : Reader α)

/-- An item and those that follow it. -/
def readFrom : Reader (List α) := fun text => do
  let (first, rest) ← item text
  let (others, rest) ← readMore brackets item (rest.length + 1) rest
  return (first :: others, rest)

/-- The items behind a comma, of which there has to be one. -/
def readNext : Reader (List α) := fun text =>
  match skipSpace text with
  | [] => .error (.atEnd .endInValue)
  | c :: rest =>
    if c == brackets.close then .error (.on .commaTrailing (c :: rest))
    else readFrom brackets item (c :: rest)

end

section
variable {α : Type} {brackets : Brackets} {item : Reader α}

/-- Skipping leaves no more text than there was. -/
lemma length_skipSpace_le (text : List Char) : (skipSpace text).length ≤ text.length :=
  List.length_dropWhile_le isSpace text

/-- With more fuel than there is text, the fuel makes no difference. -/
lemma readMore_fuel (hitem : ∀ c text, Settled item (c :: text)) {fuel fuel' : Nat}
    {text : List Char} (h : text.length < fuel) (h' : text.length < fuel') :
    readMore brackets item fuel text = readMore brackets item fuel' text := by
  induction fuel generalizing fuel' text with
  | zero => exact absurd h (Nat.not_lt_zero _)
  | succ fuel ih =>
    cases fuel' with
    | zero => exact absurd h' (Nat.not_lt_zero _)
    | succ fuel' =>
      have hskip := length_skipSpace_le text
      rw [readMore, readMore]
      cases hrest : skipSpace text with
      | nil => rfl
      | cons c rest =>
        have hskip' := length_skipSpace_le rest
        rw [hrest, List.length_cons] at hskip
        simp only
        split
        · rfl
        split
        · cases hnext : skipSpace rest with
          | nil => rfl
          | cons d tail =>
            rw [hnext] at hskip'
            simp only
            split
            · rfl
            cases hread : item (d :: tail) with
            | error fault => rfl
            | ok result =>
              -- The item takes none of the fuel and the comma one character of the text.
              have hle := (hitem d tail).length_le hread
              have hfuel : readMore brackets item fuel result.2 =
                  readMore brackets item fuel' result.2 := ih (by omega) (by omega)
              simp only [bind, Except.bind, hfuel]
        · rfl

/-- The items behind an item, with fuel enough. -/
lemma readMore_cons (hitem : ∀ c text, Settled item (c :: text)) {c : Char}
    (hspace : isSpace c = false) (rest : List Char) :
    readMore brackets item ((c :: rest).length + 1) (c :: rest) =
      if c == brackets.close then .ok ([], rest)
      else if c == ',' then readNext brackets item rest
      else .error (.on brackets.unseparated (c :: rest)) := by
  rw [readMore, skipSpace_cons hspace]
  simp only
  split
  · rfl
  split
  · have hskip := length_skipSpace_le rest
    unfold readNext readFrom
    cases hnext : skipSpace rest with
    | nil => rfl
    | cons d tail =>
      rw [hnext] at hskip
      simp only
      split
      · rfl
      cases hread : item (d :: tail) with
      | error fault => rfl
      | ok result =>
        have hle := (hitem d tail).length_le hread
        have hfuel : readMore brackets item (c :: rest).length result.2 =
            readMore brackets item (result.2.length + 1) result.2 :=
          readMore_fuel hitem (by rw [List.length_cons]; omega) (Nat.lt_succ_self _)
        simp only [bind, Except.bind, hfuel]
  · rfl

/-- White space in front of further items makes no difference. -/
lemma readMore_skipSpace (hitem : ∀ c text, Settled item (c :: text)) (text : List Char) :
    readMore brackets item ((skipSpace text).length + 1) (skipSpace text) =
      readMore brackets item (text.length + 1) text := by
  have hle := length_skipSpace_le text
  rw [readMore_fuel hitem (Nat.lt_succ_self _) (Nat.lt_succ_of_le hle), readMore, readMore,
    skipSpace_skipSpace]

/-- An item is settled with those that follow it, if these are. -/
lemma readFrom_settled {text : List Char} (h : Settled item text)
    (hmore : ∀ rest, rest.length ≤ text.length →
      Settled (fun text => readMore brackets item (text.length + 1) text) rest) :
    Settled (readFrom brackets item) text := by
  apply Settled.bind (fun first rest => readMore brackets item (rest.length + 1) rest >>=
    fun (others, rest) => .ok (first :: others, rest)) h fun _ => rfl
  rintro first taken rest rfl
  have hle : rest.length ≤ (taken ++ rest).length := by
    rw [List.length_append]
    exact Nat.le_add_left _ _
  apply Settled.bind (fun others rest => .ok (first :: others, rest)) (hmore rest hle) fun _ => rfl
  intro others _ rest _
  exact Settled.of_taken [] fun other _ => rfl

/-- The closing brackets are ASCII characters. -/
lemma closing_ascii {closing : Char} (h : closing = ']' ∨ closing = '\x7d') :
    closing.toNat < 0x80 := by
  obtain rfl | rfl := h <;> decide

/-- What comes behind an item is settled if the items are and the rest is. -/
lemma readNext_settled (hclose : brackets.close = ']' ∨ brackets.close = '\x7d')
    (hitem : ∀ c text, Settled item (c :: text)) {text : List Char}
    (hmore : ∀ rest, rest.length ≤ text.length →
      Settled (fun text => readMore brackets item (text.length + 1) text) rest) :
    Settled (readNext brackets item) text := by
  have hskip : ∀ text, readNext brackets item (skipSpace text) = readNext brackets item text := by
    intro text
    unfold readNext
    rw [skipSpace_skipSpace]
  apply Settled.of_skipSpace hskip Cause.isEnd_endInValue rfl
  rintro spaces c rest rfl hspace
  have hcons : ∀ d rest, Text.Alike c d → readNext brackets item (d :: rest) =
      if c == brackets.close then .error (.on .commaTrailing (d :: rest))
      else readFrom brackets item (d :: rest) := by
    intro d rest halike
    unfold readNext
    simp only [skipSpace_cons (isSpace_alike hspace halike),
      halike.beq_eq (closing_ascii hclose)]
  by_cases hc : (c == brackets.close) = true
  · apply Judged.onChar [] .commaTrailing (by decide)
    intro d rest halike
    rw [List.nil_append, hcons d rest halike, if_pos hc]
  · have hfrom : Settled (readFrom brackets item) (c :: rest) := by
      apply readFrom_settled (hitem c rest)
      intro rest' hle
      apply hmore rest'
      rw [List.length_append]
      omega
    apply hfrom.after []
    intro other hother
    obtain ⟨d, rest, rfl, halike⟩ := hother.exists_cons
    rw [List.nil_append, hcons d rest halike, if_neg hc]

/-- What follows an item is settled, up to the closing bracket. -/
lemma readMore_settled (hclose : brackets.close = ']' ∨ brackets.close = '\x7d')
    (hend : brackets.atEnd.IsEnd) (hunseparated : ¬ brackets.unseparated.IsEnd)
    (hitem : ∀ c text, Settled item (c :: text)) (text : List Char) :
    Settled (fun text => readMore brackets item (text.length + 1) text) text := by
  -- What is left behind a comma is not the tail of the text but what the next item leaves of it, so
  -- that the induction is on the length.
  generalize hlength : text.length = length
  induction length using Nat.strongRecOn generalizing text with
  | ind length ih =>
    subst hlength
    apply Settled.of_skipSpace (readMore_skipSpace hitem) hend rfl
    rintro spaces c rest rfl hspace
    by_cases hc : c = brackets.close
    · subst hc
      apply Settled.of_taken [brackets.close]
      intro other _
      rw [List.singleton_append, readMore_cons hitem hspace, if_pos (beq_self_eq_true _)]
    have hne : ∀ d, Text.Alike c d → ¬ (d == brackets.close) = true :=
      fun d halike => halike.not_beq (closing_ascii hclose) hc
    by_cases hcomma : c = ','
    · subst hcomma
      have hnext : Settled (readNext brackets item) rest := by
        apply readNext_settled hclose hitem
        intro rest' hle
        apply ih rest'.length _ rest' rfl
        rw [List.length_append, List.length_cons]
        omega
      apply hnext.after [',']
      intro other _
      rw [List.singleton_append, readMore_cons hitem hspace, if_neg (hne ',' (.inl rfl)),
        if_pos (beq_self_eq_true _)]
    · apply Judged.onChar [] brackets.unseparated hunseparated
      intro d rest halike
      have hd : ¬ (d == ',') = true := halike.not_beq (by decide) hcomma
      rw [List.nil_append, readMore_cons hitem (isSpace_alike hspace halike), if_neg (hne d halike),
        if_neg hd]

/-- Items between brackets are settled if each item is. -/
lemma readItems_settled (hclose : brackets.close = ']' ∨ brackets.close = '\x7d')
    (hend : brackets.atEnd.IsEnd) (hunseparated : ¬ brackets.unseparated.IsEnd)
    (hitem : ∀ c text, Settled item (c :: text)) (text : List Char) :
    Settled (readItems brackets item) text := by
  have hskip : ∀ text,
      readItems brackets item (skipSpace text) = readItems brackets item text := by
    intro text
    unfold readItems
    rw [skipSpace_skipSpace]
  have hcons : ∀ c rest, isSpace c = false → readItems brackets item (c :: rest) =
      if c == brackets.close then .ok ([], rest) else readFrom brackets item (c :: rest) := by
    intro c rest hspace
    unfold readItems
    rw [skipSpace_cons hspace]
    rfl
  apply Settled.of_skipSpace hskip hend rfl
  rintro spaces c rest - hspace
  by_cases hc : c = brackets.close
  · subst hc
    apply Settled.of_taken [brackets.close]
    intro other _
    rw [List.singleton_append, hcons _ other hspace, if_pos (beq_self_eq_true _)]
  · have hfrom : Settled (readFrom brackets item) (c :: rest) :=
      readFrom_settled (hitem c rest) fun rest _ =>
        readMore_settled hclose hend hunseparated hitem rest
    apply hfrom.after []
    intro other hother
    obtain ⟨d, rest, rfl, halike⟩ := hother.exists_cons
    have hd := halike.not_beq (closing_ascii hclose) hc
    rw [List.nil_append, hcons d rest (isSpace_alike hspace halike), if_neg hd]

end

/-! ## Members -/

/-- The colon behind a name, and the value that makes it a member. -/
def readColon (value : Reader Value) (name : String) : Reader (String × Value) := fun text =>
  match skipSpace text with
  | [] => .error (.atEnd .endInObject)
  | c :: rest =>
    if c == ':' then do
      let (value, rest) ← value rest
      return ((name, value), rest)
    else .error (.on .colonMissing (c :: rest))

/-- The value of a member is settled with its colon. -/
lemma readColon_settled {value : Reader Value} (hvalue : ∀ text, Settled value text)
    (name : String) (text : List Char) : Settled (readColon value name) text := by
  have hskip : ∀ text, readColon value name (skipSpace text) = readColon value name text := by
    intro text
    unfold readColon
    rw [skipSpace_skipSpace]
  apply Settled.of_skipSpace hskip Cause.isEnd_endInObject rfl
  rintro spaces c rest - hspace
  by_cases hc : c = ':'
  · subst hc
    have hmember : Settled (fun rest => value rest >>= fun (v, rest) => .ok ((name, v), rest))
        rest := by
      apply Settled.bind (fun v rest => .ok ((name, v), rest)) (hvalue rest) fun _ => rfl
      intro v _ rest _
      exact Settled.of_taken [] fun other _ => rfl
    exact hmember.after [':'] fun other _ => rfl
  · apply Judged.onChar [] .colonMissing (by decide)
    intro d rest halike
    have hd : ¬ (d == ':') = true := halike.not_beq (by decide) hc
    unfold readColon
    rw [List.nil_append, skipSpace_cons (isSpace_alike hspace halike)]
    exact if_neg hd

/-- A member is settled if values are. -/
lemma readMember_settled {value : Reader Value} (hvalue : ∀ text, Settled value text) (c : Char)
    (text : List Char) : Settled (readMember value) (c :: text) := by
  by_cases hc : c = '\"'
  · subst hc
    have hname : Settled (fun rest => StringLiteral.read rest >>= fun name =>
        readColon value name.1 name.2) text := by
      apply Settled.bind (readColon value) (StringLiteral.read_settled text) fun _ => rfl
      intro name _ rest _
      exact readColon_settled hvalue name rest
    exact hname.after ['\"'] fun other _ => rfl
  · apply Judged.onChar [] .nameMissing (by decide)
    intro d rest halike
    have hd := halike.ne (by decide) hc
    unfold readMember
    split
    · next e => exact absurd (List.cons.inj e).1 hd
    · rfl

/-! ## Values -/

/-- A numeral begins with an ASCII character. -/
lemma numeral_head_ascii {c : Char} (h : (c == '-' || c.isDigit) = true) : c.toNat < 0x80 := by
  obtain hminus | hdigit := Bool.or_eq_true_iff.1 h
  · rw [eq_of_beq hminus]
    decide
  · exact Text.isDigit_ascii c hdigit

/-- A value is settled if those inside its brackets are. -/
lemma readWith_settled (inner : Option (Reader Value))
    (hinner : ∀ reader ∈ inner, ∀ text, Settled reader text) (text : List Char) :
    Settled (readWith inner) text := by
  have hskip : ∀ text, readWith inner (skipSpace text) = readWith inner text := by
    intro text
    unfold readWith
    rw [skipSpace_skipSpace]
  apply Settled.of_skipSpace hskip Cause.isEnd_endInValue rfl
  rintro spaces c rest - hspace
  by_cases hnull : c = 'n'
  · subst hnull
    exact (readWord_settled .null (by simp) rest).after ['n'] fun other _ => rfl
  by_cases htrue : c = 't'
  · subst htrue
    exact (readWord_settled (.boolean true) (by simp) rest).after ['t'] fun other _ => rfl
  by_cases hfalse : c = 'f'
  · subst hfalse
    exact (readWord_settled (.boolean false) (by simp) rest).after ['f'] fun other _ => rfl
  by_cases hquote : c = '\"'
  · subst hquote
    exact ((StringLiteral.read_settled rest).map Value.string).after ['\"'] fun other _ => rfl
  have hne : ∀ x, c ≠ x → ¬ (c == x) = true := fun x hx => by simpa using hx
  by_cases hnumber : (c == '-' || c.isDigit) = true
  · apply ((Numeral.read_settled (c :: rest)).map Value.number).after []
    intro other hother
    obtain ⟨d, rest, rfl, halike⟩ := hother.exists_cons
    obtain rfl := halike.eq (numeral_head_ascii hnumber)
    rw [List.nil_append, readWith, skipSpace_cons hspace]
    simp only
    rw [if_neg (hne 'n' hnull), if_neg (hne 't' htrue), if_neg (hne 'f' hfalse),
      if_neg (hne '\"' hquote), if_pos hnumber]
  by_cases hlist : c = '['
  · subst hlist
    cases inner with
    | none =>
      apply Judged.onChar [] .nestingTooDeep (by decide)
      intro d rest halike
      rw [halike.eq (by decide)]
      rfl
    | some inner =>
      have hitems : Settled (readItems .list inner) rest :=
        readItems_settled (.inl rfl) Cause.isEnd_endInList (by decide)
          (fun c text => hinner inner rfl (c :: text)) rest
      exact (hitems.map Value.list).after ['['] fun other _ => rfl
  by_cases hobject : c = '\x7b'
  · subst hobject
    cases inner with
    | none =>
      apply Judged.onChar [] .nestingTooDeep (by decide)
      intro d rest halike
      rw [halike.eq (by decide)]
      rfl
    | some inner =>
      have hmembers : Settled (readItems .object (readMember inner)) rest :=
        readItems_settled (.inr rfl) Cause.isEnd_endInObject (by decide)
          (readMember_settled (hinner inner rfl)) rest
      exact (hmembers.map Value.object).after ['\x7b'] fun other _ => rfl
  · apply Judged.onChar [] .valueMissing (by decide)
    intro d rest halike
    have hd : ∀ x : Char, x.toNat < 0x80 → c ≠ x → ¬ (d == x) = true :=
      fun x ascii hx => halike.not_beq ascii hx
    have hd' : ¬ (d == '-' || d.isDigit) = true := by
      rw [halike.beq_eq (by decide), halike.test_eq Text.isDigit_ascii]
      exact hnumber
    rw [List.nil_append, readWith, skipSpace_cons (isSpace_alike hspace halike)]
    simp only
    rw [if_neg (hd 'n' (by decide) hnull), if_neg (hd 't' (by decide) htrue),
      if_neg (hd 'f' (by decide) hfalse), if_neg (hd '\"' (by decide) hquote), if_neg hd',
      if_neg (hd '[' (by decide) hlist), if_neg (hd '\x7b' (by decide) hobject)]

/-- Values of every depth are settled. -/
lemma readValue_settled (depth : Nat) (text : List Char) : Settled (readValue depth) text := by
  induction depth generalizing text with
  | zero =>
    apply readWith_settled none
    rintro _ ⟨⟩
  | succ depth ih =>
    apply readWith_settled (some (readValue depth))
    rintro _ ⟨⟩
    exact ih

/-- A document is refused where it goes wrong, if not at its end or for a number out of range. -/
lemma readDocument_judged (text : List Char) : Judged (fun _ => True) readDocument text := by
  refine Judged.after [] (readValue_settled maxDepth text) (fun other fault _ h => ?_) ?_
  · rw [List.nil_append, readDocument, h]
    rfl
  · rintro ⟨v, left⟩ - ⟨taken, rfl, htakes⟩
    have hread : ∀ other, Text.SameStart left other → readDocument (taken ++ other) =
        match skipSpace other with
        | [] => .ok v
        | c :: rest => .error (.on .textTrailing (c :: rest)) := by
      intro other hother
      rw [readDocument, htakes other hother]
      simp only [bind, Except.bind]
      cases skipSpace other <;> rfl
    by_cases hspaces : Spaces left
    · have haccepted : readDocument (taken ++ left) = .ok v := by
        rw [hread left (Text.sameStart_self left), skipSpace_spaces hspaces]
      exact .accepted haccepted trivial
    · obtain ⟨spaces, c, rest, rfl, hspaces, hspace⟩ := exists_no_space hspaces
      simp only [← List.append_assoc, List.nil_append]
      apply Judged.on (taken ++ spaces) .textTrailing (by decide)
      intro other hother
      rw [List.append_assoc, hread _ (hother.append spaces)]
      obtain ⟨d, rest, rfl, halike⟩ := hother.exists_cons
      rw [skipSpace_append hspaces (isSpace_alike hspace halike)]

end Gatekeeper.Json
