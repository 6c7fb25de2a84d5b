import Gatekeeper.Proofs.Json.Settled

/-!
# Words, strings and numbers are settled where they stop

The readers of single tokens. None looks further than to the byte by which it knows that its part of
the text is at its end, or that it is none.

The results are `readWord_settled`, `readBody_settled` for strings and `scan_settled` for numbers.
Of the parts of an escape it has to be said which byte makes them none (`readUnit_judged`,
`readLow_judged`, `readEscape_judged`), since the reader reports the fault there and may have seen
more of the text by then.
-/

namespace Gatekeeper.Json

/-! ## Words -/

/-- Words of ASCII letters are settled. -/
lemma readWord_settled (word : Value) {letters : List Char} (ascii : ∀ c ∈ letters, c.toNat < 0x80)
    (text : List Char) : Settled (readWord word letters) text := by
  induction letters generalizing text with
  | nil => exact .of_taken [] fun other _ => rfl
  | cons letter letters ih =>
    obtain ⟨hletter, hletters⟩ := List.forall_mem_cons.1 ascii
    cases text with
    | nil => exact .ended Cause.isEnd_endInValue rfl
    | cons c rest =>
      by_cases hc : (c == letter) = true
      · exact Settled.after [c] (ih hletters rest) fun other _ => if_pos hc
      · apply Judged.onChar [] .wordMisspelt (by decide)
        intro d rest halike
        rw [List.nil_append, readWord, halike.beq_eq hletter, if_neg hc]

/-! ## Strings -/

namespace StringLiteral

/-- If four digits are there and cannot be read, the escape is at fault, right behind them. -/
lemma readUnit_eq_error {text : List Char} {fault : Fault} (hsize : ¬ Text.size text < 4)
    (h : readUnit text = .error fault) : fault = ⟨.escapeUnknown, Text.size text - 4⟩ := by
  unfold readUnit at h
  rw [if_neg hsize] at h
  split at h
  · split at h
    · cases h
    · exact (Except.error.inj h).symm
  · exact (Except.error.inj h).symm

/-- Four bytes are refused if they are not those of four digits, whatever they are the bytes of. -/
lemma readUnit_judged (text : List Char) : Judged (fun _ => True) readUnit text := by
  by_cases hsize : Text.size text < 4
  · exact .ended Cause.isEnd_endInString (if_pos hsize)
  cases hread : readUnit text with
  | ok n => exact .accepted hread trivial
  | error fault =>
    have hrefuses : Refuses readUnit text .escapeUnknown 4 := by
      refine ⟨by decide, by decide, Nat.le_of_not_lt hsize, fun other hother => ?_⟩
      cases hread' : readUnit other with
      | error fault' => rw [readUnit_eq_error (Nat.not_lt.2 hother.le_size) hread']
      | ok n =>
        -- The other text has four digits there, and then so has this one.
        obtain ⟨digits, rest, rfl, hunit⟩ := readUnit_sound hread'
        rw [← hunit.size_eq] at hother
        obtain ⟨behind, rfl⟩ := hother.symm.exists_append
        rw [readUnit_hexUnit hunit] at hread
        cases hread
    exact .refused hrefuses

/-- What is read of four digits decides alone what comes of them. -/
lemma readUnit_after {α : Type} {good : α → Prop} {reader : List Char → Except Fault α}
    (front text : List Char)
    (hfault : ∀ other fault, readUnit other = .error fault →
      reader (front ++ other) = .error fault)
    (hok : ∀ digits rest n, HexUnit digits n → text = digits ++ rest →
      Judged good reader (front ++ (digits ++ rest))) :
    Judged good reader (front ++ text) := by
  refine Judged.after front (readUnit_judged text) (fun other fault _ => hfault other fault) ?_
  intro n hread _
  obtain ⟨digits, rest, rfl, hunit⟩ := readUnit_sound hread
  exact hok digits rest n hunit rfl

/-- The second half of a pair is looked for in the unit behind its mark. -/
lemma readLow_unit {digits : List Char} {n : Nat} (hunit : HexUnit digits n) (rest : List Char) :
    readLow (['\\', 'u'] ++ digits ++ rest) =
      if isLow n then .ok n else .error (.before .surrogateUnpaired rest) := by
  simp only [List.cons_append, List.nil_append, readLow, readUnit_hexUnit hunit, bind, Except.bind,
    List.drop_left' hunit.length_eq]

/-- The second half of a pair is refused at its mark or, behind that, as a unit or for what the unit
denotes. -/
lemma readLow_judged (text : List Char) : Judged (fun _ => True) readLow text := by
  cases text with
  | nil => exact .ended Cause.isEnd_endInString rfl
  | cons c rest =>
    by_cases hc : c = '\\'
    · subst hc
      cases rest with
      | nil => exact .ended Cause.isEnd_endInString rfl
      | cons d rest =>
        by_cases hd : d = 'u'
        · subst hd
          apply readUnit_after ['\\', 'u'] rest
          · intro other fault h
            simp only [List.cons_append, List.nil_append, readLow, h, bind, Except.bind]
          · intro digits rest n hunit _
            rw [← List.append_assoc]
            by_cases hlow : isLow n = true
            · exact .accepted ((readLow_unit hunit rest).trans (if_pos hlow)) trivial
            · apply Judged.before .surrogateUnpaired (by decide) (List.cons_ne_nil _ _)
              exact fun other => (readLow_unit hunit other).trans (if_neg hlow)
        · apply Judged.onChar ['\\'] .surrogateUnfinished (by decide)
          intro e rest halike
          have he : e ≠ 'u' := halike.ne (by decide) hd
          simp [readLow, he]
    · apply Judged.onChar [] .surrogateUnfinished (by decide)
      intro d rest halike
      have hd : d ≠ '\\' := halike.ne (by decide) hc
      simp [readLow, hd]

/-- An escape by four digits is a character, half of a pair, or a half without the other. -/
lemma readEscape_unit {digits : List Char} {n : Nat} (hunit : HexUnit digits n)
    (rest : List Char) :
    readEscape (['u'] ++ digits ++ rest) =
      if isLow n then .error (.before .surrogateUnpaired rest)
      else if isHigh n then (readLow rest).map fun low => (ofPair n low, 11)
      else .ok (Char.ofNat n, 5) := by
  simp only [List.cons_append, List.nil_append, readEscape, readUnit_hexUnit hunit, bind,
    Except.bind, List.drop_left' hunit.length_eq]
  cases readLow rest <;> rfl

/-- Any other escape is the one character that its letter stands for. -/
lemma readEscape_letter {c : Char} (hc : c ≠ 'u') (rest : List Char) :
    readEscape (c :: rest) =
      match shortEscape c with
      | some d => .ok (d, 1)
      | none => .error (.on .escapeUnknown (c :: rest)) := by
  unfold readEscape
  split
  · next e => cases e
  · next e => exact absurd (List.cons.inj e).1 hc
  · next e =>
    cases e
    rfl

/-- The letters of escapes are ASCII characters. -/
lemma shortEscape_ascii {c d : Char} (h : shortEscape c = some d) : c.toNat < 0x80 := by
  unfold shortEscape at h
  split at h
  all_goals first | decide | cases h

/-- A letter that makes no escape may be replaced by one that is like it. -/
lemma shortEscape_alike {c d : Char} (hc : shortEscape c = none) (h : Text.Alike c d) :
    shortEscape d = none := by
  cases hd : shortEscape d with
  | none => rfl
  | some e =>
    rw [← h.symm.eq (shortEscape_ascii hd), hc] at hd
    cases hd

/-- Behind a unit all depends on what it denotes: a character, the first half of a pair, or
nothing. -/
lemma readEscape_unit_judged {digits : List Char} {n : Nat} (hunit : HexUnit digits n)
    (rest : List Char) : Judged (fun _ => True) readEscape (['u'] ++ digits ++ rest) := by
  by_cases hlow : isLow n = true
  · apply Judged.before .surrogateUnpaired (by decide) (List.cons_ne_nil _ _)
    exact fun other => (readEscape_unit hunit other).trans (if_pos hlow)
  by_cases hhigh : isHigh n = true
  · have hpair : ∀ other, readEscape (['u'] ++ digits ++ other) =
        (readLow other).map fun low => (ofPair n low, 11) :=
      fun other => (readEscape_unit hunit other).trans ((if_neg hlow).trans (if_pos hhigh))
    apply Judged.after (['u'] ++ digits) (readLow_judged rest)
    · intro other fault _ h
      rw [hpair, h]
      rfl
    · intro low h _
      have hread : readEscape (['u'] ++ digits ++ rest) = .ok (ofPair n low, 11) := by
        rw [hpair, h]
        rfl
      exact .accepted hread trivial
  · have hread := (readEscape_unit hunit rest).trans ((if_neg hlow).trans (if_neg hhigh))
    exact .accepted hread trivial

/-- An escape is refused at the byte that makes it none. -/
lemma readEscape_judged (text : List Char) : Judged (fun _ => True) readEscape text := by
  cases text with
  | nil => exact .ended Cause.isEnd_endInString rfl
  | cons c rest =>
    by_cases hc : c = 'u'
    · subst hc
      apply readUnit_after ['u'] rest
      · intro other fault h
        simp only [List.cons_append, List.nil_append, readEscape, h, bind, Except.bind]
      · intro digits rest n hunit _
        rw [← List.append_assoc]
        exact readEscape_unit_judged hunit rest
    · cases hshort : shortEscape c with
      | some d =>
        have hread : readEscape (c :: rest) = .ok (d, 1) := by
          rw [readEscape_letter hc, hshort]
        exact .accepted hread trivial
      | none =>
        apply Judged.onChar [] .escapeUnknown (by decide)
        intro d rest halike
        rw [List.nil_append, readEscape_letter (halike.ne (by decide) hc),
          shortEscape_alike hshort halike]

/-- The body of a literal is settled character by character. -/
lemma readBody_settled (text : List Char) : Settled (readBody 0) text := by
  -- An escape takes up to twelve characters at once, so the induction is on the length.
  generalize hlength : text.length = length
  induction length using Nat.strongRecOn generalizing text with
  | ind length ih =>
    subst hlength
    cases text with
    | nil => exact .ended Cause.isEnd_endInString rfl
    | cons c rest =>
      by_cases hquote : (c == '\"') = true
      · apply Settled.of_taken [c]
        exact fun other _ => if_pos hquote
      by_cases hbackslash : (c == '\\') = true
      · obtain rfl := eq_of_beq hbackslash
        apply Judged.after ['\\'] (readEscape_judged rest)
        · intro other fault _ h
          rw [List.singleton_append, readBody, if_neg (by decide), if_pos (by decide), h]
        · rintro ⟨d, length⟩ h -
          obtain ⟨escape, tail, rfl, rfl, hspells⟩ := readEscape_sound h
          have hshorter : tail.length < ('\\' :: (escape ++ tail)).length := by
            rw [List.length_cons, List.length_append]
            omega
          have htail : Settled (readBody 0) tail := ih _ hshorter tail rfl
          exact (htail.map (d :: ·)).after ('\\' :: escape) fun other _ =>
            readBody_spelling hspells other
      by_cases hcontrol : c.toNat < 0x20
      · apply Judged.onChar [] .controlInString (by decide)
        intro d rest halike
        have hd : d = c := halike.eq (by omega)
        subst hd
        rw [List.nil_append, readBody, if_neg hquote, if_neg hbackslash, if_pos hcontrol]
      · have hread : ∀ other, readBody 0 (c :: other) =
            (readBody 0 other).map fun read => (c :: read.1, read.2) := by
          intro other
          rw [readBody, if_neg hquote, if_neg hbackslash, if_neg hcontrol]
        have hrest : Settled (readBody 0) rest := ih _ (Nat.lt_succ_self _) rest rfl
        exact (hrest.map (c :: ·)).after [c] fun other _ => hread other

/-- Strings are settled. -/
lemma read_settled (text : List Char) : Settled read text :=
  (readBody_settled text).map String.ofList

end StringLiteral

/-! ## Numbers -/

namespace Numeral

/-- At least one digit, where one has to come. -/
def readDigits : Reader (List Char) := fun text =>
  match text.takeWhile Char.isDigit, text with
  | [], [] => .error (.atEnd .endInValue)
  | [], rest => .error (.on .numberMalformed rest)
  | digits, rest => .ok (digits, rest.dropWhile Char.isDigit)

/-- Behind a point a fraction needs digits. -/
lemma readFraction_point (rest : List Char) :
    readFraction ('.' :: rest) =
      (readDigits rest).map fun (digits, rest) => (some digits, rest) := by
  unfold readDigits
  simp only [readFraction]
  generalize rest.takeWhile Char.isDigit = digits
  cases digits with
  | nil => cases rest <;> rfl
  | cons _ _ => rfl

/-- Without a point there is no fraction. -/
lemma readFraction_none {text : List Char} (h : ∀ c ∈ text.head?, c ≠ '.') :
    readFraction text = .ok (none, text) := by
  unfold readFraction
  split
  · exact absurd rfl (h '.' rfl)
  · rfl

/-- The power of ten behind its mark, with a sign or none. -/
lemma readPower_cons {mark : Char} (hmark : mark = 'e' ∨ mark = 'E') (rest : List Char) :
    readPower (mark :: rest) =
      (readDigits (readSign rest).2).map fun (digits, tail) =>
        (some ⟨(readSign rest).1, digits⟩, tail) := by
  have hmark' : (mark == 'e' || mark == 'E') = true := by
    obtain rfl | rfl := hmark <;> rfl
  unfold readDigits
  rw [readPower, if_pos hmark']
  generalize readSign rest = sign
  obtain ⟨negative, digits⟩ := sign
  simp only
  generalize digits.takeWhile Char.isDigit = taken
  cases taken with
  | nil => cases digits <;> rfl
  | cons _ _ => rfl

/-- Digits are read up to where they end. -/
lemma readDigits_digits {digits rest : List Char} (h : Digits digits) (hend : DigitsEnd rest) :
    readDigits (digits ++ rest) = .ok (digits, rest) := by
  cases digits with
  | nil => exact absurd rfl h.1
  | cons c digits =>
    unfold readDigits
    rw [takeWhile_digits h.2 hend]
    simp only [dropWhile_digits h.2 hend]

/-- Behind the leading digits the digits end. -/
lemma digitsEnd_dropWhile (text : List Char) : DigitsEnd (text.dropWhile Char.isDigit) := by
  have hfirst := List.head?_dropWhile_not Char.isDigit text
  rintro c hc
  rw [Option.mem_def.1 hc] at hfirst
  exact hfirst

/-- Digits are settled, -/
lemma readDigits_settled (text : List Char) : Settled readDigits text := by
  cases text with
  | nil => exact .ended Cause.isEnd_endInValue rfl
  | cons c rest =>
    by_cases hc : c.isDigit = true
    · have hdigits : Digits ((c :: rest).takeWhile Char.isDigit) := by
        apply digits_takeWhile
        rw [List.takeWhile_cons_of_pos hc]
        exact List.cons_ne_nil _ _
      have hend := digitsEnd_dropWhile (c :: rest)
      rw [← List.takeWhile_append_dropWhile (p := Char.isDigit) (l := c :: rest)]
      apply Settled.of_taken
      intro other hother
      exact readDigits_digits hdigits (hother.head?_test Text.isDigit_ascii hend)
    · apply Judged.onChar [] .numberMalformed (by decide)
      intro d rest halike
      have hd : ¬ d.isDigit = true := by
        rw [halike.test_eq Text.isDigit_ascii]
        exact hc
      unfold readDigits
      rw [List.nil_append, List.takeWhile_cons_of_neg hd]

/-- and so are whole numbers, -/
lemma readWhole_settled (text : List Char) : Settled readWhole text := by
  have taken : ∀ whole rest, Whole whole → DigitsEnd rest → Settled readWhole (whole ++ rest) := by
    intro whole rest hwhole hend
    apply Settled.of_taken
    intro other hother
    exact readWhole_whole hwhole (hother.head?_test Text.isDigit_ascii hend)
  cases text with
  | nil => exact .ended Cause.isEnd_endInValue rfl
  | cons c rest =>
    by_cases hzero : c = '0'
    · subst hzero
      cases rest with
      | nil => exact taken ['0'] [] .zero (fun _ h => by cases h)
      | cons d rest =>
        by_cases hd : d.isDigit = true
        · apply Judged.onChar ['0'] .numberMalformed (by decide)
          intro e rest halike
          have he : e.isDigit = true := by
            rw [halike.test_eq Text.isDigit_ascii]
            exact hd
          show (if ((e :: rest).takeWhile Char.isDigit).isEmpty then _ else _) = _
          rw [List.takeWhile_cons_of_pos he]
          rfl
        · have hend : DigitsEnd (d :: rest) := by
            rintro _ ⟨⟩
            exact Bool.not_eq_true _ ▸ hd
          exact taken ['0'] (d :: rest) .zero hend
    by_cases hc : c.isDigit = true
    · have hwhole : Whole ((c :: rest).takeWhile Char.isDigit) := by
        have hdigits : ∀ d ∈ (c :: rest).takeWhile Char.isDigit, d.isDigit = true :=
          fun d => isDigit_of_mem_takeWhile
        rw [List.takeWhile_cons_of_pos hc] at hdigits ⊢
        exact .digits hzero ⟨List.cons_ne_nil _ _, hdigits⟩
      rw [← List.takeWhile_append_dropWhile (p := Char.isDigit) (l := c :: rest)]
      exact taken _ _ hwhole (digitsEnd_dropWhile (c :: rest))
    · apply Judged.onChar [] .numberMalformed (by decide)
      intro d rest halike
      have hne : ¬ (d == '0') = true := halike.not_beq (by decide) hzero
      rw [List.nil_append, readWhole, if_neg hne, halike.test_eq Text.isDigit_ascii, if_neg hc]

/-- fractions, -/
lemma readFraction_settled (text : List Char) : Settled readFraction text := by
  cases text with
  | nil =>
    apply Settled.of_taken []
    intro other hother
    rw [hother.eq_nil]
    rfl
  | cons c rest =>
    by_cases hc : c = '.'
    · subst hc
      exact ((readDigits_settled rest).map some).after ['.'] fun other _ => readFraction_point other
    · have hnone : ∀ d ∈ (c :: rest).head?, d ≠ '.' := by
        rintro _ ⟨⟩
        exact hc
      exact Settled.of_taken [] fun other hother =>
        readFraction_none (hother.head?_ne (by decide) hnone)

/-- powers of ten, -/
lemma readPower_settled (text : List Char) : Settled readPower text := by
  cases text with
  | nil =>
    apply Settled.of_taken []
    intro other hother
    rw [hother.eq_nil]
    rfl
  | cons c rest =>
    by_cases hmark : c = 'e' ∨ c = 'E'
    · cases rest with
      | nil => exact .ended Cause.isEnd_endInValue (readPower_cons hmark [])
      | cons d rest =>
        by_cases hminus : d = '-'
        · subst hminus
          exact ((readDigits_settled rest).map (some <| Power.mk true ·)).after [c, '-']
            fun other _ => readPower_cons hmark ('-' :: other)
        by_cases hplus : d = '+'
        · subst hplus
          exact ((readDigits_settled rest).map (some <| Power.mk false ·)).after [c, '+']
            fun other _ => readPower_cons hmark ('+' :: other)
        · apply ((readDigits_settled (d :: rest)).map (some <| Power.mk false ·)).after [c]
          intro other hother
          obtain ⟨e, rest, rfl, halike⟩ := hother.exists_cons
          have hsign : readSign (e :: rest) = (false, e :: rest) := by
            have he := halike.ne (by decide) hminus
            have he' := halike.ne (by decide) hplus
            unfold readSign
            split
            · next e => exact absurd (List.cons.inj e).1 he
            · next e => exact absurd (List.cons.inj e).1 he'
            · rfl
          rw [List.singleton_append, readPower_cons hmark, hsign]
    · apply Settled.of_taken []
      intro other hother
      obtain ⟨d, rest, rfl, halike⟩ := hother.exists_cons
      rw [not_or] at hmark
      have hd : ¬ (d == 'e' || d == 'E') = true := by
        simpa using ⟨halike.ne (by decide) hmark.1, halike.ne (by decide) hmark.2⟩
      exact if_neg hd

/-- numerals without a sign, -/
lemma readUnsigned_settled (negative : Bool) (text : List Char) :
    Settled (readUnsigned negative) text := by
  apply Settled.bind (fun whole rest => readFraction rest >>= fun fraction =>
    readPower fraction.2 >>= fun power =>
      .ok (Numeral.mk negative whole fraction.1 power.1, power.2))
    (readWhole_settled text) fun _ => rfl
  intro whole _ rest _
  apply Settled.bind (fun fraction rest => readPower rest >>= fun power =>
    .ok (Numeral.mk negative whole fraction power.1, power.2))
    (readFraction_settled rest) fun _ => rfl
  intro fraction _ rest _
  apply Settled.bind (fun power rest => .ok (Numeral.mk negative whole fraction power, rest))
    (readPower_settled rest) fun _ => rfl
  intro power _ rest _
  exact Settled.of_taken [] fun other _ => rfl

/-- and numerals with one. -/
lemma scan_settled (text : List Char) : Settled scan text := by
  cases text with
  | nil => exact .ended Cause.isEnd_endInValue rfl
  | cons c rest =>
    by_cases hc : c = '-'
    · subst hc
      exact (readUnsigned_settled true rest).after ['-'] fun other _ => rfl
    · apply (readUnsigned_settled false (c :: rest)).after []
      intro other hother
      have hother' := hother.head?_ne (x := '-') (by decide) (by rintro _ ⟨⟩; exact hc)
      exact scan_unsigned .none hother'

/-- A number is refused where it is none; whether it is out of range is another question. -/
lemma read_settled (text : List Char) : Settled read text := by
  refine Judged.after [] (scan_settled text) (fun other fault _ h => ?_) ?_
  · rw [List.nil_append, read, h]
    rfl
  · rintro ⟨numeral, left⟩ hread ⟨taken, rfl, htakes⟩
    cases hover : numeral.overflow with
    | some early =>
      have htaken := htakes left (Text.sameStart_self left)
      have hread : read (taken ++ left) =
          .error ⟨.numberOutOfRange, early + Text.size left⟩ := by
        simp only [read, htaken, bind, Except.bind, hover]
      exact .outOfRange hread
    | none =>
      apply Settled.of_taken
      intro other hother
      simp only [read, htakes other hother, bind, Except.bind, hover]
      rfl

end Numeral

end Gatekeeper.Json
