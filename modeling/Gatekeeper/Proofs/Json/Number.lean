import Gatekeeper.Proofs.Json.Spelling

/-!
# Reading numbers

The reader of numerals takes as many characters as it can, so that what it takes depends on what
comes next: a numeral of the grammar is read back whole only where no character follows that it
could go on with. In a document none does. A plain integer of 64 bits is never out of range.

The parts of a numeral have a lemma in both directions each, as the parts of a string literal have:
`readWhole_whole` and `readWhole_sound`, and so on. `scan_numeral` and `scan_sound` put them
together. `DigitsEnd` and `NumberEnds` are what the first of each pair needs of the text that
follows. `IsPlainWord.overflow_eq_none` is about the range of numbers, and there an induction along
the digits shows that none of them is left out.
-/

namespace Gatekeeper.Json

/-- No digit comes next. -/
def DigitsEnd (rest : List Char) : Prop :=
  ∀ c ∈ rest.head?, c.isDigit = false

/-- No character comes next that a number could go on with. -/
def NumberEnds (rest : List Char) : Prop :=
  ∀ c ∈ rest.head?, c.isDigit = false ∧ c ≠ '.' ∧ c ≠ 'e' ∧ c ≠ 'E'

/-- A number that has neither a fraction nor a power of ten, and lies between `-2 ^ 63` and
`2 ^ 64 - 1`. -/
def Numeral.IsPlainWord (n : Numeral) : Prop :=
  n.fraction = none ∧ n.power = none ∧
    if n.negative then Nat.ofDigitChars 10 n.whole 0 ≤ 9223372036854775808
    else Nat.ofDigitChars 10 n.whole 0 ≤ 18446744073709551615

/-- Where a number ends its digits end. -/
lemma NumberEnds.digitsEnd {rest} (h : NumberEnds rest) : DigitsEnd rest :=
  fun c hc => (h c hc).1

namespace Numeral

/-! ## Rows of digits -/

/-- The digits before something else are all of them that come first. -/
lemma takeWhile_digits {digits rest} (h : ∀ c ∈ digits, c.isDigit = true)
    (hend : DigitsEnd rest) : (digits ++ rest).takeWhile Char.isDigit = digits := by
  rw [List.takeWhile_append_of_pos h]
  cases rest with
  | nil => exact List.append_nil digits
  | cons c rest =>
    have hc := hend c rfl
    rw [List.takeWhile_cons_of_neg (by simp [hc]), List.append_nil]

/-- Behind some digits stands what was put there. -/
lemma dropWhile_digits {digits rest} (h : ∀ c ∈ digits, c.isDigit = true)
    (hend : DigitsEnd rest) : (digits ++ rest).dropWhile Char.isDigit = rest := by
  rw [List.dropWhile_append_of_pos h]
  cases rest with
  | nil => rfl
  | cons c rest =>
    have hc := hend c rfl
    rw [List.dropWhile_cons_of_neg (by simp [hc])]

/-- The leading digits are digits. -/
lemma isDigit_of_mem_takeWhile {text : List Char} {c : Char}
    (h : c ∈ text.takeWhile Char.isDigit) : c.isDigit = true :=
  List.all_eq_true.1 List.all_takeWhile c h

/-- If there are any they spell a number. -/
lemma digits_takeWhile {text : List Char} (h : text.takeWhile Char.isDigit ≠ []) :
    Digits (text.takeWhile Char.isDigit) :=
  ⟨h, fun _ => isDigit_of_mem_takeWhile⟩

/-! ## The parts of a numeral -/

/-- The whole digits are read back where no digit follows. -/
lemma readWhole_whole {whole rest} (h : Whole whole) (hend : DigitsEnd rest) :
    readWhole (whole ++ rest) = .ok (whole, rest) := by
  cases h with
  | zero =>
    have hnone := @takeWhile_digits [] rest (List.forall_mem_nil _) hend
    rw [List.nil_append] at hnone
    simp only [List.cons_append, List.nil_append, readWhole, hnone, List.isEmpty_nil,
      beq_self_eq_true, if_true]
  | @digits c cs hne hdigits =>
    have hc : c.isDigit = true := hdigits.2 c List.mem_cons_self
    have hcs : ∀ d ∈ cs, d.isDigit = true := fun d hd => hdigits.2 d (List.mem_cons_of_mem c hd)
    rw [List.cons_append, readWhole, if_neg (by simpa using hne), if_pos hc,
      takeWhile_digits hcs hend, dropWhile_digits hcs hend]

/-- What is read as a whole number is spelled as one. -/
lemma readWhole_sound {text whole rest} (h : readWhole text = .ok (whole, rest)) :
    text = whole ++ rest ∧ Whole whole := by
  cases text with
  | nil => cases h
  | cons c text =>
    rw [readWhole] at h
    split at h
    · next hzero =>
      split at h
      · cases h
        rw [eq_of_beq hzero]
        exact ⟨rfl, .zero⟩
      · cases h
    next hzero =>
    split at h
    · next hc =>
      cases h
      refine ⟨?_, .digits (by simpa using hzero) ⟨List.cons_ne_nil _ _, ?_⟩⟩
      · rw [List.cons_append, List.takeWhile_append_dropWhile]
      · intro d hd
        obtain rfl | hd := List.mem_cons.1 hd
        · exact hc
        · exact isDigit_of_mem_takeWhile hd
    · cases h

/-- A fraction is read back where no digit and no point follows. -/
lemma readFraction_fraction {point fraction rest} (h : Fraction point fraction)
    (hend : DigitsEnd rest) (hpoint : ∀ c ∈ rest.head?, c ≠ '.') :
    readFraction (point ++ rest) = .ok (fraction, rest) := by
  cases h with
  | none =>
    cases rest with
    | nil => rfl
    | cons c rest =>
      have hc := hpoint c rfl
      rw [List.nil_append]
      unfold readFraction
      split
      · next e => exact absurd (List.cons.inj e).1 hc
      · rfl
  | @some digits hdigits =>
    have htake := takeWhile_digits hdigits.2 hend
    have hdrop := dropWhile_digits hdigits.2 hend
    cases digits with
    | nil => exact absurd rfl hdigits.1
    | cons d digits =>
      unfold readFraction
      simp only [List.cons_append] at htake hdrop ⊢
      simp only [htake, hdrop]

/-- What is read as a fraction is spelled as one, -/
lemma readFraction_sound {text fraction rest} (h : readFraction text = .ok (fraction, rest)) :
    ∃ point, text = point ++ rest ∧ Fraction point fraction := by
  unfold readFraction at h
  split at h
  · split at h
    · cases h
    · cases h
    · next text _ _ hne _ =>
      cases h
      refine ⟨'.' :: text.takeWhile Char.isDigit, ?_, .some (digits_takeWhile hne)⟩
      rw [List.cons_append, List.takeWhile_append_dropWhile]
  · cases h
    exact ⟨[], rfl, .none⟩

/-- A sign before digits is read back. -/
lemma readSign_powerSign {sign negative digits} (h : PowerSign sign negative)
    (hdigits : Digits digits) (rest : List Char) :
    readSign (sign ++ (digits ++ rest)) = (negative, digits ++ rest) := by
  cases h with
  | none =>
    cases digits with
    | nil => exact absurd rfl hdigits.1
    | cons d digits =>
      have hd : d.isDigit = true := hdigits.2 d List.mem_cons_self
      unfold readSign
      split
      · next e =>
        obtain ⟨rfl, -⟩ := List.cons.inj e
        exact absurd hd (by decide)
      · next e =>
        obtain ⟨rfl, -⟩ := List.cons.inj e
        exact absurd hd (by decide)
      · rfl
  | plus => rfl
  | minus => rfl

/-- what is read as the sign of a power is spelled as one, -/
lemma readSign_sound (text : List Char) :
    ∃ sign, text = sign ++ (readSign text).2 ∧ PowerSign sign (readSign text).1 := by
  unfold readSign
  split
  · exact ⟨['-'], rfl, .minus⟩
  · exact ⟨['+'], rfl, .plus⟩
  · exact ⟨[], rfl, .none⟩

/-- A power of ten is read back where a number ends. -/
lemma readPower_powerOfTen {mark power rest} (h : PowerOfTen mark power) (hend : NumberEnds rest) :
    readPower (mark ++ rest) = .ok (power, rest) := by
  cases h with
  | none =>
    cases rest with
    | nil => rfl
    | cons c rest =>
      obtain ⟨-, -, he, hE⟩ := hend c rfl
      rw [List.nil_append, readPower, if_neg (by simp [he, hE])]
  | @some mark sign negative digits hmark hsign hdigits =>
    have htake := takeWhile_digits hdigits.2 hend.digitsEnd
    have hdrop := dropWhile_digits hdigits.2 hend.digitsEnd
    have hread := readSign_powerSign hsign hdigits rest
    cases digits with
    | nil => exact absurd rfl hdigits.1
    | cons d digits =>
      unfold readPower
      simp only [List.cons_append, List.append_assoc] at htake hdrop hread ⊢
      rw [if_pos (by simpa using hmark), hread]
      simp only [htake, hdrop]

/-- and so is what is read as a power of ten. -/
lemma readPower_sound {text power rest} (h : readPower text = .ok (power, rest)) :
    ∃ mark, text = mark ++ rest ∧ PowerOfTen mark power := by
  unfold readPower at h
  split at h
  · cases h
    exact ⟨[], rfl, .none⟩
  next c text =>
  split at h
  · next hmark =>
    obtain ⟨sign, etext, hsign⟩ := readSign_sound text
    generalize readSign text = signed at h etext hsign
    obtain ⟨negative, after⟩ := signed
    simp only at h etext hsign
    split at h
    · cases h
    · cases h
    · next after _ _ hne _ =>
      cases h
      refine ⟨c :: sign ++ after.takeWhile Char.isDigit, ?_,
        .some (by simpa using hmark) hsign (digits_takeWhile hne)⟩
      rw [List.append_assoc, List.takeWhile_append_dropWhile, List.cons_append, ← etext]
  · cases h
    exact ⟨[], rfl, .none⟩

/-! ## Numerals -/

/-- Neither a digit nor a point follows what comes before a power of ten. -/
lemma power_ends {mark power rest} (h : PowerOfTen mark power) (hend : NumberEnds rest) :
    DigitsEnd (mark ++ rest) ∧ ∀ c ∈ (mark ++ rest).head?, c ≠ '.' := by
  cases h with
  | none => exact ⟨hend.digitsEnd, fun c hc => (hend c hc).2.1⟩
  | some hmark _ _ =>
    refine ⟨?_, ?_⟩
    · rintro c ⟨⟩
      obtain rfl | rfl := hmark
      · rfl
      · rfl
    · rintro c ⟨⟩
      obtain rfl | rfl := hmark
      · decide
      · decide

/-- No digit follows the whole digits. -/
lemma fraction_ends {point fraction rest} (h : Fraction point fraction) (hend : DigitsEnd rest) :
    DigitsEnd (point ++ rest) := by
  cases h with
  | none => exact hend
  | some _ =>
    rintro c ⟨⟩
    rfl

/-- The parts of a numeral are read back one after the other. -/
lemma readUnsigned_parts {whole point mark fraction power rest} (negative : Bool)
    (hwhole : Whole whole) (hfraction : Fraction point fraction) (hpower : PowerOfTen mark power)
    (hend : NumberEnds rest) :
    readUnsigned negative (whole ++ (point ++ (mark ++ rest))) =
      .ok (⟨negative, whole, fraction, power⟩, rest) := by
  obtain ⟨hdigits, hpoint⟩ := power_ends hpower hend
  unfold readUnsigned
  rw [readWhole_whole hwhole (fraction_ends hfraction hdigits)]
  simp only [bind, Except.bind]
  rw [readFraction_fraction hfraction hdigits hpoint]
  simp only
  rw [readPower_powerOfTen hpower hend]
  rfl

/-- Behind its sign a numeral is read as it is spelled. -/
lemma readUnsigned_sound {negative text n rest} (h : readUnsigned negative text = .ok (n, rest)) :
    ∃ unsigned, text = unsigned ++ rest ∧
      ∀ sign, Sign sign negative → IsNumeral (sign ++ unsigned) n := by
  obtain ⟨⟨whole, afterWhole⟩, hw, h⟩ := ok_of_bind_eq_ok h
  obtain ⟨⟨fraction, afterFraction⟩, hf, h⟩ := ok_of_bind_eq_ok h
  obtain ⟨⟨power, afterPower⟩, hp, h⟩ := ok_of_bind_eq_ok h
  cases h
  obtain ⟨rfl, hwhole⟩ := readWhole_sound hw
  obtain ⟨point, rfl, hfraction⟩ := readFraction_sound hf
  obtain ⟨mark, rfl, hpower⟩ := readPower_sound hp
  refine ⟨whole ++ point ++ mark, by simp only [List.append_assoc], fun sign hsign => ?_⟩
  have hnumeral := IsNumeral.mk hsign hwhole hfraction hpower
  rw [List.append_assoc, List.append_assoc, ← List.append_assoc whole] at hnumeral
  exact hnumeral

/-- A whole number begins with a digit. -/
lemma exists_digit_of_whole {whole} (h : Whole whole) :
    ∃ c cs, whole = c :: cs ∧ c.isDigit = true := by
  cases h with
  | zero => exact ⟨'0', [], rfl, rfl⟩
  | @digits c cs _ hdigits => exact ⟨c, cs, rfl, hdigits.2 c List.mem_cons_self⟩

/-- A numeral of the grammar is read back where a number ends. -/
lemma scan_numeral {text n rest} (h : IsNumeral text n) (hend : NumberEnds rest) :
    scan (text ++ rest) = .ok (n, rest) := by
  obtain @⟨sign, whole, point, mark, negative, fraction, power, hsign, hwhole, hfraction,
    hpower⟩ := h
  have hparts := readUnsigned_parts negative hwhole hfraction hpower hend
  simp only [List.append_assoc]
  cases hsign with
  | minus => exact hparts
  | none =>
    -- A digit comes first, which the reader cannot take for a minus.
    obtain ⟨c, cs, rfl, hc⟩ := exists_digit_of_whole hwhole
    unfold scan
    split
    · next e =>
      obtain ⟨rfl, -⟩ := List.cons.inj e
      exact absurd hc (by decide)
    · exact hparts

/-- What is scanned as a numeral is one. -/
lemma scan_sound {text n rest} (h : scan text = .ok (n, rest)) :
    ∃ numeral, text = numeral ++ rest ∧ IsNumeral numeral n := by
  unfold scan at h
  split at h
  · obtain ⟨unsigned, rfl, hnumeral⟩ := readUnsigned_sound h
    exact ⟨'-' :: unsigned, rfl, hnumeral ['-'] .minus⟩
  · obtain ⟨unsigned, rfl, hnumeral⟩ := readUnsigned_sound h
    exact ⟨unsigned, rfl, hnumeral [] .none⟩

/-- What is read as a number is a numeral within the range of numbers. -/
lemma read_sound {text n rest} (h : read text = .ok (n, rest)) :
    ∃ numeral, text = numeral ++ rest ∧ IsNumeral numeral n ∧ n.overflow = none := by
  obtain ⟨⟨n', rest'⟩, hs, h⟩ := ok_of_bind_eq_ok h
  simp only at h
  split at h
  · cases h
  · next hrange =>
    cases h
    obtain ⟨numeral, rfl, hnumeral⟩ := scan_sound hs
    exact ⟨numeral, rfl, hnumeral, hrange⟩

/-! ## Plain integers -/

/-- Further digits make no number smaller. -/
lemma le_ofDigitChars (digits : List Char) (n : Nat) : n ≤ Nat.ofDigitChars 10 digits n := by
  induction digits generalizing n with
  | nil => exact Nat.le_of_eq Nat.ofDigitChars_nil.symm
  | cons c digits ih =>
    have hle := ih (10 * n + (c.toNat - '0'.toNat))
    rw [Nat.ofDigitChars_cons]
    omega

/-- Digits that denote a number within the limit are all appended. -/
lemma absorb_of_le {limit : Nat} (digits : List Char) (n : Nat)
    (h : Nat.ofDigitChars 10 digits n ≤ limit) :
    absorb limit n digits = (Nat.ofDigitChars 10 digits n, []) := by
  induction digits generalizing n with
  | nil => rw [absorb, Nat.ofDigitChars_nil]
  | cons c digits ih =>
    rw [Nat.ofDigitChars_cons] at h ⊢
    have e : 10 * n + (c.toNat - '0'.toNat) = n * 10 + Text.digit c := by
      rw [Text.digit, Nat.mul_comm]
    rw [e] at h ⊢
    have hle := le_ofDigitChars digits (n * 10 + Text.digit c)
    rw [absorb, if_pos (Nat.le_trans hle h)]
    exact ih _ h

/-- A plain integer of 64 bits is within the range of numbers. -/
lemma IsPlainWord.overflow_eq_none {n : Numeral} (h : n.IsPlainWord) : n.overflow = none := by
  obtain ⟨hfraction, hpower, hrange⟩ := h
  have hword : Nat.ofDigitChars 10 n.whole 0 ≤ maxWord := by
    unfold maxWord
    split at hrange
    · omega
    · exact hrange
  simp only [overflow, significand, hfraction, hpower, absorb_of_le _ _ hword, Option.getD_none,
    absorb, tooLarge]
  rfl

end Numeral

end Gatekeeper.Json
