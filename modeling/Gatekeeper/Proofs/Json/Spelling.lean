import Gatekeeper.Proofs.Json.Grammar

/-!
# Reading string literals

The reader of string literals takes exactly the spellings of the grammar: every way to write a
character is read back as that character, and whatever is read was one of those ways. The numbers
of surrogates come together in the one place where a pair is put into a character and taken apart
again.

Each level of a literal has a lemma in both directions: units of four digits (`readUnit_hexUnit`,
`readUnit_sound`), escapes (`readEscape_spelling`, `readEscape_sound`), bodies up to the closing
quote (`readBody_spellsAll`, `readBody_sound`) and literals (`read_literal`, `read_sound`). The
reader of bodies counts the characters of an escape that it has yet to pass over; `readBody_skip`
takes it past them.
-/

namespace Gatekeeper.Json

/-- The character of a code has that code, if it is one. -/
lemma toNat_ofNat {n : Nat} (h : n.isValidChar) : (Char.ofNat n).toNat = n := by
  unfold Char.ofNat
  rw [dif_pos h]
  rfl

/-- There are no more characters than bytes. -/
lemma length_le_size (text : List Char) : text.length ≤ Text.size text := by
  induction text with
  | nil => exact Nat.le_refl 0
  | cons c text ih =>
    have h := c.utf8Size_pos
    rw [List.length_cons, Text.size]
    omega

/-- What comes of changing a result comes of the result. -/
lemma ok_of_map_eq_ok {ε α β : Type} {r : Except ε α} {f : α → β} {b : β}
    (h : r.map f = .ok b) : ∃ a, r = .ok a ∧ f a = b := by
  cases r with
  | error e => cases h
  | ok a => exact ⟨a, rfl, Except.ok.inj h⟩

/-- A result of two steps comes of a result of the first. -/
lemma ok_of_bind_eq_ok {ε α β : Type} {r : Except ε α} {f : α → Except ε β} {b : β}
    (h : r >>= f = .ok b) : ∃ a, r = .ok a ∧ f a = .ok b := by
  cases r with
  | error e => cases h
  | ok a => exact ⟨a, rfl, h⟩

/-! ## Hexadecimal digits -/

/-- The reader knows the value of every hexadecimal digit, in either case. -/
lemma HexDigit.hexDigit_eq {c n} (h : HexDigit c n) : Text.hexDigit c = some n := by
  have all : ∀ n < 16, Text.hexDigit (Nat.digitChar n) = some n ∧
      Text.hexDigit (Nat.digitChar n).toUpper = some n := by decide
  obtain ⟨hn, rfl | rfl⟩ := h
  · exact (all n hn).1
  · exact (all n hn).2

/-- What the reader takes for a hexadecimal digit is one. -/
lemma hexDigit_sound {c n} (h : Text.hexDigit c = some n) : HexDigit c n := by
  have all : ∀ k < 0x80, ∀ n ∈ Text.hexDigit (Char.ofNat k),
      n < 16 ∧ (Char.ofNat k = Nat.digitChar n ∨ Char.ofNat k = (Nat.digitChar n).toUpper) := by
    decide +kernel
  have ascii : c.toNat < 0x80 := by
    unfold Text.hexDigit at h
    split at h
    · next hc =>
      have hle : c.toNat ≤ 0x39 := (Char.isDigit_iff_toNat.1 hc).2
      omega
    split at h
    · next hc =>
      have hle : c.toNat ≤ 0x66 := UInt32.le_iff_toNat_le.1 hc.2
      omega
    split at h
    · next hc =>
      have hle : c.toNat ≤ 0x46 := UInt32.le_iff_toNat_le.1 hc.2
      omega
    · cases h
  have hc := all c.toNat ascii n
  rw [Char.ofNat_toNat] at hc
  exact hc h

/-- A unit has four digits, -/
lemma HexUnit.length_eq {digits n} (h : HexUnit digits n) : digits.length = 4 := by
  cases h
  rfl

/-- which make up sixteen bits. -/
lemma HexUnit.lt {digits n} (h : HexUnit digits n) : n < 0x10000 := by
  cases h with
  | mk ha hb hc hd =>
    have := ha.1
    have := hb.1
    have := hc.1
    have := hd.1
    omega

namespace StringLiteral

/-- Four hexadecimal digits are read as the number they denote. -/
lemma readUnit_hexUnit {digits n} (h : HexUnit digits n) (rest : List Char) :
    readUnit (digits ++ rest) = .ok n := by
  have hsize : ¬ Text.size (digits ++ rest) < 4 := by
    have := length_le_size (digits ++ rest)
    rw [List.length_append, h.length_eq] at this
    omega
  cases h with
  | @mk a b c d k l m n ha hb hc hd =>
    have hnumber : hexNumber a b c d = some (0x1000 * k + 0x100 * l + 0x10 * m + n) := by
      simp only [hexNumber, ha.hexDigit_eq, hb.hexDigit_eq, hc.hexDigit_eq, hd.hexDigit_eq]
      apply congrArg some
      omega
    unfold readUnit
    rw [if_neg hsize]
    simp only [List.cons_append, List.nil_append, hnumber]

/-- What is read as a unit is spelled by four hexadecimal digits. -/
lemma readUnit_sound {text n} (h : readUnit text = .ok n) :
    ∃ digits rest, text = digits ++ rest ∧ HexUnit digits n := by
  unfold readUnit at h
  split at h
  · cases h
  split at h
  · next a b c d rest _ =>
    split at h
    · next n' hn =>
      cases h
      simp only [hexNumber, Option.bind_eq_bind, Option.bind_eq_some_iff, Option.pure_def,
        Option.some.injEq] at hn
      obtain ⟨k, ha, l, hb, m, hc, n, hd, rfl⟩ := hn
      refine ⟨[a, b, c, d], rest, rfl, ?_⟩
      have hunit := HexUnit.mk (hexDigit_sound ha) (hexDigit_sound hb) (hexDigit_sound hc)
        (hexDigit_sound hd)
      rw [show ((k * 16 + l) * 16 + m) * 16 + n = 0x1000 * k + 0x100 * l + 0x10 * m + n by omega]
      exact hunit
    · cases h
  · cases h

/-! ## Surrogates -/

/-- The two surrogates of a character beyond `U+FFFF` are a first and a second half, and denote
it. -/
lemma ofPair_halves {c : Char} (h : 0x10000 ≤ c.toNat) :
    isHigh (0xD800 + (c.toNat - 0x10000) / 0x400) = true ∧
    isLow (0xDC00 + (c.toNat - 0x10000) % 0x400) = true ∧
    ofPair (0xD800 + (c.toNat - 0x10000) / 0x400) (0xDC00 + (c.toNat - 0x10000) % 0x400) = c := by
  have hmax : c.toNat < 0x110000 := by
    obtain h | h := c.valid
    · exact Nat.lt_trans h (by decide)
    · exact h.2
  refine ⟨?_, ?_, ?_⟩
  · simp only [isHigh, Bool.and_eq_true, decide_eq_true_eq]
    omega
  · simp only [isLow, Bool.and_eq_true, decide_eq_true_eq]
    omega
  · have e : 0x10000 + (0xD800 + (c.toNat - 0x10000) / 0x400 - 0xD800) * 0x400 +
        (0xDC00 + (c.toNat - 0x10000) % 0x400 - 0xDC00) = c.toNat := by omega
    rw [ofPair, e, Char.ofNat_toNat]

/-- A first and a second half denote a character beyond `U+FFFF`, whose surrogates they are. -/
lemma halves_ofPair {high low : Nat} (hhigh : isHigh high = true) (hlow : isLow low = true) :
    0x10000 ≤ (ofPair high low).toNat ∧
    high = 0xD800 + ((ofPair high low).toNat - 0x10000) / 0x400 ∧
    low = 0xDC00 + ((ofPair high low).toNat - 0x10000) % 0x400 := by
  simp only [isHigh, isLow, Bool.and_eq_true, decide_eq_true_eq] at hhigh hlow
  have valid : (0x10000 + (high - 0xD800) * 0x400 + (low - 0xDC00)).isValidChar := by
    right
    omega
  rw [ofPair, toNat_ofNat valid]
  omega

/-- No unit is both halves of a pair. -/
lemma isLow_of_isHigh {n : Nat} (h : isHigh n = true) : isLow n = false := by
  simp only [isHigh, isLow, Bool.and_eq_true, Bool.and_eq_false_iff, decide_eq_true_eq,
    decide_eq_false_iff_not] at h ⊢
  omega

/-- The number of a character is not that of a surrogate. -/
lemma not_surrogate (c : Char) : isLow c.toNat = false ∧ isHigh c.toNat = false := by
  have valid : c.toNat < 0xD800 ∨ 0xDFFF < c.toNat := by
    obtain h | h := c.valid
    · exact .inl h
    · exact .inr h.1
  simp only [isLow, isHigh, Bool.and_eq_false_iff, decide_eq_false_iff_not]
  omega

/-! ## Escapes -/

/-- The second half of a pair is read behind its backslash, -/
lemma readLow_hexUnit {digits n} (h : HexUnit digits n) (hlow : isLow n = true)
    (rest : List Char) : readLow ('\\' :: 'u' :: digits ++ rest) = .ok n := by
  simp only [List.cons_append, readLow, readUnit_hexUnit h, bind, Except.bind]
  exact if_pos hlow

/-- and nothing else is read as one. -/
lemma readLow_sound {text n} (h : readLow text = .ok n) :
    ∃ digits rest, text = '\\' :: 'u' :: digits ++ rest ∧ HexUnit digits n ∧ isLow n = true := by
  unfold readLow at h
  split at h
  · cases h
  · cases h
  · obtain ⟨low, hu, h⟩ := ok_of_bind_eq_ok h
    split at h
    · next hlow =>
      cases h
      obtain ⟨digits, tail, rfl, hunit⟩ := readUnit_sound hu
      exact ⟨digits, tail, rfl, hunit, hlow⟩
    · cases h
  · cases h
  · cases h

/-- An escape is read as the character it is a spelling of, and told apart from what follows. -/
lemma readEscape_spelling {escape c} (h : Spells ('\\' :: escape) c) (rest : List Char) :
    readEscape (escape ++ rest) = .ok (c, escape.length) := by
  cases h with
  | raw _ _ hne => exact absurd rfl hne
  | short hshort => cases hshort <;> rfl
  | unit hunit =>
    obtain ⟨hlow, hhigh⟩ := not_surrogate c
    simp only [List.cons_append, readEscape, readUnit_hexUnit hunit, bind, Except.bind, hlow,
      hhigh, Char.ofNat_toNat, List.length_cons, hunit.length_eq]
    rfl
  | @pair high low _ hbeyond hhigh hlow =>
    obtain ⟨firstHalf, secondHalf, e⟩ := ofPair_halves hbeyond
    have hdrop : (high ++ ('\\' :: 'u' :: low ++ rest)).drop 4 = '\\' :: 'u' :: low ++ rest :=
      List.drop_left' hhigh.length_eq
    have hlength : ('u' :: (high ++ '\\' :: 'u' :: low)).length = 11 := by
      simp only [List.length_append, List.length_cons, hhigh.length_eq, hlow.length_eq]
    rw [hlength, List.cons_append, List.append_assoc]
    simp only [readEscape, readUnit_hexUnit hhigh, bind, Except.bind, isLow_of_isHigh firstHalf,
      firstHalf, hdrop, readLow_hexUnit hlow secondHalf, e]
    rfl

/-- What is read as an escape is a spelling of the character that comes of it. -/
lemma readEscape_sound {text c n} (h : readEscape text = .ok (c, n)) :
    ∃ escape rest, text = escape ++ rest ∧ escape.length = n ∧ Spells ('\\' :: escape) c := by
  unfold readEscape at h
  split at h
  · cases h
  · obtain ⟨n, hu, h⟩ := ok_of_bind_eq_ok h
    obtain ⟨digits, tail, rfl, hunit⟩ := readUnit_sound hu
    rw [List.drop_left' hunit.length_eq] at h
    split at h
    · cases h
    next hlow =>
    split at h
    · next hhigh =>
      obtain ⟨low, hl, h⟩ := ok_of_bind_eq_ok h
      simp only [pure, Except.pure, Except.ok.injEq, Prod.mk.injEq] at h
      obtain ⟨rfl, rfl⟩ := h
      obtain ⟨lowDigits, tail, rfl, hlowUnit, hlow⟩ := readLow_sound hl
      obtain ⟨hbeyond, ehigh, elow⟩ := halves_ofPair hhigh hlow
      refine ⟨'u' :: (digits ++ '\\' :: 'u' :: lowDigits), tail, by simp, ?_, ?_⟩
      · simp only [List.length_append, List.length_cons, hunit.length_eq, hlowUnit.length_eq]
      · rw [ehigh] at hunit
        rw [elow] at hlowUnit
        exact Spells.pair hbeyond hunit hlowUnit
    · next hhigh =>
      cases h
      have valid : n.isValidChar := by
        have := hunit.lt
        simp only [isLow, isHigh, Bool.and_eq_true, decide_eq_true_eq] at hlow hhigh
        unfold Nat.isValidChar
        omega
      refine ⟨'u' :: digits, tail, rfl, by rw [List.length_cons, hunit.length_eq], ?_⟩
      apply Spells.unit
      rw [toNat_ofNat valid]
      exact hunit
  · next letter rest _ =>
    split at h
    · next d hd =>
      cases h
      refine ⟨[letter], rest, rfl, rfl, Spells.short ?_⟩
      unfold shortEscape at hd
      split at hd
      all_goals cases hd
      · exact .quote
      · exact .backslash
      · exact .slash
      · exact .backspace
      · exact .formFeed
      · exact .lineFeed
      · exact .carriageReturn
      · exact .tab
    · cases h

/-! ## Bodies -/

/-- The characters of an escape that has been read are passed over. -/
lemma readBody_skip (skipped rest : List Char) :
    readBody skipped.length (skipped ++ rest) = readBody 0 rest := by
  induction skipped with
  | nil => rfl
  | cons c skipped ih => exact ih

/-- A spelling is read as its character, before the rest of the body. -/
lemma readBody_spelling {spelling c} (h : Spells spelling c) (rest : List Char) :
    readBody 0 (spelling ++ rest) = (readBody 0 rest).map fun (cs, rest) => (c :: cs, rest) := by
  have escaped : ∀ escape, Spells ('\\' :: escape) c →
      readBody 0 ('\\' :: escape ++ rest) =
        (readBody 0 rest).map fun (cs, rest) => (c :: cs, rest) := by
    intro escape h
    rw [List.cons_append, readBody, if_neg (by decide), if_pos (by decide)]
    simp only [readEscape_spelling h rest, readBody_skip]
  cases h with
  | raw hprintable hquote hbackslash =>
    have hcontrol : ¬ c.toNat < 0x20 := by omega
    rw [List.cons_append, List.nil_append, readBody, if_neg (by simpa using hquote),
      if_neg (by simpa using hbackslash), if_neg hcontrol]
  | short hshort => exact escaped _ (.short hshort)
  | unit hunit => exact escaped _ (.unit hunit)
  | pair hbeyond hhigh hlow => exact escaped _ (.pair hbeyond hhigh hlow)

/-- The body of a literal is read as the characters it spells, up to the closing quote. -/
lemma readBody_spellsAll {body cs} (h : SpellsAll body cs) (rest : List Char) :
    readBody 0 (body ++ '\"' :: rest) = .ok (cs, rest) := by
  induction h with
  | nil => rfl
  | cons hspells _ ih =>
    rw [List.append_assoc, readBody_spelling hspells, ih]
    rfl

/-- What is read up to the closing quote is a spelling of the characters that come of it. -/
lemma readBody_sound {pending text cs rest} (h : readBody pending text = .ok (cs, rest)) :
    ∃ skipped body, text = skipped ++ body ++ '\"' :: rest ∧ skipped.length = pending ∧
      SpellsAll body cs := by
  induction text generalizing pending cs with
  | nil => cases pending <;> cases h
  | cons c text ih =>
    cases pending with
    | succ pending =>
      obtain ⟨skipped, body, rfl, rfl, hbody⟩ := ih h
      exact ⟨c :: skipped, body, rfl, rfl, hbody⟩
    | zero =>
      rw [readBody] at h
      split at h
      · next hquote =>
        cases h
        exact ⟨[], [], by rw [eq_of_beq hquote]; rfl, rfl, .nil⟩
      next hquote =>
      split at h
      · next hbackslash =>
        split at h
        · cases h
        · next d length he =>
          obtain ⟨⟨cs, rest⟩, hr, e⟩ := ok_of_map_eq_ok h
          cases e
          obtain ⟨skipped, body, rfl, rfl, hbody⟩ := ih hr
          -- The escape that was read is what the rest of the body passes over.
          obtain ⟨escape, tail, etext, elength, hspells⟩ := readEscape_sound he
          rw [List.append_assoc] at etext
          obtain ⟨rfl, -⟩ := List.append_inj etext elength.symm
          refine ⟨[], '\\' :: skipped ++ body, ?_, rfl, .cons hspells hbody⟩
          rw [eq_of_beq hbackslash]
          rfl
      next hbackslash =>
      split at h
      · cases h
      next hcontrol =>
      obtain ⟨⟨cs, rest⟩, hr, e⟩ := ok_of_map_eq_ok h
      cases e
      obtain ⟨skipped, body, rfl, hskipped, hbody⟩ := ih hr
      obtain rfl := List.length_eq_zero_iff.1 hskipped
      have hspells : Spells [c] c :=
        .raw (Nat.le_of_not_lt hcontrol) (by simpa using hquote) (by simpa using hbackslash)
      exact ⟨[], [c] ++ body, rfl, rfl, .cons hspells hbody⟩

/-- A literal is read as its text, from just after the opening quote. -/
lemma read_literal {literal s} (h : Literal literal s) :
    ∃ tail, literal = '\"' :: tail ∧ ∀ rest, read (tail ++ rest) = .ok (s, rest) := by
  obtain @⟨body, cs, hbody⟩ := h
  refine ⟨body ++ ['\"'], rfl, fun rest => ?_⟩
  rw [read, List.append_assoc]
  exact congrArg _ (readBody_spellsAll hbody rest)

/-- What is read from just after a quote is a literal with the text that comes of it. -/
lemma read_sound {text s rest} (h : read text = .ok (s, rest)) :
    ∃ literal, Literal literal s ∧ '\"' :: text = literal ++ rest := by
  obtain ⟨⟨cs, rest⟩, hr, e⟩ := ok_of_map_eq_ok h
  cases e
  obtain ⟨skipped, body, rfl, hskipped, hbody⟩ := readBody_sound hr
  obtain rfl := List.length_eq_zero_iff.1 hskipped
  exact ⟨'\"' :: body ++ ['\"'], .mk hbody, by simp⟩

end StringLiteral

end Gatekeeper.Json
