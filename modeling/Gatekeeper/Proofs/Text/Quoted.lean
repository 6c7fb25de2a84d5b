import Mathlib.Tactic.Lemma
import Gatekeeper.Text.Basic
import Gatekeeper.Text.Quoted

/-!
# Reading quoted text

Text in quotes can be read back, and where it ends is told by the text alone, whatever follows. So
no quoted text is the beginning of another one. What stands between the quotes are printable
characters.

The reader `readQuoted` goes through quoted text in one recursion and keeps in mind where it stands.
`readQuoted_escape` has a case for each shape of a character in quoted text, `unquote_quote` puts
them together, and `quote_append_inj` follows from reading both sides.
-/

namespace Gatekeeper.Text

/-! ## The reader -/

/-- What a backslash and this character stand for in quoted text. -/
def unescape : Char → Option Char
  | '0' => some '\x00'
  | 't' => some '\t'
  | 'n' => some '\n'
  | 'r' => some '\r'
  | '\"' => some '\"'
  | '\\' => some '\\'
  | _ => none

/-- Where a reader of quoted text stands: before a character, behind a backslash, behind that and
the letter `u`, or among the digits after that, with the number they denote so far. -/
inductive Reading where
  | plain
  | escape
  | number
  | digits (value : Nat)

/-- What was read, with one more character in front. -/
def keep (c : Char) (read : Option (List Char × List Char)) : Option (List Char × List Char) :=
  read.map fun (text, rest) => (c :: text, rest)

/-- The characters up to the closing quote, and what follows that. -/
def readQuoted : Reading → List Char → Option (List Char × List Char)
  | _, [] => none
  | .plain, c :: cs =>
    if c = '\"' then some ([], cs)
    else if c = '\\' then readQuoted .escape cs
    else keep c (readQuoted .plain cs)
  | .escape, c :: cs =>
    if c = 'u' then readQuoted .number cs
    else
      match unescape c with
      | some d => keep d (readQuoted .plain cs)
      | none => none
  | .number, c :: cs => if c = '\x7b' then readQuoted (.digits 0) cs else none
  | .digits value, c :: cs =>
    if c = '\x7d' then keep (Char.ofNat value) (readQuoted .plain cs)
    else
      match hexDigit c with
      | some d => readQuoted (.digits (value * 16 + d)) cs
      | none => none

/-- The text that quoted text stands for, and what follows the closing quote. -/
def unquote (quoted : String) : Option (String × String) :=
  match quoted.toList with
  | '\"' :: cs => (readQuoted .plain cs).map fun (text, rest) => (.ofList text, .ofList rest)
  | _ => none

/-! ## Numbers in hexadecimal -/

/-- A hexadecimal digit is read as the number that it is written for. -/
lemma hexDigit_digitChar {d : Nat} (h : d < 16) : hexDigit d.digitChar = some d := by
  have hall : ∀ d < 16, hexDigit (Nat.digitChar d) = some d := by decide
  exact hall d h

/-- The digits of a number are read as that number. -/
lemma readQuoted_toDigits (n : Nat) (rest : List Char) :
    readQuoted (.digits 0) (Nat.toDigits 16 n ++ rest) = readQuoted (.digits n) rest := by
  have hbrace : ∀ d < 16, Nat.digitChar d ≠ '\x7d' := by decide
  have hstep : ∀ value d rest, d < 16 → readQuoted (.digits value) (Nat.digitChar d :: rest) =
      readQuoted (.digits (value * 16 + d)) rest := by
    intro value d rest hd
    rw [readQuoted, if_neg (hbrace d hd), hexDigit_digitChar hd]
  induction n using Nat.strongRecOn generalizing rest with
  | ind n ih =>
    by_cases hn : n < 16
    · rw [Nat.toDigits_of_lt_base hn, List.singleton_append, hstep 0 n rest hn, Nat.zero_mul,
        Nat.zero_add]
    · have hle : 16 ≤ n := Nat.le_of_not_lt hn
      have hlast : n % 16 < 16 := Nat.mod_lt n (by decide)
      rw [Nat.toDigits_of_base_le (by decide) hle, List.append_assoc, List.singleton_append,
        ih (n / 16) (by omega), hstep _ _ rest hlast, Nat.div_add_mod']

/-! ## Texts -/

/-- A character is read back from the shape it has in quoted text. -/
lemma readQuoted_escape (c : Char) (rest : List Char) :
    readQuoted .plain (escape c ++ rest) = keep c (readQuoted .plain rest) := by
  unfold escape
  split
  · rfl
  · rfl
  · rfl
  · rfl
  · rfl
  · rfl
  · next hquote hbackslash =>
    split
    · rw [List.singleton_append, readQuoted, if_neg hquote, if_neg hbackslash]
    · rw [List.append_assoc, List.append_assoc]
      show readQuoted (.digits 0) (Nat.toDigits 16 c.toNat ++ '\x7d' :: rest) = _
      rw [readQuoted_toDigits, readQuoted, if_pos rfl, Char.ofNat_toNat]

/-- Escaped characters up to a quote are read as those characters. -/
lemma readQuoted_flatMap (cs rest : List Char) :
    readQuoted .plain (cs.flatMap escape ++ '\"' :: rest) = some (cs, rest) := by
  induction cs with
  | nil => rfl
  | cons c cs ih =>
    rw [List.flatMap_cons, List.append_assoc, readQuoted_escape, ih]
    rfl

/-- Quoted text is read back, and reading ends at its closing quote, whatever follows. -/
lemma unquote_quote (text rest : String) : unquote (quote text ++ rest) = some (text, rest) := by
  have hlist : (quote text ++ rest).toList =
      '\"' :: (text.toList.flatMap escape ++ '\"' :: rest.toList) := by
    rw [quote, String.toList_append, String.toList_ofList, List.cons_append, List.cons_append,
      List.append_assoc]
    rfl
  simp only [unquote, hlist, readQuoted_flatMap, Option.map_some, String.ofList_toList]

/-- No quoted text is the beginning of another one. -/
lemma quote_append_inj {a b x y : String} (h : quote a ++ x = quote b ++ y) : a = b ∧ x = y := by
  have hread := unquote_quote a x
  rw [h, unquote_quote, Option.some.injEq, Prod.mk.injEq] at hread
  exact ⟨hread.1.symm, hread.2.symm⟩

/-! ## Characters -/

/-- Digits are printable. -/
lemma isPrintable_of_mem_toDigits {n : Nat} {c : Char} (h : c ∈ Nat.toDigits 16 n) :
    isPrintable c = true := by
  have hall : ∀ d < 16, isPrintable (Nat.digitChar d) = true := by decide
  induction n using Nat.strongRecOn with
  | ind n ih =>
    by_cases hn : n < 16
    · rw [Nat.toDigits_of_lt_base hn, List.mem_singleton] at h
      rw [h]
      exact hall n hn
    · rw [Nat.toDigits_of_base_le (by decide) (Nat.le_of_not_lt hn), List.mem_append,
        List.mem_singleton] at h
      obtain h | rfl := h
      · exact ih (n / 16) (by omega) h
      · exact hall _ (Nat.mod_lt n (by decide))

/-- However a character is escaped, what it is written with is printable. -/
lemma isPrintable_of_mem_escape {c d : Char} (h : d ∈ escape c) : isPrintable d = true := by
  have hshort : ∀ form : List Char, form.all isPrintable = true → d ∈ form →
      isPrintable d = true := fun form hall => List.all_eq_true.1 hall d
  unfold escape at h
  split at h
  · exact hshort _ (by decide) h
  · exact hshort _ (by decide) h
  · exact hshort _ (by decide) h
  · exact hshort _ (by decide) h
  · exact hshort _ (by decide) h
  · exact hshort _ (by decide) h
  · split at h
    · next hprintable =>
      rw [List.mem_singleton.1 h]
      exact hprintable
    · rw [List.mem_append, List.mem_append] at h
      obtain (h | h) | h := h
      · exact hshort _ (by decide) h
      · exact isPrintable_of_mem_toDigits h
      · exact hshort _ (by decide) h

/-- Whatever a text holds, quoted it is made of printable characters. -/
lemma isPrintable_of_mem_quote {text : String} {c : Char} (h : c ∈ (quote text).toList) :
    isPrintable c = true := by
  rw [quote, String.toList_ofList, List.cons_append, List.mem_cons, List.mem_append,
    List.mem_flatMap, List.mem_singleton] at h
  obtain rfl | ⟨d, -, h⟩ | rfl := h
  · decide
  · exact isPrintable_of_mem_escape h
  · decide

end Gatekeeper.Text
