import Gatekeeper.Proofs.Text.Encoding
import Gatekeeper.Proofs.Text.Places

/-!
# Texts with the same front

Two texts that have their first bytes in common have the characters in common that those bytes are
made of. The bytes may end inside a character; that of the other text may then be another one, but
neither of the two is of ASCII.

`SameFront n` is that two texts have their first `n` bytes in common. A common byte makes the first
characters `Alike` (`SameFront.exists_cons`), and a whole text in common makes it a beginning of the
other (`SameFront.exists_append`). `SameStart` is the same for a single byte. The lemmas on `Alike`
at the end are how a reader's tests on characters are answered: a test that characters of ASCII
alone pass has one result for two characters that are alike.
-/

namespace Gatekeeper.Text

variable {m n : Nat} {a b front back other : List Char} {c d : Char}

/-- The two texts have that many bytes, and their first ones in common. -/
def SameFront (n : Nat) (a b : List Char) : Prop :=
  n ≤ size a ∧
    (a.flatMap String.utf8EncodeChar).take n = (b.flatMap String.utf8EncodeChar).take n

/-- The two characters are the same one, or neither of them is of ASCII. -/
def Alike (c d : Char) : Prop :=
  c = d ∨ 0x80 ≤ c.toNat ∧ 0x80 ≤ d.toNat

/-- A text has the same front as itself. -/
lemma sameFront_self (h : n ≤ size a) : SameFront n a a := ⟨h, rfl⟩

/-- The front lies within the second text as well. -/
lemma SameFront.le_size (h : SameFront n a b) : n ≤ size b := by
  have hlength := congrArg List.length h.2
  rw [List.length_take, List.length_take, length_encoding, length_encoding,
    Nat.min_eq_left h.1] at hlength
  rw [hlength]
  exact Nat.min_le_right n (size b)

/-- Neither of two texts with the same front comes first. -/
lemma SameFront.symm (h : SameFront n a b) : SameFront n b a := ⟨h.le_size, h.2.symm⟩

/-- A shorter front is the same, too. -/
lemma SameFront.mono (h : SameFront n a b) (hm : m ≤ n) : SameFront m a b := by
  have htake := congrArg (List.take m) h.2
  rw [List.take_take, List.take_take, Nat.min_eq_left hm] at htake
  exact ⟨Nat.le_trans hm h.1, htake⟩

/-- A text begins with another one if its bytes do. -/
lemma isPrefix_of_encoding
    (h : a.flatMap String.utf8EncodeChar <+: b.flatMap String.utf8EncodeChar) : a <+: b := by
  obtain ⟨bytes, h⟩ := h
  apply List.isPrefix_of_utf8Encode_append_eq_utf8Encode bytes.toByteArray
  rw [List.utf8Encode, ← List.toByteArray_append, h, List.utf8Encode]

/-- A text that has the bytes of a front in common, and some more, has the front and goes on with
the bytes that are left. -/
lemma sameFront_append :
    SameFront (size front + n) (front ++ back) other ↔
      ∃ behind, other = front ++ behind ∧ SameFront n back behind := by
  have htake : ∀ behind, ((front ++ behind).flatMap String.utf8EncodeChar).take (size front + n) =
      front.flatMap String.utf8EncodeChar ++ (behind.flatMap String.utf8EncodeChar).take n := by
    intro behind
    rw [List.flatMap_append, ← length_encoding, List.take_length_add_append]
  constructor
  · rintro ⟨hsize, h⟩
    rw [htake] at h
    have hprefix : front <+: other := by
      apply isPrefix_of_encoding
      exact (List.prefix_append _ _).trans (h ▸ List.take_prefix _ _)
    obtain ⟨behind, rfl⟩ := hprefix
    rw [htake] at h
    rw [size_append] at hsize
    exact ⟨behind, rfl, by omega, List.append_cancel_left h⟩
  · rintro ⟨behind, rfl, hsize, h⟩
    refine ⟨?_, ?_⟩
    · rw [size_append]
      omega
    · rw [htake, htake, h]

/-- A text that has all of another one as its front begins with that one. -/
lemma SameFront.exists_append (h : SameFront (size front) (front ++ back) other) :
    ∃ behind, other = front ++ behind := by
  rw [← Nat.add_zero (size front), sameFront_append] at h
  obtain ⟨behind, e, -⟩ := h
  exact ⟨behind, e⟩

/-- A character of ASCII takes up one byte. -/
lemma size_singleton_of_ascii (ascii : c.toNat < 0x80) : size [c] = 1 :=
  size_ascii (List.forall_mem_singleton.2 ascii)

/-- With one byte in common two texts begin with characters that are alike. -/
lemma SameFront.exists_cons (h : SameFront n (c :: a) other) (hn : 0 < n) :
    ∃ d rest, other = d :: rest ∧ Alike c d := by
  have hfirst : ∀ {c d : Char} {a b}, SameFront 1 (c :: a) (d :: b) → c.toNat < 0x80 → c = d := by
    intro c d a b h ascii
    have hone : SameFront (size [c]) ([c] ++ a) (d :: b) := by
      rw [size_singleton_of_ascii ascii]
      exact h
    obtain ⟨behind, e⟩ := hone.exists_append
    exact (List.cons.inj e).1.symm
  cases other with
  | nil => exact absurd h.le_size (Nat.not_le.2 hn)
  | cons d rest =>
    refine ⟨d, rest, rfl, ?_⟩
    have hone : SameFront 1 (c :: a) (d :: rest) := h.mono hn
    by_cases hc : c.toNat < 0x80
    · exact .inl (hfirst hone hc)
    · by_cases hd : d.toNat < 0x80
      · exact .inl (hfirst hone.symm hd).symm
      · exact .inr ⟨Nat.le_of_not_lt hc, Nat.le_of_not_lt hd⟩

/-! ## Where a text starts -/

/-- Both texts are empty, or they have their first byte in common. -/
def SameStart (a b : List Char) : Prop :=
  a = [] ∧ b = [] ∨ SameFront 1 a b

/-- A text that is not empty takes up a byte at least. -/
lemma one_le_size (c : Char) (a : List Char) : 1 ≤ size (c :: a) :=
  Nat.le_trans c.utf8Size_pos (Nat.le_add_right _ _)

/-- A text starts as it starts itself. -/
lemma sameStart_self (a : List Char) : SameStart a a := by
  cases a with
  | nil => exact .inl ⟨rfl, rfl⟩
  | cons c a => exact .inr (sameFront_self (one_le_size c a))

/-- Texts with one byte or more in common start alike. -/
lemma SameFront.sameStart (h : SameFront n a b) (hn : 0 < n) : SameStart a b :=
  .inr (h.mono hn)

/-- Only the empty text starts as the empty one does. -/
lemma SameStart.eq_nil (h : SameStart [] other) : other = [] := by
  obtain ⟨-, e⟩ | h := h
  · exact e
  · exact absurd h.1 (by decide)

/-- Of texts that start alike the first characters are alike. -/
lemma SameStart.exists_cons (h : SameStart (c :: a) other) :
    ∃ d rest, other = d :: rest ∧ Alike c d := by
  obtain ⟨e, -⟩ | h := h
  · cases e
  · exact h.exists_cons (Nat.zero_lt_one)

/-- Texts that start alike still do behind a common front. -/
lemma SameStart.append (h : SameStart back other) (front : List Char) :
    SameStart (front ++ back) (front ++ other) := by
  cases front with
  | nil => exact h
  | cons c front =>
    have hfront : SameFront (size (c :: front) + 0) (c :: front ++ back) (c :: front ++ other) :=
      sameFront_append.2 ⟨other, rfl, Nat.zero_le _, rfl⟩
    exact hfront.sameStart (one_le_size c front)

/-! ## Characters that are alike -/

/-- Neither of two characters that are alike comes first. -/
lemma Alike.symm (h : Alike c d) : Alike d c :=
  h.imp Eq.symm And.symm

/-- A character is like one of ASCII only if it is that one. -/
lemma Alike.eq (h : Alike c d) (ascii : c.toNat < 0x80) : d = c := by
  obtain rfl | ⟨hwide, -⟩ := h
  · rfl
  · exact absurd ascii (Nat.not_lt.2 hwide)

/-- So if one is another than some character of ASCII, the other one is as well. -/
lemma Alike.ne (h : Alike c d) {x : Char} (ascii : x.toNat < 0x80) (hc : c ≠ x) : d ≠ x := by
  rintro rfl
  exact hc (h.symm.eq ascii)

/-- A test that only characters of ASCII pass has one result for both. -/
lemma Alike.test_eq (h : Alike c d) {p : Char → Bool}
    (ascii : ∀ x, p x = true → x.toNat < 0x80) : p d = p c := by
  obtain rfl | ⟨hc, hd⟩ := h
  · rfl
  · have hfails : ∀ x : Char, 0x80 ≤ x.toNat → p x = false := by
      intro x hx
      rw [← Bool.not_eq_true]
      exact fun hp => absurd (ascii x hp) (Nat.not_lt.2 hx)
    rw [hfails c hc, hfails d hd]

/-- The same for a test that fails, -/
lemma Alike.not_beq (h : Alike c d) {x : Char} (ascii : x.toNat < 0x80) (hc : c ≠ x) :
    ¬ (d == x) = true :=
  fun e => h.ne ascii hc (eq_of_beq e)

/-- and for what a test comes to. -/
lemma Alike.beq_eq (h : Alike c d) {x : Char} (ascii : x.toNat < 0x80) : (d == x) = (c == x) := by
  apply h.test_eq (p := (· == x))
  intro y hy
  rw [eq_of_beq hy]
  exact ascii

/-- So has one on the first characters of texts that start alike. -/
lemma SameStart.head?_test (h : SameStart a b) {p : Char → Bool}
    (ascii : ∀ x, p x = true → x.toNat < 0x80) (ha : ∀ c ∈ a.head?, p c = false) :
    ∀ d ∈ b.head?, p d = false := by
  cases a with
  | nil =>
    rw [h.eq_nil]
    exact ha
  | cons c a =>
    obtain ⟨d, rest, rfl, halike⟩ := h.exists_cons
    rintro _ ⟨⟩
    rw [halike.test_eq ascii]
    exact ha c rfl

/-- And for the first characters of texts that start alike. -/
lemma SameStart.head?_ne (h : SameStart a b) {x : Char} (ascii : x.toNat < 0x80)
    (ha : ∀ c ∈ a.head?, c ≠ x) : ∀ d ∈ b.head?, d ≠ x := by
  cases a with
  | nil =>
    rw [h.eq_nil]
    exact ha
  | cons c a =>
    obtain ⟨d, rest, rfl, halike⟩ := h.exists_cons
    rintro _ ⟨⟩
    exact halike.ne ascii (ha c rfl)

/-- A text is encoded in as many bytes as it takes up. -/
lemma length_encode (text : String) : (encode text).length = size text.toList := by
  rw [encode_eq_flatMap, length_encoding]

/-- Digits are of ASCII. -/
lemma isDigit_ascii (c : Char) (h : c.isDigit = true) : c.toNat < 0x80 := by
  have hle : c.toNat ≤ 0x39 := (Char.isDigit_iff_toNat.1 h).2
  omega

end Gatekeeper.Text
