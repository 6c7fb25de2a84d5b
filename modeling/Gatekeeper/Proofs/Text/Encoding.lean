import Mathlib.Tactic.Lemma
import Gatekeeper.Text.Basic

/-!
# Encoding and decoding

What the UTF-8 form of a text is made of, and that decoding undoes encoding and accepts nothing
else. The one fact about single characters is that the byte of a line feed, like that of any other
character of ASCII, stands in no encoding but its own: streams may be cut at it before they are
decoded.

`decode_eq_some_iff` and `decode_eq_none_iff` are all that is used of decoding: it gives a text
exactly for its encoding, and nothing for bytes that are no text. `asciiByte_mem_encode_iff` is the
fact about ASCII for whole texts, and `isText_append_cons` what follows from it: bytes around such a
byte are a text if both sides are.
-/

namespace Gatekeeper.Text

/-- The bytes are the UTF-8 form of some text. -/
def IsText (bytes : List UInt8) : Prop := ∃ text, encode text = bytes

/-- A text is encoded character by character. -/
lemma encode_eq_flatMap (text : String) :
    encode text = text.toList.flatMap String.utf8EncodeChar := by
  have h : text.toByteArray = text.toList.utf8Encode := by
    rw [← String.toByteArray_ofList, String.ofList_toList]
  simp only [encode, h, List.utf8Encode]
  exact List.toList_data_toByteArray

/-- The encoding of a list of characters. -/
lemma encode_ofList (cs : List Char) :
    encode (String.ofList cs) = cs.flatMap String.utf8EncodeChar := by
  rw [encode_eq_flatMap, String.toList_ofList]

/-- Two texts with the same encoding are the same. -/
lemma encode_injective {a b : String} (h : encode a = encode b) : a = b := by
  apply String.toByteArray_inj.1
  apply ByteArray.ext
  exact Array.toList_inj.1 h

/-- Texts are encoded one behind the other. -/
lemma encode_append (a b : String) : encode (a ++ b) = encode a ++ encode b := by
  rw [encode_eq_flatMap, encode_eq_flatMap, encode_eq_flatMap, String.toList_append,
    List.flatMap_append]

/-- Decoding gives a text exactly for its encoding. -/
lemma decode_eq_some_iff {bytes : List UInt8} {text : String} :
    decode bytes = some text ↔ encode text = bytes := by
  unfold decode String.fromUTF8?
  constructor
  · intro h
    split at h
    · cases h
      rfl
    · cases h
  · intro h
    subst h
    have valid : (ByteArray.mk (encode text).toArray).IsValidUTF8 := text.isValidUTF8
    rw [dif_pos valid]
    rfl

/-- What a text is encoded as is decoded as that text. -/
lemma decode_encode (text : String) : decode (encode text) = some text :=
  decode_eq_some_iff.2 rfl

/-- Decoding fails exactly for the bytes that are no text. -/
lemma decode_eq_none_iff {bytes : List UInt8} : decode bytes = none ↔ ¬ IsText bytes := by
  constructor
  · rintro h ⟨text, rfl⟩
    rw [decode_encode] at h
    cases h
  · intro h
    cases hd : decode bytes with
    | none => rfl
    | some text => exact absurd ⟨text, decode_eq_some_iff.1 hd⟩ h

/-- The one byte of a character of ASCII. -/
def asciiByte (x : Char) : UInt8 := UInt8.ofNat x.toNat

/-- A character of ASCII is encoded as its one byte. -/
lemma utf8EncodeChar_ascii {x : Char} (ascii : x.toNat < 0x80) :
    String.utf8EncodeChar x = [asciiByte x] := by
  unfold String.utf8EncodeChar
  exact if_pos (Nat.le_of_lt_succ ascii)

/-- A text of ASCII has one byte a character. -/
lemma encode_ascii {text : String} (ascii : ∀ c ∈ text.toList, c.toNat < 0x80) :
    encode text = text.toList.map asciiByte := by
  rw [encode_eq_flatMap, List.map_eq_flatMap, List.flatMap_def, List.flatMap_def,
    List.map_congr_left fun c hc => utf8EncodeChar_ascii (ascii c hc)]

/-- Every byte in the encoding of any other character is at least `0x80`. -/
lemma high_of_mem_utf8EncodeChar {c : Char} {b : UInt8} (wide : 0x80 ≤ c.toNat)
    (h : b ∈ String.utf8EncodeChar c) : 0x80 ≤ b.toNat := by
  have high : ∀ n, 0x80 ≤ n → n < 0x100 → 0x80 ≤ (UInt8.ofNat n).toNat := by
    intro n lo hi
    rw [UInt8.toNat_ofNat']
    omega
  have hc : ¬ c.val.toNat ≤ 127 := Nat.not_le.2 wide
  unfold String.utf8EncodeChar at h
  simp only [if_neg hc] at h
  split at h
  · simp only [List.mem_cons, List.not_mem_nil, or_false] at h
    obtain rfl | rfl := h <;> exact high _ (by omega) (by omega)
  split at h
  · simp only [List.mem_cons, List.not_mem_nil, or_false] at h
    obtain rfl | rfl | rfl := h <;> exact high _ (by omega) (by omega)
  · simp only [List.mem_cons, List.not_mem_nil, or_false] at h
    obtain rfl | rfl | rfl | rfl := h <;> exact high _ (by omega) (by omega)

/-- The byte of a character of ASCII stands in the encoding of that character alone. -/
lemma asciiByte_mem_iff {x c : Char} (ascii : x.toNat < 0x80) :
    asciiByte x ∈ String.utf8EncodeChar c ↔ c = x := by
  have hx : (asciiByte x).toNat = x.toNat := by
    rw [asciiByte, UInt8.toNat_ofNat']
    omega
  constructor
  · intro h
    by_cases hc : c.toNat < 0x80
    · rw [utf8EncodeChar_ascii hc, List.mem_singleton] at h
      have e := congrArg UInt8.toNat h
      rw [hx, asciiByte, UInt8.toNat_ofNat'] at e
      apply Char.toNat_inj.1
      omega
    · have := high_of_mem_utf8EncodeChar (Nat.le_of_not_lt hc) h
      omega
  · rintro rfl
    rw [utf8EncodeChar_ascii ascii]
    exact List.mem_singleton.2 rfl

/-- It stands in the encoding of a text exactly if the character stands in the text. -/
lemma asciiByte_mem_encode_iff {x : Char} (ascii : x.toNat < 0x80) {text : String} :
    asciiByte x ∈ encode text ↔ x ∈ text.toList := by
  rw [encode_eq_flatMap, List.mem_flatMap]
  constructor
  · rintro ⟨c, hc, hbyte⟩
    rw [← (asciiByte_mem_iff ascii).1 hbyte]
    exact hc
  · exact fun hx => ⟨x, hx, (asciiByte_mem_iff ascii).2 rfl⟩

/-- Where the byte of a character of ASCII stands in an encoding, the text has that character. -/
lemma exists_of_flatMap_eq_append_cons {x : Char} (ascii : x.toNat < 0x80) {cs a b}
    (h : cs.flatMap String.utf8EncodeChar = a ++ asciiByte x :: b) :
    ∃ front rest, cs = front ++ x :: rest ∧
      a = front.flatMap String.utf8EncodeChar ∧ b = rest.flatMap String.utf8EncodeChar := by
  induction cs generalizing a with
  | nil => simp at h
  | cons c cs ih =>
    rw [List.flatMap_cons, List.append_eq_append_iff] at h
    -- The byte stands behind the first character, or in it and is then all of it.
    obtain ⟨a', rfl, h⟩ | ⟨c', hc, h⟩ := h
    · obtain ⟨front, rest, rfl, rfl, rfl⟩ := ih h
      exact ⟨c :: front, rest, rfl, rfl, rfl⟩
    · cases c' with
      | nil =>
        rw [List.append_nil] at hc
        obtain ⟨front, rest, rfl, hf, rfl⟩ := ih (a := []) h.symm
        refine ⟨c :: front, rest, rfl, ?_, rfl⟩
        rw [List.flatMap_cons, ← hf, List.append_nil, hc]
      | cons y c' =>
        obtain ⟨rfl, rfl⟩ := List.cons.inj h
        have e : c = x := by
          rw [← asciiByte_mem_iff ascii, hc]
          exact List.mem_append_right _ (List.mem_cons_self ..)
        subst e
        rw [utf8EncodeChar_ascii ascii] at hc
        cases a with
        | nil =>
          obtain ⟨-, rfl⟩ := List.cons.inj hc
          exact ⟨[], cs, rfl, rfl, rfl⟩
        | cons _ a => cases a <;> cases hc

/-- Bytes with the byte of a character of ASCII among them are a text if what stands on either
side of it is one. -/
lemma isText_append_cons {x : Char} (ascii : x.toNat < 0x80) {a b} :
    IsText (a ++ asciiByte x :: b) ↔ IsText a ∧ IsText b := by
  constructor
  · rintro ⟨text, h⟩
    rw [encode_eq_flatMap] at h
    obtain ⟨front, rest, -, rfl, rfl⟩ := exists_of_flatMap_eq_append_cons ascii h
    exact ⟨⟨String.ofList front, encode_ofList front⟩, ⟨String.ofList rest, encode_ofList rest⟩⟩
  · rintro ⟨⟨front, rfl⟩, ⟨rest, rfl⟩⟩
    refine ⟨front ++ String.ofList (x :: rest.toList), ?_⟩
    rw [encode_append, encode_ofList, List.flatMap_cons, utf8EncodeChar_ascii ascii,
      encode_eq_flatMap rest]
    rfl

/-- No bytes at all are a text. -/
lemma isText_nil : IsText [] := ⟨"", rfl⟩

end Gatekeeper.Text
