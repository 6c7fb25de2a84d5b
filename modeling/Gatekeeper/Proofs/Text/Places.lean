import Mathlib.Tactic.Lemma
import Gatekeeper.Text.Places

/-!
# Places in a text

Places are counted in bytes, and a text can be cut at some of them only: between two characters. In
a text of ASCII these are all.

`cutAt_size`, `eq_append_of_cutAt` and `Obstacle.lies_of_cutAt` say what comes of cutting a text at
a place: the two parts of it, or else the character around the place. `IsPlace` is what it takes to
be cut, told without counting down, and `slice_of_isPlace` that it is enough. What keeps a text from
being cut out of another one always lies inside of a character of that one, which is `Miscut.Lies`;
`Miscut.lies_of_slice` is the lemma that readers of texts need, and no place that they ask for is
beyond the end.
-/

namespace Gatekeeper.Text

/-- A text takes up the bytes of both its parts. -/
lemma size_append (a b : List Char) : size (a ++ b) = size a + size b := by
  induction a with
  | nil => exact (Nat.zero_add _).symm
  | cons c a ih => rw [List.cons_append, size, size, ih, Nat.add_assoc]

/-- Only the empty text takes up no byte. -/
lemma eq_nil_of_size_eq_zero {cs : List Char} (h : size cs = 0) : cs = [] := by
  cases cs with
  | nil => rfl
  | cons c cs =>
    have hpos := c.utf8Size_pos
    rw [size] at h
    omega

/-- A text of ASCII takes up one byte for each character. -/
lemma size_ascii {cs : List Char} (ascii : ∀ c ∈ cs, c.toNat < 0x80) : size cs = cs.length := by
  induction cs with
  | nil => rfl
  | cons c cs ih =>
    obtain ⟨hc, hcs⟩ := List.forall_mem_cons.1 ascii
    have hone : c.utf8Size = 1 := if_pos (Nat.le_of_lt_succ hc)
    rw [size, ih hcs, hone, List.length_cons, Nat.add_comm]

/-- The size of a text is the number of bytes in its UTF-8 form. -/
lemma length_encoding (cs : List Char) : (cs.flatMap String.utf8EncodeChar).length = size cs := by
  induction cs with
  | nil => rfl
  | cons c cs ih =>
    rw [List.flatMap_cons, List.length_append, String.length_utf8EncodeChar, ih, size]

/-! ## Cutting at a place -/

/-- A text is cut after its first part. -/
lemma cutAt_size (a b : List Char) : cutAt (size a) (a ++ b) = .ok (a, b) := by
  induction a with
  | nil => rw [size, cutAt, List.nil_append]
  | cons c a ih =>
    have hpos := c.utf8Size_pos
    obtain ⟨n, hn⟩ : ∃ n, size (c :: a) = n + 1 := ⟨size (c :: a) - 1, by rw [size]; omega⟩
    have hrest : n + 1 - c.utf8Size = size a := by
      rw [← hn, size]
      omega
    have hfits : c.utf8Size ≤ n + 1 := by
      rw [← hn, size]
      omega
    rw [hn, List.cons_append, cutAt, if_pos hfits, hrest, ih]

/-- The parts that a text is cut into make up the text, and the first one ends at the place. -/
lemma eq_append_of_cutAt {n : Nat} {cs front rest : List Char}
    (h : cutAt n cs = .ok (front, rest)) : cs = front ++ rest ∧ size front = n := by
  induction cs generalizing n front with
  | nil => cases n with
    | zero =>
      cases h
      exact ⟨rfl, rfl⟩
    | succ n => cases h
  | cons c cs ih => cases n with
    | zero =>
      cases h
      exact ⟨rfl, rfl⟩
    | succ n =>
      rw [cutAt] at h
      split at h
      · next hfits =>
        split at h
        · next front' rest' hcut =>
          cases h
          obtain ⟨e, hsize⟩ := ih hcut
          refine ⟨by rw [e, List.cons_append], ?_⟩
          rw [size, hsize]
          omega
        · cases h
      · cases h

/-- The obstacle is a character of the text, and the place is inside of it. -/
def Obstacle.Lies (obstacle : Obstacle) (place : Nat) (text : List Char) : Prop :=
  ∃ front c back, text = front ++ c :: back ∧ obstacle = .inside c (size front) ∧
    size front < place ∧ place < size front + c.utf8Size

/-- An obstacle lies in a longer text as it does in the text, so many bytes on. -/
lemma Obstacle.Lies.append {obstacle : Obstacle} {place : Nat} {text : List Char}
    (h : obstacle.Lies place text) (front : List Char) :
    (obstacle.shift (size front)).Lies (size front + place) (front ++ text) := by
  obtain ⟨before, c, back, rfl, rfl, hstart, hstop⟩ := h
  refine ⟨front ++ before, c, back, (List.append_assoc _ _ _).symm, ?_, ?_, ?_⟩
  · rw [size_append]
    rfl
  · rw [size_append]
    omega
  · rw [size_append]
    omega

/-- Where a text cannot be cut, though the place is not beyond its end, there is a character around
the place. -/
lemma Obstacle.lies_of_cutAt {n : Nat} {cs : List Char} {obstacle : Obstacle} (hn : n ≤ size cs)
    (h : cutAt n cs = .error obstacle) : obstacle.Lies n cs := by
  induction cs generalizing n obstacle with
  | nil =>
    obtain rfl := Nat.le_zero.1 hn
    cases h
  | cons c cs ih => cases n with
    | zero => cases h
    | succ n =>
      rw [cutAt] at h
      rw [size] at hn
      split at h
      · next hfits =>
        split at h
        · cases h
        · next obstacle' hcut =>
          cases h
          have hlies := (ih (by omega) hcut).append [c]
          have hplace : size [c] + (n + 1 - c.utf8Size) = n + 1 := by
            rw [size, size]
            omega
          rw [hplace] at hlies
          exact hlies
      · next hfits =>
        cases h
        refine ⟨[], c, cs, rfl, rfl, Nat.succ_pos n, ?_⟩
        rw [size]
        omega

/-! ## Places -/

/-- The place lies between two characters, or at an end of the text. -/
def IsPlace (place : Nat) (text : List Char) : Prop :=
  ∃ front back, text = front ++ back ∧ size front = place

/-- No place lies beyond the end. -/
lemma IsPlace.le {place text} (h : IsPlace place text) : place ≤ size text := by
  obtain ⟨front, back, rfl, rfl⟩ := h
  rw [size_append]
  exact Nat.le_add_right _ _

/-- The end of a text is a place in it. -/
lemma isPlace_size (text : List Char) : IsPlace (size text) text :=
  ⟨text, [], (List.append_nil text).symm, rfl⟩

/-- Where a text begins with another one, the places of that one are places. -/
lemma isPlace_of_prefix {front text : List Char} (h : front <+: text) :
    IsPlace (size front) text := by
  obtain ⟨back, rfl⟩ := h
  exact ⟨front, back, rfl, rfl⟩

/-- In a text of ASCII there is a place after every byte. -/
lemma isPlace_ascii {place : Nat} {text : List Char} (ascii : ∀ c ∈ text, c.toNat < 0x80)
    (h : place ≤ text.length) : IsPlace place text := by
  refine ⟨text.take place, text.drop place, (List.take_append_drop place text).symm, ?_⟩
  rw [size_ascii fun c hc => ascii c (List.mem_of_mem_take hc), List.length_take_of_le h]

/-- Between two places there are the characters between them. -/
lemma IsPlace.exists_between {start stop : Nat} {text : List Char} (hstart : IsPlace start text)
    (hstop : IsPlace stop text) (h : start ≤ stop) :
    ∃ front middle back, text = front ++ (middle ++ back) ∧ size front = start ∧
      size middle = stop - start := by
  obtain ⟨front, rest, rfl, rfl⟩ := hstart
  obtain ⟨front', back, e, rfl⟩ := hstop
  obtain ⟨middle, rfl, rfl⟩ | ⟨extra, rfl, rfl⟩ := List.append_eq_append_iff.1 e
  · refine ⟨front, middle, back, rfl, rfl, ?_⟩
    rw [size_append, Nat.add_sub_cancel_left]
  · -- The places are the same one.
    have hnil : extra = [] := by
      rw [size_append] at h
      exact eq_nil_of_size_eq_zero (by omega)
    subst hnil
    refine ⟨front', [], rest, ?_, ?_, ?_⟩
    · rw [List.append_nil, List.nil_append]
    · rw [List.append_nil]
    · rw [List.append_nil, Nat.sub_self]
      rfl

/-! ## Cutting out between two places -/

/-- What stands between two places can be cut out. -/
lemma slice_of_isPlace {start stop : Nat} {text : List Char} (hstart : IsPlace start text)
    (hstop : IsPlace stop text) (h : start ≤ stop) :
    ∃ middle, slice text start stop = .ok middle := by
  obtain ⟨front, middle, back, rfl, hfront, hmiddle⟩ := hstart.exists_between hstop h
  have hcut := cutAt_size front (middle ++ back)
  have hcut' := cutAt_size middle back
  rw [hfront] at hcut
  rw [hmiddle] at hcut'
  exact ⟨middle, by simp only [slice, hcut, hcut']⟩

/-- The cut goes through a character of the text. -/
def Miscut.Lies (miscut : Miscut) (text : List Char) : Prop :=
  miscut.obstacle.Lies miscut.place text

/-- Where nothing can be cut out between two places of which neither is beyond the end, the cut
would go through a character. -/
lemma Miscut.lies_of_slice {start stop : Nat} {text : List Char} {miscut : Miscut}
    (hstart : start ≤ stop) (hstop : stop ≤ size text)
    (h : slice text start stop = .error miscut) : miscut.Lies text := by
  unfold slice at h
  cases hcut : cutAt start text with
  | error obstacle =>
    rw [hcut] at h
    cases h
    exact Obstacle.lies_of_cutAt (Nat.le_trans hstart hstop) hcut
  | ok parts =>
    obtain ⟨front, rest⟩ := parts
    obtain ⟨rfl, rfl⟩ := eq_append_of_cutAt hcut
    rw [size_append] at hstop
    rw [hcut] at h
    simp only at h
    cases hcut' : cutAt (stop - size front) rest with
    | error obstacle =>
      rw [hcut'] at h
      cases h
      have hlies := (Obstacle.lies_of_cutAt (by omega) hcut').append front
      rw [Nat.add_sub_cancel' hstart] at hlies
      exact hlies
    | ok parts =>
      rw [hcut'] at h
      cases h

end Gatekeeper.Text
