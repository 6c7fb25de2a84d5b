import Mathlib.Tactic.Lemma
import Gatekeeper.Gate

/-!
# What a mask tells

The mask of a number has as many characters as the number, and of those it shows the last four if
there are more. Two numbers have the same mask exactly if they agree in that. In the other places
any character could stand: the mask does not change with it, and it holds the number only if stars
are all that it hides.

`toList_mask` is the one lemma that opens the mask: as many stars as `hiddenCount` says, and then
the characters that are left. From it follow the characters one by one (`getElem?_mask_of_lt`,
`getElem?_mask_of_le`), when two masks are equal (`mask_eq_iff`), when a number is its own mask
(`mask_eq_self_iff`), and which places are hidden (`hides_iff`).
-/

namespace Gatekeeper

/-- How many characters of a number its mask hides. -/
def hiddenCount (number : String) : Nat :=
  if number.toList.length ≤ 4 then number.toList.length else number.toList.length - 4

/-- The last four characters of a number, or all if there are no more. -/
def lastFour (number : String) : List Char :=
  number.toList.drop (number.toList.length - 4)

/-- The number with another character in one place. -/
def withCharacter (number : String) (i : Nat) (c : Char) : String :=
  String.ofList (number.toList.set i c)

/-- The mask tells nothing of the character in that place of the number: it stays the same whichever
one is put there. -/
def Hides (number : String) (i : Nat) : Prop :=
  i < number.toList.length ∧ ∀ c, mask (withCharacter number i c) = mask number

/-- A mask is a star for each hidden character and then the others. -/
lemma toList_mask (number : String) :
    (mask number).toList = List.replicate (hiddenCount number) '*' ++
      number.toList.drop (hiddenCount number) :=
  String.toList_ofList

/-- Of at most four characters all are hidden. -/
lemma hiddenCount_of_short {number : String} (h : number.toList.length ≤ 4) :
    hiddenCount number = number.toList.length :=
  if_pos h

/-- Of more than four all but the last four are. -/
lemma hiddenCount_of_long {number : String} (h : 4 < number.toList.length) :
    hiddenCount number = number.toList.length - 4 :=
  if_neg (Nat.not_le.2 h)

/-- No more characters are hidden than there are. -/
lemma hiddenCount_le (number : String) : hiddenCount number ≤ number.toList.length := by
  unfold hiddenCount
  split <;> omega

/-- A mask is as long as the number. -/
lemma length_toList_mask (number : String) :
    (mask number).toList.length = number.toList.length := by
  have h := hiddenCount_le number
  rw [toList_mask, List.length_append, List.length_replicate, List.length_drop]
  omega

/-- How many characters are hidden depends on the length alone. -/
lemma hiddenCount_congr {a b : String} (h : a.toList.length = b.toList.length) :
    hiddenCount a = hiddenCount b := by
  unfold hiddenCount
  rw [h]

/-- Two numbers have the same mask exactly if they are equally long and the masks show the same. -/
lemma mask_eq_iff_drop (a b : String) :
    mask a = mask b ↔
      a.toList.length = b.toList.length ∧
        a.toList.drop (hiddenCount a) = b.toList.drop (hiddenCount b) := by
  constructor
  · intro h
    have hlen : a.toList.length = b.toList.length := by
      rw [← length_toList_mask a, h, length_toList_mask]
    have hlists := congrArg String.toList h
    rw [toList_mask, toList_mask, hiddenCount_congr hlen] at hlists
    rw [hiddenCount_congr hlen]
    exact ⟨hlen, List.append_cancel_left hlists⟩
  · rintro ⟨hlen, hdrop⟩
    apply String.toList_inj.1
    rw [toList_mask, toList_mask, hdrop, hiddenCount_congr hlen]

/-- Two numbers have the same mask exactly if they are equally long and, when that is more than
four characters, end in the same four. -/
lemma mask_eq_iff (a b : String) :
    mask a = mask b ↔
      a.toList.length = b.toList.length ∧
        (4 < a.toList.length → lastFour a = lastFour b) := by
  rw [mask_eq_iff_drop]
  apply and_congr_right
  intro hlen
  by_cases hlong : 4 < a.toList.length
  · rw [hiddenCount_of_long hlong, hiddenCount_of_long (hlen ▸ hlong)]
    exact ⟨fun h _ => h, fun h => h hlong⟩
  · have hshort : a.toList.length ≤ 4 := Nat.le_of_not_lt hlong
    rw [hiddenCount_of_short hshort, hiddenCount_of_short (hlen ▸ hshort), List.drop_length,
      List.drop_length]
    exact ⟨fun _ h => absurd h hlong, fun _ => rfl⟩

/-! ## Hidden characters -/

section
variable {number : String} {i : Nat}

/-- A mask begins with a star for each hidden character. -/
lemma take_toList_mask (number : String) :
    (mask number).toList.take (hiddenCount number) = List.replicate (hiddenCount number) '*' := by
  rw [toList_mask]
  exact List.take_left' List.length_replicate

/-- Behind the stars stand the characters that are not hidden. -/
lemma drop_toList_mask (number : String) :
    (mask number).toList.drop (hiddenCount number) = number.toList.drop (hiddenCount number) := by
  rw [toList_mask]
  exact List.drop_left' List.length_replicate

/-- A hidden character is a star in the mask. -/
lemma getElem?_mask_of_lt (h : i < hiddenCount number) : (mask number).toList[i]? = some '*' := by
  rw [← List.getElem?_take_of_lt h, take_toList_mask, List.getElem?_replicate_of_lt h]

/-- Any other character is itself. -/
lemma getElem?_mask_of_le (h : hiddenCount number ≤ i) :
    (mask number).toList[i]? = number.toList[i]? := by
  obtain ⟨j, rfl⟩ := Nat.exists_eq_add_of_le h
  rw [← List.getElem?_drop, drop_toList_mask, List.getElem?_drop]

/-- Another character in one place is one in the list of characters. -/
lemma toList_withCharacter (number : String) (i : Nat) (c : Char) :
    (withCharacter number i c).toList = number.toList.set i c :=
  String.toList_ofList

/-- It changes nothing about how many are hidden. -/
lemma hiddenCount_withCharacter (number : String) (i : Nat) (c : Char) :
    hiddenCount (withCharacter number i c) = hiddenCount number := by
  apply hiddenCount_congr
  rw [toList_withCharacter, List.length_set]

/-- A mask hides what comes before the characters that it shows, and nothing else. -/
lemma hides_iff : Hides number i ↔ i < hiddenCount number := by
  constructor
  · rintro ⟨hlength, hsame⟩
    apply Nat.lt_of_not_le
    intro hshown
    -- In a place that is shown, the mask has the character that is put there.
    have hput : ∀ c, (mask number).toList[i]? = some c := by
      intro c
      have hle : hiddenCount (withCharacter number i c) ≤ i := by
        rw [hiddenCount_withCharacter]
        exact hshown
      rw [← hsame c, getElem?_mask_of_le hle, toList_withCharacter,
        List.getElem?_set_self hlength]
    have htwo : some '0' = some '1' := (hput '0').symm.trans (hput '1')
    exact absurd htwo (by decide)
  · intro h
    refine ⟨Nat.lt_of_lt_of_le h (hiddenCount_le number), fun c => ?_⟩
    rw [mask_eq_iff_drop, toList_withCharacter, hiddenCount_withCharacter]
    exact ⟨List.length_set, List.drop_set_of_lt h⟩

/-- A mask is its own mask. -/
lemma mask_mask (number : String) : mask (mask number) = mask number := by
  rw [mask_eq_iff_drop, hiddenCount_congr (length_toList_mask number)]
  exact ⟨length_toList_mask number, drop_toList_mask number⟩

/-- A number is its own mask exactly if it has stars in all hidden places. -/
lemma mask_eq_self_iff :
    mask number = number ↔ ∀ i, Hides number i → number.toList[i]? = some '*' := by
  constructor
  · intro h i hi
    have hstar := getElem?_mask_of_lt (hides_iff.1 hi)
    rwa [h] at hstar
  · intro h
    apply String.toList_inj.1
    apply List.ext_getElem?
    intro i
    by_cases hi : i < hiddenCount number
    · rw [getElem?_mask_of_lt hi, h i (hides_iff.2 hi)]
    · exact getElem?_mask_of_le (Nat.le_of_not_lt hi)

/-- A number in its mask is all of it, for the mask is no longer. -/
lemma infix_mask_iff : number.toList <:+: (mask number).toList ↔ mask number = number := by
  constructor
  · intro h
    have e := h.eq_of_length (length_toList_mask number).symm
    exact (String.toList_inj.1 e).symm
  · intro h
    simp only [h, List.infix_refl]

end

/-- A mask has as many characters as the number. Of up to four it shows none; of more it shows the
last four and has stars for the others. Those are the places in which any character could stand,
of however many bytes. Masking a mask changes nothing, and a mask holds the number only if it is
the number, which has stars in all hidden places then. -/
theorem mask_hides_all_but_four (number : String) :
    (mask number).toList.length = number.toList.length ∧
    (number.toList.length ≤ 4 →
      (mask number).toList = List.replicate number.toList.length '*' ∧
      ∀ i, Hides number i ↔ i < number.toList.length) ∧
    (4 < number.toList.length →
      (mask number).toList.take (number.toList.length - 4) =
        List.replicate (number.toList.length - 4) '*' ∧
      (mask number).toList.drop (number.toList.length - 4) = lastFour number ∧
      ∀ i, Hides number i ↔ i < number.toList.length - 4) ∧
    mask (mask number) = mask number ∧
    (number.toList <:+: (mask number).toList ↔ mask number = number) ∧
    (mask number = number ↔ ∀ i, Hides number i → number.toList[i]? = some '*') := by
  refine ⟨length_toList_mask number, fun hshort => ?_, fun hlong => ?_, mask_mask number,
    infix_mask_iff, mask_eq_self_iff⟩
  · have hcount := hiddenCount_of_short hshort
    refine ⟨?_, fun i => ?_⟩
    · rw [toList_mask, hcount, List.drop_length, List.append_nil]
    · rw [hides_iff, hcount]
  · have hcount := hiddenCount_of_long hlong
    refine ⟨?_, ?_, fun i => ?_⟩
    · rw [← hcount]
      exact take_toList_mask number
    · rw [← hcount, drop_toList_mask, hcount]
      rfl
    · rw [hides_iff, hcount]

/-- Digits of two bytes each count as one character. -/
example : mask "+\u0661\u0662\u0663\u0664\u0665" = "**\u0662\u0663\u0664\u0665" := by
  decide +kernel

end Gatekeeper
