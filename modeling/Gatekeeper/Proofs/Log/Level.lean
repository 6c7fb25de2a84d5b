import Mathlib.Data.List.Forall2
import Mathlib.Logic.Relation
import Gatekeeper.Log.Level
import Gatekeeper.Proofs.Text.Basic

/-!
# One spelling for a level

A level may be written with white space around it, with its letters in either case, and in words
that are not the usual ones. The level that counts is spelled in one way only: two texts have the
same one exactly if they differ in nothing else, and it is its own.

`Reworded` relates two texts that differ in one of these ways, and texts that differ in nothing else
are those that the equivalence it generates relates. `IsUsual` is what is left to see in a level
that counts. The level comes about in two steps, which `effectiveLevel_eq` takes apart: a text is
`folded`, which leaves no white space around it and no upper case, and then the `usual` word is
chosen. So there are two things to prove:

* what comes of the two steps is usual, and a usual level comes of itself
  (`isUsual_usual_folded`, `IsUsual.usual_folded`);
* two texts lead to the same level exactly if they are related (`usual_folded_eq_iff`), since every
  text is related to its level (`eqvGen_usual_folded`), and related texts lead to the same one
  (`Reworded.usual_folded_eq`).

The letters are those of ASCII. Beyond it nothing is changed (`toLower_eq_iff`).
-/

namespace Gatekeeper.Log

/-- The text that decides: the one that is set, or else the one in the configuration. -/
def deciding : Option String → Option String → String
  | some text, _ => text
  | none, some text => text
  | none, none => ""

/-- The second character is the first one, or the same letter of ASCII in one of its two cases. No
other character has two here. -/
inductive Recased (c : Char) : Char → Prop where
  | kept : Recased c c
  | lowered : Recased c c.toLower
  | raised : Recased c c.toUpper

/-- A word that is not the usual one for its level, or none at all, and the usual one. -/
inductive Synonym : String → String → Prop where
  | nothing : Synonym "" "info"
  | warning : Synonym "warning" "warn"
  | critical : Synonym "critical" "error"
  | fatal : Synonym "fatal" "error"

/-- Two texts that differ in white space around them, in the case of letters, or in the word. -/
inductive Reworded : String → String → Prop where
  | padded {a b} : Text.Padded a.toList b.toList → Reworded a b
  | recased {a b} : List.Forall₂ Recased a.toList b.toList → Reworded a b
  | synonym {a b} : Synonym a b → Reworded a b

/-- A level as it is spelled in the end. -/
structure IsUsual (level : String) : Prop where
  ne_empty : level ≠ ""
  bare : Text.Bare level.toList
  lower : ∀ c ∈ level.toList, c.isUpper = false
  ne_warning : level ≠ "warning"
  ne_critical : level ≠ "critical"
  ne_fatal : level ≠ "fatal"

/-! ## Folding a text and choosing the word -/

/-- A text without the white space around it, in lower case. -/
def folded (text : String) : String := String.ofList ((Text.trim text.toList).map Char.toLower)

/-- The usual word for one in lower case. -/
def usual (word : String) : String :=
  if word = "" then "info"
  else if word = "warning" then "warn"
  else if word = "critical" ∨ word = "fatal" then "error"
  else word

/-- The level that counts is the usual word for the text that decides. -/
lemma effectiveLevel_eq (setting config : Option String) :
    effectiveLevel setting config = usual (folded (deciding setting config)) := by
  have htext : (setting.or config).getD "" = deciding setting config := by
    cases setting with
    | some text => rfl
    | none => cases config with
      | some text => rfl
      | none => rfl
  unfold effectiveLevel
  simp only [htext]
  unfold usual folded
  cases htrim : Text.trim (deciding setting config).toList with
  | nil => rfl
  | cons c cs =>
    have hne : String.ofList ((c :: cs).map Char.toLower) ≠ "" := by simp
    rw [if_neg hne]
    rfl

/-- The usual word takes the place of a word, or the word is the usual one. -/
lemma usual_cases (word : String) :
    Synonym word (usual word) ∨
      usual word = word ∧ word ≠ "" ∧ word ≠ "warning" ∧ word ≠ "critical" ∧ word ≠ "fatal" := by
  unfold usual
  split
  · next h => exact .inl (h ▸ .nothing)
  · next hempty =>
    split
    · next h => exact .inl (h ▸ .warning)
    · next hwarning =>
      split
      · next h =>
        obtain rfl | rfl := h
        · exact .inl .critical
        · exact .inl .fatal
      · next h => exact .inr ⟨rfl, hempty, hwarning, not_or.1 h⟩

/-! ## Case -/

section
variable {c d : Char}

/-- The upper-case letters stand in a row. -/
lemma isUpper_iff : c.isUpper = true ↔ 0x41 ≤ c.toNat ∧ c.toNat ≤ 0x5A :=
  decide_eq_true_iff

/-- A character that is no upper-case letter is kept. -/
lemma toLower_eq_self (h : ¬ c.isUpper = true) : c.toLower = c :=
  dif_neg (mt decide_eq_true h)

/-- The lower-case letters stand in a row as well, in the same order. -/
lemma toNat_toLower (h : c.isUpper = true) : c.toLower.toNat = c.toNat + 0x20 := by
  have hle : c.val.toNat ≤ 0x5A := (isUpper_iff.1 h).2
  have hstep : ('a'.val - 'A'.val).toNat = 0x20 := by decide
  unfold Char.toLower
  rw [dif_pos (of_decide_eq_true h)]
  show (c.val + ('a'.val - 'A'.val)).toNat = c.val.toNat + 0x20
  rw [UInt32.toNat_add, hstep]
  omega

/-- In lower case there is no upper-case letter. -/
lemma isUpper_toLower (c : Char) : c.toLower.isUpper = false := by
  rw [← Bool.not_eq_true]
  intro h
  by_cases hc : c.isUpper = true
  · have hrow := isUpper_iff.1 hc
    rw [isUpper_iff, toNat_toLower hc] at h
    omega
  · rw [toLower_eq_self hc] at h
    exact hc h

/-- What is in lower case stays as it is. -/
lemma toLower_toLower (c : Char) : c.toLower.toLower = c.toLower :=
  toLower_eq_self (ne_true_of_eq_false (isUpper_toLower c))

/-- Only a lower-case letter has another upper case, and that one stands in the row of its own. -/
lemma toNat_toUpper (h : c.toUpper ≠ c) :
    0x61 ≤ c.toNat ∧ c.toNat ≤ 0x7A ∧ c.toUpper.toNat + 0x20 = c.toNat := by
  unfold Char.toUpper at h ⊢
  split
  · next hlower =>
    have hfirst : 0x61 ≤ c.val.toNat := hlower.1
    have hlast : c.val.toNat ≤ 0x7A := hlower.2
    have hstep : ('A'.val - 'a'.val).toNat = 0xFFFFFFE0 := by decide
    refine ⟨hfirst, hlast, ?_⟩
    show (c.val + ('A'.val - 'a'.val)).toNat + 0x20 = c.val.toNat
    rw [UInt32.toNat_add, hstep]
    omega
  · next hlower =>
    rw [dif_neg hlower] at h
    exact absurd rfl h

/-- Both cases of a letter have one lower case. -/
lemma toLower_toUpper (c : Char) : c.toUpper.toLower = c.toLower := by
  by_cases h : c.toUpper = c
  · rw [h]
  · obtain ⟨hfirst, hlast, hrow⟩ := toNat_toUpper h
    have hupper : c.toUpper.isUpper = true := isUpper_iff.2 (by omega)
    have hlower : ¬ c.isUpper = true := by
      rw [isUpper_iff]
      omega
    apply Char.toNat_inj.1
    rw [toNat_toLower hupper, toLower_eq_self hlower, hrow]

/-- No letter of ASCII is white space, so white space has one case. -/
lemma isWhiteSpace_toLower_iff : Text.IsWhiteSpace c.toLower ↔ Text.IsWhiteSpace c := by
  by_cases h : c.isUpper = true
  · have hc := isUpper_iff.1 h
    simp only [Text.IsWhiteSpace, Text.whiteSpace, toNat_toLower h, List.mem_cons,
      List.not_mem_nil, or_false]
    omega
  · rw [toLower_eq_self h]

/-- What is beyond ASCII is kept, and nothing else becomes it. -/
lemma toLower_eq_iff (hd : 0x7F < d.toNat) : c.toLower = d ↔ c = d := by
  by_cases h : c.isUpper = true
  · have hc := isUpper_iff.1 h
    constructor
    · rintro rfl
      rw [toNat_toLower h] at hd
      omega
    · rintro rfl
      omega
  · rw [toLower_eq_self h]

/-- A letter in either case has one lower case. -/
lemma Recased.toLower_eq (h : Recased c d) : d.toLower = c.toLower := by
  cases h with
  | kept => rfl
  | lowered => exact toLower_toLower c
  | raised => exact toLower_toUpper c

/-- So has a text. -/
lemma map_toLower_eq {a b : List Char} (h : List.Forall₂ Recased a b) :
    b.map Char.toLower = a.map Char.toLower := by
  induction h with
  | nil => rfl
  | cons hchar _ ih => rw [List.map_cons, List.map_cons, hchar.toLower_eq, ih]

/-- White space may as well be cut off after the case is changed. -/
lemma trim_map_toLower (text : List Char) :
    Text.trim (text.map Char.toLower) = (Text.trim text).map Char.toLower := by
  obtain ⟨front, back, htext, hspace⟩ := Text.padded_trim text
  obtain ⟨hhead, hlast⟩ := Text.bare_trim text
  apply Text.Bare.trim_eq
  · constructor
    · intro d hd
      rw [List.head?_map] at hd
      obtain ⟨c, hc, rfl⟩ := Option.map_eq_some_iff.1 hd
      exact mt isWhiteSpace_toLower_iff.1 (hhead c hc)
    · intro d hd
      rw [List.getLast?_map] at hd
      obtain ⟨c, hc, rfl⟩ := Option.map_eq_some_iff.1 hd
      exact mt isWhiteSpace_toLower_iff.1 (hlast c hc)
  · refine ⟨front.map Char.toLower, back.map Char.toLower, ?_, ?_⟩
    · rw [← List.map_append, ← List.map_append, ← htext]
    · rw [← List.map_append, List.forall_mem_map]
      exact fun c hc => isWhiteSpace_toLower_iff.2 (hspace c hc)

end

/-! ## The level of a text -/

section
variable {a b level : String}

/-- It makes no difference whether the case is changed first. -/
lemma folded_toList (text : String) :
    (folded text).toList = Text.trim (text.toList.map Char.toLower) := by
  rw [folded, String.toList_ofList, trim_map_toLower]

/-- No white space is left around a folded text. -/
lemma bare_folded (text : String) : Text.Bare (folded text).toList := by
  rw [folded_toList]
  exact Text.bare_trim _

/-- No upper-case letter is left in it. -/
lemma lower_folded (text : String) : ∀ c ∈ (folded text).toList, c.isUpper = false := by
  rw [folded, String.toList_ofList, List.forall_mem_map]
  exact fun c _ => isUpper_toLower c

/-- A text of lower case without white space around it is folded. -/
lemma folded_eq_self (hbare : Text.Bare level.toList)
    (hlower : ∀ c ∈ level.toList, c.isUpper = false) : folded level = level := by
  rw [folded, hbare.trim_eq (Text.padded_self _)]
  have hmap : level.toList.map Char.toLower = level.toList.map id :=
    List.map_congr_left fun c hc =>
      toLower_eq_self (ne_true_of_eq_false (hlower c hc))
  rw [hmap, List.map_id, String.ofList_toList]

/-- The words are in lower case already, and their usual ones are kept. -/
lemma Synonym.folded_eq (h : Synonym a b) : folded a = a ∧ folded b = b := by
  cases h with
  | nothing => decide +kernel
  | warning => decide +kernel
  | critical => decide +kernel
  | fatal => decide +kernel

/-- Choosing the word takes a synonym to the usual word, and keeps that. -/
lemma Synonym.usual_eq (h : Synonym a b) : usual a = b ∧ usual b = b := by
  cases h with
  | nothing => exact ⟨rfl, rfl⟩
  | warning => exact ⟨rfl, rfl⟩
  | critical => exact ⟨rfl, rfl⟩
  | fatal => exact ⟨rfl, rfl⟩

/-- No word is a synonym of itself. -/
lemma Synonym.ne (h : Synonym a b) : a ≠ b := by
  cases h with
  | nothing => decide
  | warning => decide
  | critical => decide
  | fatal => decide

/-- All these words are of ASCII. -/
lemma Synonym.ascii (h : Synonym a b) :
    (∀ c ∈ a.toList, c.toNat ≤ 0x7F) ∧ ∀ c ∈ b.toList, c.toNat ≤ 0x7F := by
  cases h with
  | nothing => simp
  | warning => simp
  | critical => simp
  | fatal => simp

/-- What folding and choosing the word leave as it is, is spelled as usual. -/
lemma isUsual_of_fixed (hfolded : folded level = level) (husual : usual level = level) :
    IsUsual level := by
  have hbare := bare_folded level
  have hlower := lower_folded level
  rw [hfolded] at hbare hlower
  obtain h | ⟨-, hempty, hwarning, hcritical, hfatal⟩ := usual_cases level
  · exact absurd husual.symm h.ne
  · exact ⟨hempty, hbare, hlower, hwarning, hcritical, hfatal⟩

/-- What folding and choosing the word lead to is spelled as usual. -/
lemma isUsual_usual_folded (text : String) : IsUsual (usual (folded text)) := by
  obtain h | ⟨e, -⟩ := usual_cases (folded text)
  · exact isUsual_of_fixed h.folded_eq.2 h.usual_eq.2
  · rw [e]
    exact isUsual_of_fixed (folded_eq_self (bare_folded text) (lower_folded text)) e

/-- A level that is spelled as usual is led to itself. -/
lemma IsUsual.usual_folded (h : IsUsual level) : usual (folded level) = level := by
  rw [folded_eq_self h.bare h.lower, usual, if_neg h.ne_empty, if_neg h.ne_warning,
    if_neg (not_or.2 ⟨h.ne_critical, h.ne_fatal⟩)]

/-- Texts that differ in their spelling have the same level. -/
lemma Reworded.usual_folded_eq (h : Reworded a b) : usual (folded a) = usual (folded b) := by
  cases h with
  | padded h => rw [folded, folded, h.trim_eq]
  | recased h =>
    have e : folded a = folded b := by
      apply String.toList_inj.1
      rw [folded_toList, folded_toList, map_toLower_eq h]
    rw [e]
  | synonym h => rw [h.folded_eq.1, h.folded_eq.2, h.usual_eq.1, h.usual_eq.2]

/-- A text differs from its level in its spelling alone. -/
lemma eqvGen_usual_folded (text : String) :
    Relation.EqvGen Reworded text (usual (folded text)) := by
  -- One rewording for each thing that is done to the text.
  have htrim : Reworded text (String.ofList (Text.trim text.toList)) := by
    apply Reworded.padded
    rw [String.toList_ofList]
    exact Text.padded_trim _
  have hfold : Reworded (String.ofList (Text.trim text.toList)) (folded text) := by
    apply Reworded.recased
    rw [String.toList_ofList, folded, String.toList_ofList, List.forall₂_map_right_iff]
    exact List.forall₂_same.2 fun _ _ => .lowered
  have hfolded := (Relation.EqvGen.rel _ _ htrim).trans _ _ _ (.rel _ _ hfold)
  obtain h | ⟨e, -⟩ := usual_cases (folded text)
  · exact hfolded.trans _ _ _ (.rel _ _ (.synonym h))
  · rw [e]
    exact hfolded

/-- Two texts have the same level exactly if they differ in nothing but their spelling. -/
lemma usual_folded_eq_iff : usual (folded a) = usual (folded b) ↔ Relation.EqvGen Reworded a b := by
  constructor
  · intro h
    have hb := eqvGen_usual_folded b
    rw [← h] at hb
    exact (eqvGen_usual_folded a).trans _ _ _ (hb.symm _ _)
  · intro h
    induction h with
    | rel a b h => exact h.usual_folded_eq
    | refl a => rfl
    | symm a b _ ih => exact ih.symm
    | trans a b c _ _ ih ih' => exact ih.trans ih'

/-- Beyond ASCII, a level has the characters of the text in their places, and no others. -/
lemma getElem?_usual_folded {text : String} {core : List Char} (hbare : Text.Bare core)
    (hpadded : Text.Padded text.toList core) {c : Char} (hc : 0x7F < c.toNat) (i : Nat) :
    (usual (folded text)).toList[i]? = some c ↔ core[i]? = some c := by
  have hfolded : (folded text).toList[i]? = some c ↔ core[i]? = some c := by
    rw [folded, String.toList_ofList, hbare.trim_eq hpadded, List.getElem?_map,
      Option.map_eq_some_iff]
    simp only [toLower_eq_iff hc, exists_eq_right]
  rw [← hfolded]
  obtain h | ⟨e, -⟩ := usual_cases (folded text)
  · -- Neither word has such a character at all.
    obtain ⟨hleft, hright⟩ := h.ascii
    constructor
    · intro hi
      exact absurd (hright c (List.mem_of_getElem? hi)) (Nat.not_le.2 hc)
    · intro hi
      exact absurd (hleft c (List.mem_of_getElem? hi)) (Nat.not_le.2 hc)
  · rw [e]

end

/-- The level that counts is spelled in one way. It has no white space around it and no upper-case
letter of ASCII, and it is neither empty nor one of the words that stand for another one. Set or
configured, it is its own level, and nothing in the configuration matters once a text is set. Two
choices come to the same level exactly if the texts that decide differ in nothing but white space
around them, the case of ASCII letters and the word. Beyond ASCII all is kept as it is. -/
theorem effectiveLevel_normalForm (setting config : Option String) :
    IsUsual (effectiveLevel setting config) ∧
    (∀ other,
      effectiveLevel (some (effectiveLevel setting config)) other =
        effectiveLevel setting config) ∧
    effectiveLevel none (some (effectiveLevel setting config)) = effectiveLevel setting config ∧
    (∀ text, setting = some text →
      ∀ other, effectiveLevel setting other = effectiveLevel setting config) ∧
    (∀ setting' config', effectiveLevel setting' config' = effectiveLevel setting config ↔
      Relation.EqvGen Reworded (deciding setting' config') (deciding setting config)) ∧
    (∀ core, Text.Bare core → Text.Padded (deciding setting config).toList core →
      ∀ (i : Nat) (c : Char), 0x7F < c.toNat →
        ((effectiveLevel setting config).toList[i]? = some c ↔ core[i]? = some c)) := by
  have husual : IsUsual (effectiveLevel setting config) := by
    rw [effectiveLevel_eq]
    exact isUsual_usual_folded _
  refine ⟨husual, fun other => ?_, ?_, ?_, fun setting' config' => ?_,
    fun core hbare hpadded i c hc => ?_⟩
  · rw [effectiveLevel_eq (some _) other]
    exact husual.usual_folded
  · rw [effectiveLevel_eq none]
    exact husual.usual_folded
  · rintro text rfl other
    rfl
  · rw [effectiveLevel_eq, effectiveLevel_eq]
    exact usual_folded_eq_iff
  · rw [effectiveLevel_eq]
    exact getElem?_usual_folded hbare hpadded hc i

/-- A wide blank goes, a letter beyond ASCII stays in its case. -/
example : effectiveLevel (some "\u3000\u00C9CLAT\t") (some "debug") = "\u00C9clat" := by
  decide +kernel

end Gatekeeper.Log
