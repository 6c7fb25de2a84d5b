import Gatekeeper.Screening
import Gatekeeper.Proofs.Configuration.Document
import Gatekeeper.Proofs.Gate.Check

/-!
# From a document to a decision

However a string is spelled in the document that configures a gate, the gate lets through exactly
that string: nothing on the way from the document to the decision trims it, folds its case or
changes it in any other way.

`NumberObject` is made of the relations of the grammar, so that it covers every way to write the key
and the string, and all white space between. Such an object is a document
(`NumberObject.isDocument`), a document is read as the value it denotes, and what is configured is
told from that value: the theorem needs nothing else of the reader.
-/

namespace Gatekeeper
open Json

/-- An object whose one member is the number to authorize, in some way to write it. -/
inductive NumberObject : List Char → String → Prop where
  | mk {front opened key named colon literal closed back s} :
    Spaces front →
    Spaces opened →
    Literal key "authorized_number" →
    Spaces named →
    Spaces colon →
    Literal literal s →
    Spaces closed →
    Spaces back →
    NumberObject
      (front ++ '\x7b' :: opened ++ key ++ named ++ ':' :: colon ++ literal ++ closed ++
        '\x7d' :: back) s

/-- However it is written, that object is a document. -/
lemma NumberObject.isDocument {text s : String} (h : NumberObject text.toList s) :
    IsDocument text (.object [("authorized_number", .string s)]) := by
  refine ⟨?_, .object fun m hm => ?_⟩
  · generalize text.toList = cs at h ⊢
    obtain @⟨front, opened, key, named, colon, literal, closed, back, _, hfront, hopened, hkey,
      hnamed, hcolon, hliteral, hclosed, hback⟩ := h
    have hmember : Member IsValue (key ++ named ++ ':' :: colon ++ literal)
        ("authorized_number", .string s) := .mk hkey hnamed hcolon (.string hliteral)
    have hobject := IsValue.object (.items (.mk hopened hmember hclosed) .none)
    have hpadded := Padded.mk hfront hobject hback
    simp only [List.append_assoc, List.cons_append, List.nil_append] at hpadded ⊢
    exact hpadded
  · rw [List.mem_singleton.1 hm]
    exact .string

namespace Gate

/-- That object configures a gate for its string as it is, if the string says something. -/
lemma ofText_numberObject {text s : String} (h : NumberObject text.toList s)
    (hs : ∃ c ∈ s.toList, Text.isBlank c = false) :
    Configuration.ofText text = .ok ⟨s, none⟩ := by
  have hrange : (Value.object [("authorized_number", .string s)]).InRange := by
    refine .object fun m hm => ?_
    rw [List.mem_singleton.1 hm]
    exact .string
  have husable : ¬ s.toList.all Text.isBlank = true := by
    rw [Bool.not_eq_true, List.all_eq_false]
    obtain ⟨c, hc, hblank⟩ := hs
    exact ⟨c, hc, Bool.eq_false_iff.1 hblank⟩
  unfold Configuration.ofText
  rw [read_eq_ok_iff.2 ⟨h.isDocument, hrange⟩]
  have hnumber : lastMember [("authorized_number", .string s)] Configuration.numberName =
      some (.string s) := rfl
  have hlevel : lastMember [("authorized_number", .string s)] Configuration.logLevelName =
      none := rfl
  simp only [Configuration.ofMembers, hnumber, hlevel, Configuration.usableNumber, if_neg husable]
  rfl

/-- A decision is the verdict of the check, in a word. -/
lemma decide_eq (gate : Gate) (number : String) :
    (gate.decide number).1 =
      if (gate.check (some number)).1 then Decision.authorized else Decision.rejected :=
  rfl

/-- A document that spells a string as the number to authorize, in whichever way, makes a gate that
lets exactly this string through, whichever way it is asked. -/
theorem check_iff_of_numberObject {text s : String} (h : NumberObject text.toList s)
    (hs : ∃ c ∈ s.toList, Text.isBlank c = false) (path : String) :
    ∃ gate : Gate,
      (Configuration.ofText text).map (fun config => (ofConfiguration config path).1) = .ok gate ∧
      (∀ candidate, (gate.check candidate).1 = true ↔
        ∃ number, candidate = some number ∧ number.toList = s.toList) ∧
      (∀ number, ((gate.checkNumber number).1 = true ↔ number.toList = s.toList) ∧
        ((gate.decide number).1 = .authorized ↔ number.toList = s.toList) ∧
        ((gate.decide number).1 = .rejected ↔ number.toList ≠ s.toList)) ∧
      ∀ number,
        (number.toList.length ≠ s.toList.length ∨
          (Text.encode number).length ≠ (Text.encode s).length ∨
          (number.toList <+: s.toList ∧ number.toList ≠ s.toList) ∨
          (s.toList <+: number.toList ∧ s.toList ≠ number.toList)) →
        (gate.check (some number)).1 = false ∧ (gate.decide number).1 = .rejected := by
  have hconfig := ofText_numberObject h hs
  refine ⟨⟨s, path⟩, by rw [hconfig]; rfl, ?_⟩
  have made : (⟨s, path⟩ : Gate).Made := ⟨text, ⟨s, none⟩, path, hconfig, rfl⟩
  generalize hgate : (⟨s, path⟩ : Gate) = gate at made ⊢
  have hself : gate.number = s := by rw [← hgate]
  have hcheck : ∀ number, (gate.check (some number)).1 = true ↔ number.toList = s.toList := by
    intro number
    rw [made.check_iff, hself, Option.some.injEq, String.toList_inj]
  refine ⟨fun candidate => ?_, fun number => ⟨hcheck number, ?_, ?_⟩, fun number hother => ?_⟩
  · cases candidate with
    | none => exact ⟨nofun, nofun⟩
    | some number =>
      rw [hcheck]
      constructor
      · exact fun e => ⟨number, rfl, e⟩
      · rintro ⟨number', e, e'⟩
        rw [Option.some.inj e]
        exact e'
  · rw [← hcheck, decide_eq]
    split
    · next e => exact ⟨fun _ => e, fun _ => rfl⟩
    · next e => exact ⟨nofun, fun e' => absurd e' e⟩
  · rw [Ne, ← hcheck, decide_eq]
    split
    · next e => exact ⟨nofun, fun e' => absurd e e'⟩
    · next e => exact ⟨fun _ => e, fun _ => rfl⟩
  · have hne : number.toList ≠ s.toList := by
      intro e
      obtain h | h | ⟨-, h⟩ | ⟨-, h⟩ := hother
      · exact h (congrArg List.length e)
      · exact h (by rw [String.toList_inj.1 e])
      · exact h e
      · exact h e.symm
    have hfalse : (gate.check (some number)).1 = false := by
      rw [← Bool.not_eq_true, hcheck]
      exact hne
    refine ⟨hfalse, ?_⟩
    rw [decide_eq, hfalse]
    rfl

/-- Characters that need no escape spell themselves. -/
lemma spellsAll_self {cs : List Char}
    (h : cs.all (fun c => 0x20 ≤ c.toNat && c != '\"' && c != '\\') = true) : SpellsAll cs cs := by
  induction cs with
  | nil => exact .nil
  | cons c cs ih =>
    rw [List.all_cons, Bool.and_eq_true, Bool.and_eq_true, Bool.and_eq_true, decide_eq_true_eq,
      bne_iff_ne, bne_iff_ne] at h
    obtain ⟨⟨⟨hprintable, hquote⟩, hbackslash⟩, hcs⟩ := h
    exact .cons (.raw hprintable hquote hbackslash) (ih hcs)

/-- A document with an escaped letter in the name, a surrogate pair and an escaped slash in the
string, and spaces of all four kinds. -/
theorem check_iff_of_numberObject_escaped :
    ∃ gate : Gate,
      (Configuration.ofText
        "\t\x7b \"\\u0061uthorized_number\" :\n\"\\uD83d\\uDE00+1\\/\" \x7d\r").map
          (fun config => (ofConfiguration config "gate.json").1) = .ok gate ∧
      (gate.check (some "😀+1/")).1 = true ∧ (gate.check (some "😀+1")).1 = false := by
  have hunit : HexUnit ['0', '0', '6', '1'] (0x1000 * 0 + 0x100 * 0 + 0x10 * 6 + 1) :=
    .mk ⟨by decide, by decide⟩ ⟨by decide, by decide⟩ ⟨by decide, by decide⟩
      ⟨by decide, by decide⟩
  have hletter : Spells _ 'a' := .unit hunit
  have hhigh : HexUnit ['D', '8', '3', 'd'] (0x1000 * 13 + 0x100 * 8 + 0x10 * 3 + 13) :=
    .mk ⟨by decide, by decide⟩ ⟨by decide, by decide⟩ ⟨by decide, by decide⟩
      ⟨by decide, by decide⟩
  have hlow : HexUnit ['D', 'E', '0', '0'] (0x1000 * 13 + 0x100 * 14 + 0x10 * 0 + 0) :=
    .mk ⟨by decide, by decide⟩ ⟨by decide, by decide⟩ ⟨by decide, by decide⟩
      ⟨by decide, by decide⟩
  have hface : Spells _ '😀' := .pair (by decide) hhigh hlow
  have hkey : Literal _ "authorized_number" :=
    .mk (.cons hletter (@spellsAll_self "uthorized_number".toList rfl))
  have hrest : SpellsAll _ ['+', '1', '/'] :=
    .cons (.raw (by decide) (by decide) (by decide))
      (.cons (.raw (by decide) (by decide) (by decide)) (.cons (.short .slash) .nil))
  have hliteral : Literal _ "😀+1/" := .mk (.cons hface hrest)
  have hspace : ∀ c, isSpace c = true → Spaces [c] := by
    intro c hc d hd
    rw [List.mem_singleton.1 hd]
    exact isSpace_iff.1 hc
  have hobject : NumberObject (String.toList
      "\t\x7b \"\\u0061uthorized_number\" :\n\"\\uD83d\\uDE00+1\\/\" \x7d\r") "😀+1/" :=
    .mk (hspace '\t' rfl) (hspace ' ' rfl) hkey (hspace ' ' rfl) (hspace '\n' rfl) hliteral
      (hspace ' ' rfl) (hspace '\r' rfl)
  obtain ⟨gate, hgate, hcheck, -, hother⟩ :=
    check_iff_of_numberObject hobject ⟨'+', by decide, by decide⟩ "gate.json"
  exact ⟨gate, hgate, (hcheck _).2 ⟨_, rfl, rfl⟩, (hother _ (.inl (by decide))).1⟩

end Gate

end Gatekeeper
