import Gatekeeper.Gate
import Gatekeeper.Proofs.Text.Encoding

/-!
# What a gate lets through

Looking at every byte tells exactly whether two byte strings are equal (`sameBytes_iff`), so a gate
lets exactly its own number through (`Gate.Made.check_iff`). The number of a gate that was made from
a document is never blank (`Configuration.exists_not_isBlank`), which is why turning the empty
candidate away first makes no exception to that. `Gate.Made` holds of the gates that were made from
documents, and there are no others; the statements about gates in this library are for these.
`Gate.check_cases` is all that can come of a candidate, for callers that do not want to open the
check.

What a file configures depends on its bytes alone: it is what the text in them configures, and if
they are no text the file counts as not read, whatever a part of them holds. So a gate that is
loaded from a file is one that a document makes, too (`Configuration.made_of_ofFile`).
-/

namespace Gatekeeper

/-- The disjunction of bytes is zero only if each of them is. -/
lemma foldl_or_eq_zero_iff (acc : UInt8) (bytes : List UInt8) :
    bytes.foldl (· ||| ·) acc = 0 ↔ acc = 0 ∧ ∀ b ∈ bytes, b = 0 := by
  induction bytes generalizing acc with
  | nil => simp
  | cons b bytes ih =>
    rw [List.foldl_cons, ih, UInt8.or_eq_zero_iff, List.forall_mem_cons, and_assoc]

/-- Looking at every byte finds two byte strings equal exactly if they are. -/
lemma sameBytes_iff (a b : List UInt8) : sameBytes a b = true ↔ a = b := by
  unfold sameBytes
  rw [Bool.and_eq_true, beq_iff_eq, beq_iff_eq, foldl_or_eq_zero_iff]
  constructor
  · rintro ⟨hlen, -, hzero⟩
    apply List.ext_getElem hlen
    intro i ha hb
    have hi : i < (List.zipWith (· ^^^ ·) a b).length := by
      rw [List.length_zipWith]
      omega
    have h := hzero _ (List.getElem_mem hi)
    rw [List.getElem_zipWith] at h
    exact UInt8.xor_eq_zero_iff.1 h
  · rintro rfl
    refine ⟨rfl, rfl, ?_⟩
    intro x hx
    rw [List.zipWith_self, List.mem_map] at hx
    obtain ⟨y, -, rfl⟩ := hx
    exact UInt8.xor_self

/-- The number that a document configures says something. -/
lemma Configuration.exists_not_isBlank {text config}
    (h : Configuration.ofText text = .ok config) :
    ∃ c ∈ config.number.toList, Text.isBlank c = false := by
  unfold Configuration.ofText at h
  split at h
  · cases h
  · next members _ =>
    unfold Configuration.ofMembers at h
    split at h
    · cases h
    · next value _ =>
      split at h
      · cases h
      · next number hn =>
        cases h
        cases value with
        | string s =>
          simp only [Configuration.usableNumber] at hn
          split at hn
          · cases hn
          · next hblank =>
            cases hn
            rw [Bool.not_eq_true, List.all_eq_false] at hblank
            obtain ⟨c, hc, hb⟩ := hblank
            exact ⟨c, hc, Bool.not_eq_true _ ▸ hb⟩
        | _ => cases hn
  · cases h

/-- A configuration that can be computed from a text is the one that the text holds. -/
lemma Configuration.ofText_eq_ok {text : String} {config : Configuration}
    (h : (ofText text).toOption = some config) : ofText text = .ok config := by
  cases e : ofText text with
  | error defect =>
    rw [e] at h
    cases h
  | ok config' =>
    rw [e] at h
    exact congrArg Except.ok (Option.some.inj h)

namespace Gate

/-- The gate was made from a configuration that some document holds. There is no other way to
make one. -/
def Made (gate : Gate) : Prop :=
  ∃ text config path,
    Configuration.ofText text = .ok config ∧ gate = (ofConfiguration config path).1

/-- A gate for the number `+1`, made from the shortest document that configures one. -/
lemma made_plusOne : (⟨"+1", "gate.json"⟩ : Gate).Made := by
  refine ⟨"\x7b\"authorized_number\":\"+1\"\x7d", ⟨"+1", none⟩, "gate.json", ?_, rfl⟩
  exact Configuration.ofText_eq_ok (by decide +kernel)

/-- The number of a gate says something. -/
lemma Made.exists_not_isBlank {gate : Gate} (made : gate.Made) :
    ∃ c ∈ gate.number.toList, Text.isBlank c = false := by
  obtain ⟨text, config, path, h, rfl⟩ := made
  exact Configuration.exists_not_isBlank h

/-- The number of a gate is not the empty one. -/
lemma Made.number_ne_empty {gate : Gate} (made : gate.Made) : gate.number ≠ "" := by
  obtain ⟨c, hc, -⟩ := made.exists_not_isBlank
  intro e
  rw [e] at hc
  cases hc

/-- What the audit trail is told of a candidate that is turned away by a gate whose number looks
like that. -/
def refusal (masked : String) : Option String → Event
  | none => .emptyNumber none
  | some number => if number = "" then .emptyNumber (some number) else .unauthorized number masked

/-- Any candidate but the number itself is turned away. -/
lemma check_of_ne {gate : Gate} {candidate : Option String} (h : candidate ≠ some gate.number) :
    gate.check candidate = (false, refusal (mask gate.number) candidate) := by
  cases candidate with
  | none => rfl
  | some number =>
    have hne : ¬ sameBytes (Text.encode number) (Text.encode gate.number) = true := by
      intro e
      exact h (congrArg some (Text.encode_injective ((sameBytes_iff _ _).1 e)))
    simp only [check, refusal, String.isEmpty_iff, if_neg hne]
    split <;> rfl

/-- The number itself passes. -/
lemma check_self {gate : Gate} (h : gate.number ≠ "") :
    gate.check (some gate.number) = (true, .authorized gate.number) := by
  simp only [check, String.isEmpty_iff, if_neg h]
  exact if_pos ((sameBytes_iff _ _).2 rfl)

/-- A candidate is empty, passes or does not, and the audit trail is told which. -/
lemma check_cases (gate : Gate) (candidate : Option String) :
    (candidate = none ∨ candidate = some "") ∧
      gate.check candidate = (false, .emptyNumber candidate) ∨
    ∃ number, candidate = some number ∧ number ≠ "" ∧
      (gate.check candidate = (true, .authorized number) ∨
        gate.check candidate = (false, .unauthorized number (mask gate.number))) := by
  cases candidate with
  | none => exact .inl ⟨.inl rfl, rfl⟩
  | some number =>
    by_cases hempty : number = ""
    · subst hempty
      exact .inl ⟨.inr rfl, rfl⟩
    · refine .inr ⟨number, rfl, hempty, ?_⟩
      by_cases hnumber : number = gate.number
      · subst hnumber
        exact .inl (check_self hempty)
      · rw [check_of_ne (mt Option.some.inj hnumber), refusal, if_neg hempty]
        exact .inr rfl

/-- A gate lets through its number and nothing else. -/
lemma Made.check_iff {gate : Gate} (made : gate.Made) (candidate : Option String) :
    (gate.check candidate).1 = true ↔ candidate = some gate.number := by
  constructor
  · intro h
    by_cases hc : candidate = some gate.number
    · exact hc
    · rw [check_of_ne hc] at h
      cases h
  · rintro rfl
    rw [check_self made.number_ne_empty]

end Gate

/-! ## Configurations in files -/

namespace Configuration

variable {files : Files.Node} {path : String} {config : Configuration}

/-- Bytes that make a text configure what the text does. -/
lemma ofContent_of_text (path text : String) :
    ofContent path (.ok (Text.encode text)) = (ofText text).mapError (.invalid path) := by
  rw [ofContent, Text.decode_encode]

/-- Any other bytes count as not read. -/
lemma ofContent_of_not_text (path : String) {bytes : List UInt8} (h : ¬ Text.IsText bytes) :
    ofContent path (.ok bytes) = .error (.notRead path .notText) := by
  rw [ofContent, Text.decode_eq_none_iff.2 h]

/-- A configuration in a file is one in its text. -/
lemma exists_text_of_ofFile (h : ofFile files path = .ok config) :
    ∃ bytes text, files.read path = .ok bytes ∧ Text.decode bytes = some text ∧
      ofText text = .ok config := by
  unfold ofFile ofContent at h
  split at h
  · cases h
  · cases h
  · next bytes hbytes =>
    split at h
    · cases h
    · next text htext =>
      cases hconfig : ofText text with
      | error defect =>
        rw [hconfig] at h
        cases h
      | ok config' =>
        rw [hconfig] at h
        cases h
        exact ⟨bytes, text, hbytes, htext, hconfig⟩

/-- A gate for a configuration in a file is made from a document. -/
lemma made_of_ofFile (h : ofFile files path = .ok config) (name : String) :
    (Gate.ofConfiguration config name).1.Made := by
  obtain ⟨_, text, -, -, htext⟩ := exists_text_of_ofFile h
  exact ⟨text, config, name, htext, rfl⟩

end Configuration

end Gatekeeper
