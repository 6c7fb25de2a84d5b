import Mathlib.Logic.Relation
import Gatekeeper.Proofs.Configuration.Document

/-!
# The members that count

Of the members of an object two count: the last one named `authorized_number` and the last one
named `log_level`. What a document configures is told from their values, and of a value that is no
string it matters only that it is none. So members of other names may come and go and change places,
a member may have namesakes before it, and nothing inside a nested value is looked at.

`IsLast` says which member counts, and `lastMember_eq_some_iff` that the model finds it.
`Immaterial` has one constructor for each kind of change that does not count;
`Immaterial.lastMember_map` is the one lemma about single changes, and `ofMembers_eq_of_eqvGen` goes
on to any number of them, made or undone.
-/

namespace Gatekeeper.Configuration
open Json

/-- The last member of that name has that value. -/
def IsLast (members : List (String × Value)) (name : String) (v : Value) : Prop :=
  ∃ front back, members = front ++ (name, v) :: back ∧ ∀ m ∈ back, m.1 ≠ name

/-- The value is no string. -/
def NoString (v : Value) : Prop :=
  ∀ s, v ≠ .string s

/-- The name is neither of the two that count. -/
def OtherName (name : String) : Prop :=
  name ≠ "authorized_number" ∧ name ≠ "log_level"

/-- Two lists of members that differ in something that does not count: a member of another name, a
member with a namesake behind it, the order of two neighbours, or the inside of a value that is no
string. -/
inductive Immaterial : List (String × Value) → List (String × Value) → Prop where
  | other {front m back} :
    OtherName m.1 →
    Immaterial (front ++ m :: back) (front ++ back)
  | earlier {front m back} :
    (∃ n ∈ back, n.1 = m.1) →
    Immaterial (front ++ m :: back) (front ++ back)
  | swapped {front m n back} :
    m.1 ≠ n.1 ∨ OtherName m.1 →
    Immaterial (front ++ m :: n :: back) (front ++ n :: m :: back)
  | nested {front name v w back} :
    NoString v →
    NoString w →
    Immaterial (front ++ (name, v) :: back) (front ++ (name, w) :: back)

/-! ## The last member of a name -/

section
variable {members front back : List (String × Value)} {m n : String × Value} {name : String}
variable {v w : Value}

/-- What is found for a name is the value of the last member with that name. -/
lemma lastMember_eq_some_iff : lastMember members name = some v ↔ IsLast members name v := by
  rw [lastMember, List.lookup_eq_some_iff]
  constructor
  · rintro ⟨back, front, e, hback⟩
    refine ⟨front.reverse, back.reverse, ?_, fun m hm => ?_⟩
    · rw [← List.reverse_reverse members, e, List.reverse_append, List.reverse_cons,
        List.append_assoc, List.singleton_append]
    · exact (bne_iff_ne.1 (hback m (List.mem_reverse.1 hm))).symm
  · rintro ⟨front, back, rfl, hback⟩
    refine ⟨back.reverse, front.reverse, ?_, fun m hm => ?_⟩
    · rw [List.reverse_append, List.reverse_cons, List.append_assoc, List.singleton_append]
    · exact bne_iff_ne.2 (hback m (List.mem_reverse.1 hm)).symm

/-- Nothing is found for a name that no member has. -/
lemma lastMember_eq_none_iff : lastMember members name = none ↔ ∀ m ∈ members, m.1 ≠ name := by
  rw [lastMember, List.lookup_eq_none_iff]
  constructor
  · intro h m hm
    exact (bne_iff_ne.1 (h m (List.mem_reverse.2 hm))).symm
  · intro h m hm
    exact bne_iff_ne.2 (h m (List.mem_reverse.1 hm)).symm

/-- Members that come later win over those that come earlier. -/
lemma lastMember_append :
    lastMember (front ++ back) name = (lastMember back name).or (lastMember front name) := by
  rw [lastMember, List.reverse_append, List.lookup_append]
  rfl

/-- A member counts only where no later one has its name. -/
lemma lastMember_cons : lastMember (m :: back) name =
    (lastMember back name).or (if m.1 = name then some m.2 else none) := by
  have hsingle : lastMember [m] name = if m.1 = name then some m.2 else none := by
    rw [lastMember, List.reverse_singleton, List.lookup_cons]
    split
    · next h => rw [if_pos (eq_of_beq h).symm]
    · next h => rw [if_neg fun e => ne_of_beq_false h e.symm, List.lookup_nil]
  rw [← List.singleton_append, lastMember_append, hsingle]

/-- A member with another name does not count. -/
lemma lastMember_cons_of_ne (h : m.1 ≠ name) :
    lastMember (m :: back) name = lastMember back name := by
  rw [lastMember_cons, if_neg h, Option.or_none]

/-- A namesake that comes later takes the place of a member. -/
lemma lastMember_cons_of_mem (h : ∃ n ∈ back, n.1 = m.1) :
    lastMember (m :: back) name = lastMember back name := by
  obtain ⟨n, hn, e⟩ := h
  by_cases hname : m.1 = name
  · cases hlast : lastMember back name with
    | none => exact absurd (e.trans hname) (lastMember_eq_none_iff.1 hlast n hn)
    | some v => rw [lastMember_cons, hlast, Option.some_or]
  · exact lastMember_cons_of_ne hname

/-- Neighbours of different names may change places, and so may those of other names. -/
lemma lastMember_swap (h : m.1 ≠ n.1 ∨ m.1 ≠ name) :
    lastMember (m :: n :: back) name = lastMember (n :: m :: back) name := by
  by_cases hm : m.1 = name
  · have hn : n.1 ≠ name := by
      rintro rfl
      exact h.elim (absurd hm) (absurd hm)
    rw [lastMember_cons_of_ne hn, lastMember_cons, lastMember_cons_of_ne hn, ← lastMember_cons]
  · rw [lastMember_cons_of_ne hm, lastMember_cons, lastMember_cons, lastMember_cons_of_ne hm]

/-- What does not count leaves the last member of a name that counts as it is, for whoever looks at
strings alone. -/
lemma Immaterial.lastMember_map {f : Value → Option String} (hf : ∀ v, NoString v → f v = none)
    (hname : ¬ OtherName name) {a b : List (String × Value)} (h : Immaterial a b) :
    (lastMember a name).map f = (lastMember b name).map f := by
  have hne : ∀ {other}, OtherName other → other ≠ name := by
    rintro other hother rfl
    exact hname hother
  cases h with
  | other hm => rw [lastMember_append, lastMember_append, lastMember_cons_of_ne (hne hm)]
  | earlier hm => rw [lastMember_append, lastMember_append, lastMember_cons_of_mem hm]
  | swapped hm =>
    rw [lastMember_append, lastMember_append, lastMember_swap (hm.imp_right hne)]
  | @nested front other v w back hv hw =>
    rw [lastMember_append, lastMember_append, lastMember_cons, lastMember_cons]
    split
    · cases lastMember back name with
      | none => exact congrArg some ((hf v hv).trans (hf w hw).symm)
      | some _ => rfl
    · rfl

end

/-! ## What the members configure -/

/-- A text that is not blank can be used as a number. -/
lemma usableNumber_string {s : String} (hs : ∃ c ∈ s.toList, Text.isBlank c = false) :
    usableNumber (.string s) = some s := by
  have hblank : ¬ s.toList.all Text.isBlank = true := by
    obtain ⟨c, hc, hno⟩ := hs
    rw [Bool.not_eq_true, List.all_eq_false]
    exact ⟨c, hc, Bool.eq_false_iff.1 hno⟩
  exact if_neg hblank

/-- A value is no number to authorize if it is no string or a blank one. -/
lemma usableNumber_eq_none_iff {v : Value} :
    usableNumber v = none ↔
      NoString v ∨ ∃ s, v = .string s ∧ ∀ c ∈ s.toList, Text.isBlank c = true := by
  cases v with
  | string text =>
    constructor
    · intro h
      by_cases hblank : ∃ c ∈ text.toList, Text.isBlank c = false
      · rw [usableNumber_string hblank] at h
        cases h
      · refine .inr ⟨text, rfl, fun c hc => ?_⟩
        rw [← Bool.not_eq_false]
        exact fun hno => hblank ⟨c, hc, hno⟩
    · rintro (h | ⟨s, ⟨⟩, h⟩)
      · exact absurd rfl (h text)
      · exact if_pos (List.all_eq_true.2 h)
  | _ => exact ⟨fun _ => .inl fun s => nofun, fun _ => rfl⟩

/-- A level is hinted at by a text and by nothing else. -/
lemma levelHint_eq_some_iff {v : Value} {s : String} : levelHint v = some s ↔ v = .string s := by
  cases v with
  | string text => rw [levelHint, Option.some.injEq, Value.string.injEq]
  | _ => exact ⟨nofun, nofun⟩

section
variable {members : List (String × Value)}

/-- The number is missing where no member has its name, -/
lemma ofMembers_eq_numberMissing_iff :
    ofMembers members = .error .numberMissing ↔ lastMember members numberName = none := by
  unfold ofMembers
  split
  · next h => exact ⟨fun _ => h, fun _ => rfl⟩
  · next h =>
    rw [h]
    split
    · exact ⟨nofun, nofun⟩
    · exact ⟨nofun, nofun⟩

/-- and unusable where the last one that has it holds no usable text. -/
lemma ofMembers_eq_numberUnusable_iff :
    ofMembers members = .error .numberUnusable ↔
      ∃ v, lastMember members numberName = some v ∧ usableNumber v = none := by
  unfold ofMembers
  split
  · next h => exact ⟨nofun, fun ⟨v, hv, _⟩ => nomatch h.symm.trans hv⟩
  · next v h =>
    simp only [h, Option.some.injEq, exists_eq_left']
    split
    · next hv => exact ⟨fun _ => hv, fun _ => rfl⟩
    · next hv =>
      rw [hv]
      exact ⟨nofun, nofun⟩

/-- In all other cases the members make a configuration. -/
lemma ofMembers_of_usable {s : String} (h : lastMember members numberName = some (.string s))
    (hs : ∃ c ∈ s.toList, Text.isBlank c = false) :
    ofMembers members = .ok ⟨s, (lastMember members logLevelName).bind levelHint⟩ := by
  simp only [ofMembers, h, usableNumber_string hs]

/-- Its level is the text that the last member for the level holds. -/
lemma bind_levelHint_eq_some_iff {level : String} :
    (lastMember members logLevelName).bind levelHint = some level ↔
      IsLast members "log_level" (.string level) := by
  rw [Option.bind_eq_some_iff, ← lastMember_eq_some_iff]
  constructor
  · rintro ⟨v, hv, hlevel⟩
    rw [levelHint_eq_some_iff.1 hlevel] at hv
    exact hv
  · exact fun h => ⟨_, h, rfl⟩

/-- Members configure the same if the values that count look the same to whoever takes strings
alone. -/
lemma ofMembers_congr {a b : List (String × Value)}
    (hnumber : (lastMember a numberName).map usableNumber =
      (lastMember b numberName).map usableNumber)
    (hlevel : (lastMember a logLevelName).map levelHint =
      (lastMember b logLevelName).map levelHint) :
    ofMembers a = ofMembers b := by
  have hhint : (lastMember a logLevelName).bind levelHint =
      (lastMember b logLevelName).bind levelHint := by
    have h := congrArg (Option.bind · id) hlevel
    simp only [Option.bind_map, Function.id_comp] at h
    exact h
  unfold ofMembers
  rw [hhint]
  cases ha : lastMember a numberName with
  | none =>
    rw [ha, Option.map_none, eq_comm, Option.map_eq_none_iff] at hnumber
    rw [hnumber]
  | some v =>
    rw [ha, Option.map_some, eq_comm, Option.map_eq_some_iff] at hnumber
    obtain ⟨w, hb, hw⟩ := hnumber
    simp only [hb, hw]

end

/-- A change that is immaterial leaves what the members say as it is. -/
lemma Immaterial.ofMembers_eq {a b : List (String × Value)} (h : Immaterial a b) :
    ofMembers a = ofMembers b := by
  have hno : ∀ v, NoString v → usableNumber v = none ∧ levelHint v = none := by
    intro v hv
    cases v with
    | string s => exact absurd rfl (hv s)
    | _ => exact ⟨rfl, rfl⟩
  apply ofMembers_congr
  · exact h.lastMember_map (fun v hv => (hno v hv).1) fun hother => hother.1 rfl
  · exact h.lastMember_map (fun v hv => (hno v hv).2) fun hother => hother.2 rfl

/-- Nor does any number of such changes, made or undone in any order, change what is configured. -/
lemma ofMembers_eq_of_eqvGen {a b : List (String × Value)}
    (h : Relation.EqvGen Immaterial a b) : ofMembers a = ofMembers b := by
  induction h with
  | rel a b h => exact h.ofMembers_eq
  | refl a => rfl
  | symm a b _ ih => exact ih.symm
  | trans a b c _ _ ihab ihbc => exact ihab.trans ihbc

/-! ## Documents -/

/-- A document with an object in it configures what its members do. -/
lemma ofText_of_isDocument {text : String} {members : List (String × Value)}
    (hdocument : IsDocument text (.object members)) (hrange : (Value.object members).InRange) :
    ofText text = ofMembers members := by
  simp only [ofText, read_eq_ok_iff.2 ⟨hdocument, hrange⟩]

/-- An object lacks a number exactly if no member is named for it, and has none that can be used
exactly if the last member so named is no string or a blank one. Otherwise it configures that string
as it is, with a level exactly if the last member named for that is a string, and then this one.
What is immaterial to the members makes no difference. -/
theorem ofText_decided_by_last_members {text : String} {members : List (String × Value)}
    (hdocument : IsDocument text (.object members)) (hrange : (Value.object members).InRange) :
    (ofText text = .error .numberMissing ↔ ∀ m ∈ members, m.1 ≠ "authorized_number") ∧
    (ofText text = .error .numberUnusable ↔
      ∃ v, IsLast members "authorized_number" v ∧
        (NoString v ∨ ∃ s, v = .string s ∧ ∀ c ∈ s.toList, Text.isBlank c = true)) ∧
    (∀ s, IsLast members "authorized_number" (.string s) →
      (∃ c ∈ s.toList, Text.isBlank c = false) →
      ∃ config, ofText text = .ok config ∧ config.number = s ∧
        ∀ level, config.logLevel = some level ↔ IsLast members "log_level" (.string level)) ∧
    ∀ text' members', IsDocument text' (.object members') →
      (Value.object members').InRange → Relation.EqvGen Immaterial members members' →
      ofText text' = ofText text := by
  rw [ofText_of_isDocument hdocument hrange]
  refine ⟨?_, ?_, fun s hlast hs => ?_, fun text' members' hdocument' hrange' h => ?_⟩
  · exact ofMembers_eq_numberMissing_iff.trans lastMember_eq_none_iff
  · simp only [ofMembers_eq_numberUnusable_iff, usableNumber_eq_none_iff, lastMember_eq_some_iff]
    rfl
  · refine ⟨_, ofMembers_of_usable (lastMember_eq_some_iff.2 hlast) hs, rfl, fun level => ?_⟩
    exact bind_levelHint_eq_some_iff
  · rw [ofText_of_isDocument hdocument' hrange']
    exact (ofMembers_eq_of_eqvGen h).symm

/-- A document that configures a number twice, of which the first cannot be used and the second is
under a name with an escape, and has a namesake inside a nested value. -/
def namesakes : String :=
  "\x7b\"x\": \x7b\"authorized_number\": \"+9\"\x7d, \"authorized_number\": 7, " ++
    "\"\\u0061uthorized_number\": \"+1\"\x7d"

/-- A document that configures the same number and nothing else. -/
def onlyNumber : String := "\x7b\"authorized_number\": \"+1\"\x7d"

/-- A value that can be computed from a text is the one that is read. -/
lemma read_eq_ok {text : String} {v : Value} (h : (read text).toOption = some v) :
    read text = .ok v := by
  cases e : read text with
  | error m =>
    rw [e] at h
    cases h
  | ok w =>
    rw [e] at h
    exact congrArg Except.ok (Option.some.inj h)

/-- The members of the first document. -/
lemma read_namesakes : read namesakes =
    .ok (.object [("x", .object [("authorized_number", .string "+9")]),
      ("authorized_number", .number ⟨false, ['7'], none, none⟩),
      ("authorized_number", .string "+1")]) :=
  read_eq_ok (by decide +kernel)

/-- The member of the second one. -/
lemma read_onlyNumber : read onlyNumber =
    .ok (.object [("authorized_number", .string "+1")]) :=
  read_eq_ok (by decide +kernel)

/-- A namesake inside a nested value, a first number that cannot be used, and the one that counts
under a name with an escape. The document configures what it does without the other two. -/
theorem ofText_decided_by_last_members_escaped :
    ∃ text members config,
      text = "\x7b\"x\": \x7b\"authorized_number\": \"+9\"\x7d, \"authorized_number\": 7, " ++
        "\"\\u0061uthorized_number\": \"+1\"\x7d" ∧
      IsDocument text (.object members) ∧ (Value.object members).InRange ∧
      ofText text = .ok config ∧ config.number = "+1" ∧ (∀ level, config.logLevel ≠ some level) ∧
      ofText "\x7b\"authorized_number\": \"+1\"\x7d" = ofText text := by
  obtain ⟨hdocument, hrange⟩ := read_eq_ok_iff.1 read_namesakes
  obtain ⟨hdocument', hrange'⟩ := read_eq_ok_iff.1 read_onlyNumber
  obtain ⟨-, -, hok, hsame⟩ := ofText_decided_by_last_members hdocument hrange
  obtain ⟨config, hconfig, hnumber, hlevel⟩ :=
    hok "+1" ⟨[_, _], [], rfl, List.forall_mem_nil _⟩ ⟨'+', by decide, by decide⟩
  refine ⟨_, _, config, rfl, hdocument, hrange, hconfig, hnumber, fun level h => ?_, ?_⟩
  · have hlast := lastMember_eq_some_iff.2 ((hlevel level).1 h)
    cases hlast
  · apply hsame _ _ hdocument' hrange'
    have hother := @Immaterial.other [] ("x", .object [("authorized_number", .string "+9")])
      [("authorized_number", .number ⟨false, ['7'], none, none⟩),
        ("authorized_number", .string "+1")] ⟨by decide, by decide⟩
    have hearlier := @Immaterial.earlier []
      ("authorized_number", .number ⟨false, ['7'], none, none⟩)
      [("authorized_number", .string "+1")] ⟨_, List.mem_cons_self, rfl⟩
    exact .trans _ _ _ (.rel _ _ hother) (.rel _ _ hearlier)

end Gatekeeper.Configuration
