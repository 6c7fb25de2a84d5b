import Mathlib.Data.List.TakeWhile
import Gatekeeper.Proofs.Settings.Level
import Gatekeeper.Proofs.Settings.Reachable

/-!
# Names of settings

Two names make settings, in whichever case their ASCII letters are. What else begins like them leads
somewhere else by its first step, and what does not begin like them leads nowhere. So where no name
goes below a setting, a setting is what its variable says, to the letter.

`Plain` is said with names alone: no word of paths or of the sources that settings are merged from.
It is decidable, so that it can be checked for a given environment. `pathOf_eq` and `readStep_name`
read a name up to its first double underscore; a name that is `Unrelated` makes neither setting
(`Unrelated.not_makes`). The one letter beyond ASCII that has its lower case there is the Kelvin
sign, and `map_toLower_of_marker` is that it makes no difference. `Plain.exists_settings` is what an
environment then leads to.
-/

namespace Gatekeeper.Settings

/-! ## Names -/

/-- The variable for the path of the configuration. -/
def pathVariable : String := "SENDER_GATE__CONFIG_PATH"

/-- A name with its ASCII letters in lower case. -/
def folded (name : String) : List Char := name.toList.map Char.toLower

/-- What comes before the first double underscore. -/
def firstSegment : List Char → List Char
  | '_' :: '_' :: _ => []
  | c :: cs => c :: firstSegment cs
  | [] => []

/-- An ASCII letter, an ASCII digit or an underscore. -/
def isNameChar (c : Char) : Bool := c.isAlphanum || c == '_'

/-- The name does not start like those of settings, or goes on in ASCII letters, digits and
underscores, the first of them a letter, to lead neither to a setting nor below one. -/
def Unrelated (name : String) : Prop :=
  ∀ rest, folded name = marker ++ rest →
    rest.all isNameChar = true ∧ rest.head?.any Char.isAlpha = true ∧
    firstSegment rest ≠ "config_path".toList ∧ firstSegment rest ≠ "log_level".toList

/-- A variable of that name, in whichever case, has the value. -/
def Sets (env : Environment) (name value : String) : Prop :=
  ∃ v ∈ env, folded v.1 = folded name ∧ v.2 = value

/-- At most one variable has that name, in whichever case. -/
def SetOnce (env : Environment) (name : String) : Prop :=
  ∀ v ∈ env, ∀ v' ∈ env, folded v.1 = folded name → folded v'.1 = folded name → v = v'

/-- Each setting has one variable at most, and all other variables have to do with none. -/
structure Plain (env : Environment) : Prop where
  path_once : SetOnce env pathVariable
  level_once : SetOnce env levelVariable
  unrelated :
    ∀ v ∈ env, folded v.1 ≠ folded pathVariable → folded v.1 ≠ folded levelVariable →
      Unrelated v.1

/-! ## Telling whether an environment is plain -/

/-- What is asked of the rest behind the marker can be asked of a name that begins with it. -/
lemma forall_rest_iff {cs : List Char} {p : List Char → Prop} :
    (∀ rest, cs = marker ++ rest → p rest) ↔ (marker <+: cs → p (cs.drop marker.length)) := by
  constructor
  · intro h hprefix
    exact h _ (List.prefix_iff_eq_append.1 hprefix).symm
  · rintro h rest rfl
    have hrest := h (List.prefix_append _ _)
    rwa [List.drop_left] at hrest

/-- Whether a name is unrelated can be computed. -/
instance : DecidablePred Unrelated := fun _ => decidable_of_iff' _ forall_rest_iff

/-- Whether a name sets a value can be computed. -/
instance (env : Environment) (name value : String) : Decidable (Sets env name value) :=
  inferInstanceAs (Decidable (∃ v ∈ env, _ ∧ _))

/-- Whether a name is set at most once can be computed. -/
instance (env : Environment) (name : String) : Decidable (SetOnce env name) :=
  inferInstanceAs (Decidable (∀ v ∈ env, ∀ v' ∈ env, _ → _ → _))

/-- An environment is plain if the three things that are asked of it hold. -/
lemma plain_iff {env : Environment} :
    Plain env ↔ SetOnce env pathVariable ∧ SetOnce env levelVariable ∧
      ∀ v ∈ env, folded v.1 ≠ folded pathVariable → folded v.1 ≠ folded levelVariable →
        Unrelated v.1 :=
  ⟨fun h => ⟨h.path_once, h.level_once, h.unrelated⟩, fun h => ⟨h.1, h.2.1, h.2.2⟩⟩

/-- So whether it is plain can be computed. -/
instance : DecidablePred Plain := fun _ => decidable_of_iff' _ plain_iff

/-! ## Lower case -/

/-- The one character beside those of ASCII that has an ASCII letter for its lower case. -/
def kelvin : Char := '\u212a'

/-- All but the Kelvin sign have the lower case of ASCII. -/
lemma lower_of_ne {c : Char} (h : c ≠ kelvin) : lower c = c.toLower :=
  if_neg (mt eq_of_beq h)

/-- Where no Kelvin sign is, lower case is that of ASCII. -/
lemma map_lower {cs : List Char} (h : kelvin ∉ cs.map Char.toLower) :
    cs.map lower = cs.map Char.toLower := by
  apply List.map_congr_left
  intro c hc
  apply lower_of_ne
  rintro rfl
  exact h (List.mem_map.2 ⟨kelvin, hc, rfl⟩)

/-- The start of the names of settings has no letter that a Kelvin sign could stand for. -/
lemma map_toLower_of_marker {cs : List Char} (h : cs.map lower = marker) :
    cs.map Char.toLower = marker := by
  rw [← h]
  apply List.map_congr_left
  intro c hc
  have hlower : lower c ∈ marker := by
    rw [← h]
    exact List.mem_map_of_mem hc
  refine (lower_of_ne ?_).symm
  rintro rfl
  exact absurd hlower (by decide)

/-! ## Paths -/

/-- The path of a name is read behind the marker. -/
lemma pathOf_eq {name : String} {path : List Char} (h : name.toList.map lower = marker ++ path) :
    pathOf name = (Text.split '.' (dotted path)).mapM readStep := by
  have hprefix : marker.isPrefixOf (marker ++ path) = true :=
    List.isPrefixOf_iff_prefix.2 (List.prefix_append _ _)
  simp only [pathOf, h, hprefix, if_true, List.drop_left]

/-- A name that does not start like those of settings is no path. -/
lemma pathOf_eq_none {name : String} (h : ∀ rest, folded name ≠ marker ++ rest) :
    pathOf name = none := by
  unfold pathOf
  rw [if_neg]
  intro hprefix
  obtain ⟨path, hpath⟩ := List.isPrefixOf_iff_prefix.1 hprefix
  obtain ⟨front, back, hname, hfront, -⟩ := List.map_eq_append_iff.1 hpath.symm
  apply h (back.map Char.toLower)
  rw [folded, hname, List.map_append, map_toLower_of_marker hfront]

/-- The first part between points is what comes before the first double underscore. -/
lemma split_dotted {cs : List Char} (h : '.' ∉ cs) :
    ∃ more, Text.split '.' (dotted cs) = firstSegment cs :: more := by
  induction cs using dotted.induct with
  | case1 cs _ =>
    rw [dotted, Text.split, firstSegment]
    exact ⟨_, rfl⟩
  | case2 c cs hne ih =>
    obtain ⟨hc, hcs⟩ := List.ne_and_not_mem_of_not_mem_cons h
    have hpoint : ¬ (c == '.') = true := fun e => hc (eq_of_beq e).symm
    obtain ⟨more, hmore⟩ := ih hcs
    rw [dotted, Text.split, if_neg hpoint, hmore, firstSegment]
    · exact ⟨more, rfl⟩
    · exact hne
    · exact hne
  | case3 => exact ⟨[], rfl⟩

/-- A first step in letters, digits and underscores is named as it is written. -/
lemma readStep_name {text : List Char} {step : Step}
    (htext : ∀ c ∈ text, isNameChar c = true) (h : readStep text = some step) :
    step.name = String.ofList text := by
  have hname : text.takeWhile isStepChar = text := by
    apply List.takeWhile_eq_self_iff.2
    intro c hc
    have hchar := htext c hc
    rw [isNameChar] at hchar
    rw [isStepChar, hchar]
    rfl
  unfold readStep at h
  simp only [hname] at h
  split at h
  · cases h
  · obtain ⟨indices, -, rfl⟩ := Option.map_eq_some_iff.1 h
    rfl

/-- The first segment of a text has no other characters than the text. -/
lemma mem_of_mem_firstSegment {c : Char} {cs : List Char} (h : c ∈ firstSegment cs) : c ∈ cs := by
  induction cs using firstSegment.induct with
  | case1 cs =>
    rw [firstSegment] at h
    cases h
  | case2 d cs hne ih =>
    rw [firstSegment] at h
    · obtain rfl | h := List.mem_cons.1 h
      · exact List.mem_cons_self
      · exact List.mem_cons_of_mem d (ih h)
    · exact hne
  | case3 => cases h

section
variable {name value setting : String} {shape : Shape}

/-- An unrelated name makes nothing of the two settings. -/
lemma Unrelated.not_makes (h : Unrelated name)
    (hsetting : setting = "config_path" ∨ setting = "log_level") :
    ¬ Makes setting (name, value) shape := by
  intro hmakes
  unfold Makes ofVariable at hmakes
  obtain ⟨path, hpath, hshape⟩ := Option.bind_eq_some_iff.1 hmakes
  by_cases hrest : ∃ rest, folded name = marker ++ rest
  · obtain ⟨rest, hrest⟩ := hrest
    obtain ⟨hall, -, hpathStep, hlevelStep⟩ := h rest hrest
    have hchars := List.all_eq_true.1 hall
    have hlower : name.toList.map lower = marker ++ rest := by
      rw [map_lower]
      · exact hrest
      · show kelvin ∉ folded name
        rw [hrest, List.mem_append, not_or]
        exact ⟨by decide, fun hmem => absurd (hchars kelvin hmem) (by decide)⟩
    obtain ⟨more, hsplit⟩ := split_dotted fun hmem => absurd (hchars '.' hmem) (by decide)
    rw [pathOf_eq hlower, hsplit, List.mapM_cons] at hpath
    obtain ⟨step, hstep, hpath⟩ := Option.bind_eq_some_iff.1 hpath
    obtain ⟨below, -, hpath⟩ := Option.bind_eq_some_iff.1 hpath
    obtain rfl := Option.some.inj hpath
    have hname := readStep_name (fun c hc => hchars c (mem_of_mem_firstSegment hc)) hstep
    rw [settingAt, Option.some.injEq, Prod.mk.injEq, hname] at hshape
    have hfirst : firstSegment rest = setting.toList := by
      rw [← hshape.1, String.toList_ofList]
    obtain rfl | rfl := hsetting
    · exact hpathStep hfirst
    · exact hlevelStep hfirst
  · rw [pathOf_eq_none fun rest e => hrest ⟨rest, e⟩] at hpath
    cases hpath

/-- It asks for no item of a sequence either. -/
lemma Unrelated.isUnreachable_eq_false (h : Unrelated name) : isUnreachable name = false := by
  by_cases hrest : ∃ rest, folded name = marker ++ rest
  · obtain ⟨rest, hrest⟩ := hrest
    apply Settings.isUnreachable_eq_false
    intro hmem
    have hfolded : ']' ∈ folded name := List.mem_map.2 ⟨']', hmem, rfl⟩
    rw [hrest, List.mem_append] at hfolded
    obtain hfolded | hfolded := hfolded
    · exact absurd hfolded (by decide)
    · exact absurd (List.all_eq_true.1 (h rest hrest).1 ']' hfolded) (by decide)
  · simp only [isUnreachable, pathOf_eq_none fun rest e => hrest ⟨rest, e⟩]

/-- The names of the two settings are the same paths in whichever case. -/
lemma pathOf_congr {known : String} (hkelvin : kelvin ∉ folded known)
    (h : folded name = folded known) : pathOf name = pathOf known := by
  have hknown : known.toList.map lower = folded known := map_lower hkelvin
  have hname : name.toList.map lower = folded name := by
    apply map_lower
    show kelvin ∉ folded name
    rwa [h]
  unfold pathOf
  rw [hname, hknown, h]

/-- A name for the path in any case leads to the path. -/
lemma pathOf_path (h : folded name = folded pathVariable) :
    pathOf name = some [⟨"config_path", []⟩] := by
  rw [pathOf_congr (by decide +kernel) h]
  decide +kernel

/-- A name for the level in any case leads to the level. -/
lemma pathOf_level (h : folded name = folded levelVariable) :
    pathOf name = some [⟨"log_level", []⟩] := by
  rw [pathOf_congr (by decide +kernel) h]
  decide +kernel

end

/-! ## Settings -/

section
variable {env : Environment} {known setting : String}

/-- A setting that the variables of one name alone make, each by what it says, is what the one says
that there is. -/
lemma textOf_find (honce : SetOnce env known)
    (hmakes : ∀ v ∈ env, ∀ shape,
      Makes setting v shape ↔ folded v.1 = folded known ∧ shape = .text v.2) :
    ∃ text, textOf setting (find env setting) = .ok text ∧
      ∀ value, text = some value ↔ Sets env known value := by
  cases hfind : find env setting with
  | none =>
    refine ⟨none, rfl, fun value => ⟨nofun, ?_⟩⟩
    rintro ⟨v, hv, hname, -⟩
    exact absurd hfind (find_ne_none hv ((hmakes v hv _).2 ⟨hname, rfl⟩))
  | some shape =>
    obtain ⟨v, hv, hmade⟩ := exists_of_find hfind
    obtain ⟨hname, rfl⟩ := (hmakes v hv shape).1 hmade
    refine ⟨some v.2, rfl, fun value => ?_⟩
    rw [Option.some.injEq]
    constructor
    · exact fun e => ⟨v, hv, hname, e⟩
    · rintro ⟨v', hv', hname', e⟩
      rw [honce v hv v' hv' hname hname', e]

/-- In a plain environment only such a name makes the path, and what it makes is its value. -/
lemma Plain.makes_path (h : Plain env) (v : String × String) (hv : v ∈ env) (shape : Shape) :
    Makes "config_path" v shape ↔ folded v.1 = folded pathVariable ∧ shape = .text v.2 := by
  by_cases hpath : folded v.1 = folded pathVariable
  · rw [makes_iff_of_pathOf (pathOf_path hpath)]
    exact and_congr_left fun _ => iff_of_true rfl hpath
  · refine ⟨fun hmakes => ?_, fun e => absurd e.1 hpath⟩
    by_cases hlevel : folded v.1 = folded levelVariable
    · exact absurd ((makes_iff_of_pathOf (pathOf_level hlevel)).1 hmakes).1 (by decide)
    · exact absurd hmakes ((h.unrelated v hv hpath hlevel).not_makes (.inl rfl))

/-- The same goes for the level. -/
lemma Plain.makes_level (h : Plain env) (v : String × String) (hv : v ∈ env) (shape : Shape) :
    Makes "log_level" v shape ↔ folded v.1 = folded levelVariable ∧ shape = .text v.2 := by
  by_cases hlevel : folded v.1 = folded levelVariable
  · rw [makes_iff_of_pathOf (pathOf_level hlevel)]
    exact and_congr_left fun _ => iff_of_true rfl hlevel
  · refine ⟨fun hmakes => ?_, fun e => absurd e.1 hlevel⟩
    by_cases hpath : folded v.1 = folded pathVariable
    · exact absurd ((makes_iff_of_pathOf (pathOf_path hpath)).1 hmakes).1 (by decide)
    · exact absurd hmakes ((h.unrelated v hv hpath hlevel).not_makes (.inr rfl))

/-- Each setting is what its variable says, and is there exactly if the variable is. -/
lemma Plain.exists_settings (h : Plain env) :
    ∃ settings, ofEnvironment env = .ok settings ∧
      (∀ value, settings.configPath = some value ↔ Sets env pathVariable value) ∧
      ∀ value, settings.logLevel = some value ↔ Sets env levelVariable value := by
  obtain ⟨path, hpath, hpathValue⟩ := textOf_find h.path_once h.makes_path
  obtain ⟨level, hlevel, hlevelValue⟩ := textOf_find h.level_once h.makes_level
  refine ⟨⟨path, level⟩, ?_, hpathValue, hlevelValue⟩
  unfold ofEnvironment
  rw [hpath, hlevel]
  rfl

/-- Settings are the same if the same is said of them. -/
lemma eq_of_same {settings settings' : Settings} {path level : String → Prop}
    (hpath : ∀ value, settings.configPath = some value ↔ path value)
    (hpath' : ∀ value, settings'.configPath = some value ↔ path value)
    (hlevel : ∀ value, settings.logLevel = some value ↔ level value)
    (hlevel' : ∀ value, settings'.logLevel = some value ↔ level value) : settings = settings' := by
  have e : settings.configPath = settings'.configPath :=
    Option.ext fun value => (hpath value).trans (hpath' value).symm
  have e' : settings.logLevel = settings'.logLevel :=
    Option.ext fun value => (hlevel value).trans (hlevel' value).symm
  cases settings
  cases settings'
  cases e
  cases e'
  rfl

/-- No variable asks for an item of a sequence. -/
lemma Plain.not_hasUnreachable (h : Plain env) : ¬ env.HasUnreachable := by
  rintro ⟨v, hv, hunreachable⟩
  by_cases hpath : folded v.1 = folded pathVariable
  · rw [isUnreachable, pathOf_path hpath] at hunreachable
    cases hunreachable
  · by_cases hlevel : folded v.1 = folded levelVariable
    · rw [isUnreachable, pathOf_level hlevel] at hunreachable
      cases hunreachable
    · rw [(h.unrelated v hv hpath hlevel).isUnreachable_eq_false] at hunreachable
      cases hunreachable

end

end Gatekeeper.Settings
