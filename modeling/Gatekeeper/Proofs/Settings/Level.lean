import Mathlib.Tactic.Lemma
import Gatekeeper.Settings

/-!
# Settings but for the level

The level of the log is one setting among others. Environments that agree but for the variable that
makes it lead to settings that agree but for the level. This is `SamePath`: to the same path, or to
the same fault.

There is one way for it to fail. A variable whose path goes on below the level makes it a map, and
where the variable for the level itself is set as well, the later one of the two counts. So the
settings of one environment may be faulty where those of the other are not. `samePath_of_iff` leaves
that case out by asking that both environments lead to settings or neither does, and `samePath`
excludes it with `LevelIsText`.

Both rest on `find`, taken apart one variable at a time by `find_cons_of_makes` and
`find_cons_of_not_makes`: variables that make nothing of a setting can be left out
(`find_without`), and so can those that make texts of it, where it is no text after all
(`find_level_without`).
-/

namespace Gatekeeper

/-- The environment without the variables of those names. -/
def Environment.without (env : Environment) (names : List String) : Environment :=
  env.filter fun v => v.1 ∉ names

/-- What is left is what there was, but for those names. -/
lemma Environment.mem_without {env : Environment} {names : List String} {v : String × String} :
    v ∈ env.without names ↔ v ∈ env ∧ v.1 ∉ names := by
  rw [Environment.without, List.mem_filter, decide_eq_true_iff]

/-- A variable of another name is looked up as before. -/
lemma Environment.get?_without {name : String} {names : List String} (h : name ∉ names)
    (env : Environment) : (env.without names).get? name = env.get? name := by
  unfold Environment.without Environment.get?
  induction env with
  | nil => rfl
  | cons v env ih =>
    rw [List.filter_cons, List.lookup_cons]
    by_cases hv : v.1 ∈ names
    · have hne : (name == v.1) = false := by
        apply beq_false_of_ne
        rintro rfl
        exact h hv
      rw [if_neg (by rwa [decide_eq_true_iff, Classical.not_not]), ih, hne]
    · rw [if_pos (decide_eq_true hv), List.lookup_cons, ih]

namespace Settings

/-! ## What makes a setting -/

section
variable {env : Environment} {setting : String}

/-- The variable makes something of the setting. -/
def Makes (setting : String) (v : String × String) (shape : Shape) : Prop :=
  ofVariable v.1 v.2 = some (setting, shape)

/-- What becomes of a setting is what the last variable makes of it. -/
lemma find_eq (env : Environment) (setting : String) :
    find env setting = (env.filterMap fun v => ofVariable v.1 v.2).reverse.lookup setting := rfl

/-- A variable that makes nothing of the setting does not count. -/
lemma find_cons_of_not_makes {v : String × String} (h : ∀ shape, ¬ Makes setting v shape) :
    find (v :: env) setting = find env setting := by
  rw [find_eq, find_eq, List.filterMap_cons]
  cases hmade : ofVariable v.1 v.2 with
  | none => rfl
  | some made =>
    have hne : (setting == made.1) = false := by
      apply beq_false_of_ne
      rintro rfl
      exact h made.2 hmade
    simp only
    rw [List.reverse_cons, List.lookup_append, List.lookup_cons, hne]
    exact Option.or_none

/-- A variable that makes something of it counts if no later one does. -/
lemma find_cons_of_makes {v : String × String} {shape : Shape} (h : Makes setting v shape) :
    find (v :: env) setting = (find env setting).or (some shape) := by
  unfold Makes at h
  rw [find_eq, find_eq, List.filterMap_cons, h]
  simp only
  rw [List.reverse_cons, List.lookup_append, List.lookup_cons, beq_self_eq_true]

/-- Every variable makes something of a setting or does not. -/
lemma makes_or_not (setting : String) (v : String × String) :
    (∃ shape, Makes setting v shape) ∨ ∀ shape, ¬ Makes setting v shape := by
  by_cases h : ∃ shape, Makes setting v shape
  · exact .inl h
  · exact .inr fun shape hmakes => h ⟨shape, hmakes⟩

/-- What becomes of a setting is made by some variable. -/
lemma exists_of_find {shape : Shape} (h : find env setting = some shape) :
    ∃ v ∈ env, Makes setting v shape := by
  induction env with
  | nil => cases h
  | cons v env ih =>
    obtain ⟨made, hmade⟩ | hnot := makes_or_not setting v
    · rw [find_cons_of_makes hmade, Option.or_eq_some_iff] at h
      obtain h | ⟨-, h⟩ := h
      · obtain ⟨v', hv', hmakes⟩ := ih h
        exact ⟨v', List.mem_cons_of_mem v hv', hmakes⟩
      · cases h
        exact ⟨v, List.mem_cons_self, hmade⟩
    · rw [find_cons_of_not_makes hnot] at h
      obtain ⟨v', hv', hmakes⟩ := ih h
      exact ⟨v', List.mem_cons_of_mem v hv', hmakes⟩

/-- A variable that makes something of a setting makes it be there. -/
lemma find_ne_none {v : String × String} {shape : Shape} (hv : v ∈ env)
    (h : Makes setting v shape) : find env setting ≠ none := by
  induction env with
  | nil => cases hv
  | cons v' env ih =>
    obtain ⟨made, hmade⟩ | hnot := makes_or_not setting v'
    · rw [find_cons_of_makes hmade]
      cases find env setting with
      | none => exact nofun
      | some _ => exact nofun
    · rw [find_cons_of_not_makes hnot]
      obtain rfl | hv := List.mem_cons.1 hv
      · exact absurd h (hnot shape)
      · exact ih hv

/-- Variables that make nothing of a setting can be left out. -/
lemma find_without {names : List String}
    (h : ∀ v ∈ env, v.1 ∈ names → ∀ shape, ¬ Makes setting v shape) :
    find (env.without names) setting = find env setting := by
  induction env with
  | nil => rfl
  | cons v env ih =>
    obtain ⟨hv, henv⟩ := List.forall_mem_cons.1 h
    have ih := ih henv
    unfold Environment.without at ih ⊢
    rw [List.filter_cons]
    by_cases hmem : v.1 ∈ names
    · rw [if_neg (by rwa [decide_eq_true_iff, Classical.not_not]),
        find_cons_of_not_makes (hv hmem), ih]
    · rw [if_pos (decide_eq_true hmem)]
      obtain ⟨made, hmade⟩ | hnot := makes_or_not setting v
      · rw [find_cons_of_makes hmade, find_cons_of_makes hmade, ih]
      · rw [find_cons_of_not_makes hnot, find_cons_of_not_makes hnot, ih]

/-- A setting that is not made is not made of fewer variables. -/
lemma find_without_eq_none (names : List String) (h : find env setting = none) :
    find (env.without names) setting = none := by
  cases hfind : find (env.without names) setting with
  | none => rfl
  | some shape =>
    obtain ⟨v, hv, hmakes⟩ := exists_of_find hfind
    exact absurd h (find_ne_none (Environment.mem_without.1 hv).1 hmakes)

end

/-! ## The variable for the level -/

/-- The variable for the level of the log. -/
def levelVariable : String := "SENDER_GATE__LOG_LEVEL"

/-- A variable at the end of whose path a setting lies makes it what it says. -/
lemma makes_iff_of_pathOf {name value known setting : String} {shape : Shape}
    (h : pathOf name = some [⟨known, []⟩]) :
    Makes setting (name, value) shape ↔ setting = known ∧ shape = .text value := by
  unfold Makes ofVariable
  rw [h]
  show some (known, Shape.text value) = some (setting, shape) ↔ _
  rw [Option.some.injEq, Prod.mk.injEq, eq_comm, @eq_comm _ (Shape.text value)]

/-- The variable for the level makes it what the variable says, and nothing else. -/
lemma makes_level_iff {setting value : String} {shape : Shape} :
    Makes setting (levelVariable, value) shape ↔ setting = "log_level" ∧ shape = .text value :=
  makes_iff_of_pathOf (by decide +kernel)

/-- Where the variable for the level is set, no other one makes the level a map or a sequence. Which
of the two counts would be left to the order of variables, and that is not fixed. -/
def LevelIsText (env : Environment) : Prop :=
  ∀ value, (levelVariable, value) ∈ env →
    ∀ v ∈ env, ∀ shape, Makes "log_level" v shape → ∃ text, shape = .text text

/-- With the variable for the level alone the level is a text. -/
lemma levelIsText_singleton (value : String) : LevelIsText [(levelVariable, value)] := by
  intro value' _ v hv shape hmakes
  obtain rfl := List.mem_singleton.1 hv
  exact ⟨value, (makes_level_iff.1 hmakes).2⟩

/-- One more variable that makes nothing of the level changes nothing. -/
lemma LevelIsText.cons {env : Environment} {v : String × String} (h : LevelIsText env)
    (hnone : ∀ shape, ¬ Makes "log_level" v shape) : LevelIsText (v :: env) := by
  intro value hvalue v' hv' shape hmakes
  obtain rfl | hvalue := List.mem_cons.1 hvalue
  · exact absurd (makes_level_iff.2 ⟨rfl, rfl⟩) (hnone (.text value))
  · obtain rfl | hv' := List.mem_cons.1 hv'
    · exact absurd hmakes (hnone shape)
    · exact h value hvalue v' hv' shape hmakes

/-- A setting that only texts are made of is faultless. -/
lemma textOf_of_texts {env : Environment} {setting : String}
    (h : ∀ v ∈ env, ∀ shape, Makes setting v shape → ∃ text, shape = .text text) :
    ∃ text, textOf setting (find env setting) = .ok text := by
  cases hfind : find env setting with
  | none => exact ⟨none, rfl⟩
  | some shape =>
    obtain ⟨v, hv, hmakes⟩ := exists_of_find hfind
    obtain ⟨text, rfl⟩ := h v hv shape hmakes
    exact ⟨some text, rfl⟩

/-- Where the variable for the level is set, the settings have a level. -/
lemma exists_level {env : Environment} {settings : Settings} {value : String}
    (h : ofEnvironment env = .ok settings) (hset : (levelVariable, value) ∈ env) :
    ∃ level, settings.logLevel = some level := by
  have hfind := find_ne_none hset (makes_level_iff.2 ⟨rfl, rfl⟩)
  unfold ofEnvironment at h
  cases hpath : textOf "config_path" (find env "config_path") with
  | error fault =>
    rw [hpath] at h
    cases h
  | ok path => cases hlevel : find env "log_level" with
    | none => exact absurd hlevel hfind
    | some shape =>
      rw [hpath, hlevel] at h
      cases shape with
      | text level =>
        cases h
        exact ⟨level, rfl⟩
      | map => cases h
      | sequence => cases h

/-! ## Environments that agree but for the level -/

section
variable {env env' : Environment} {names : List String}

/-- The variables of those names make no settings. -/
def NoSettings (names : List String) : Prop :=
  ∀ name ∈ names, ∀ value setting shape, ¬ Makes setting (name, value) shape

/-- Environments that agree but for variables that make nothing of a setting agree on it. -/
lemma find_eq_of_without {setting : String} (hrest : env.without names = env'.without names)
    (h : ∀ v ∈ env, v.1 ∈ names → ∀ shape, ¬ Makes setting v shape)
    (h' : ∀ v ∈ env', v.1 ∈ names → ∀ shape, ¬ Makes setting v shape) :
    find env setting = find env' setting := by
  rw [← find_without h, ← find_without h', hrest]

/-- The variable for the level makes nothing of the path. -/
lemma find_path_eq
    (hrest : env.without (levelVariable :: names) = env'.without (levelVariable :: names))
    (hnames : NoSettings names) : find env "config_path" = find env' "config_path" := by
  have hother : ∀ v : String × String, v.1 ∈ levelVariable :: names →
      ∀ shape, ¬ Makes "config_path" v shape := by
    rintro ⟨name, value⟩ hname shape hmakes
    obtain rfl | hname := List.mem_cons.1 hname
    · exact absurd (makes_level_iff.1 hmakes).1 (by decide)
    · exact hnames name hname value _ shape hmakes
  exact find_eq_of_without hrest (fun v _ => hother v) fun v _ => hother v

/-- If the variable for the level is set in neither, other variables make the level, if any. -/
lemma find_level_eq
    (hrest : env.without (levelVariable :: names) = env'.without (levelVariable :: names))
    (hnames : NoSettings names) (hunset : ∀ value, (levelVariable, value) ∉ env)
    (hunset' : ∀ value, (levelVariable, value) ∉ env') :
    find env "log_level" = find env' "log_level" := by
  have hother : ∀ e : Environment, (∀ value, (levelVariable, value) ∉ e) → ∀ v ∈ e,
      v.1 ∈ levelVariable :: names → ∀ shape, ¬ Makes "log_level" v shape := by
    rintro e hunset ⟨name, value⟩ hv hname shape hmakes
    obtain rfl | hname := List.mem_cons.1 hname
    · exact hunset value hv
    · exact hnames name hname value _ shape hmakes
  exact find_eq_of_without hrest (hother env hunset) (hother env' hunset')

/-- Where the level is no text, the variable for it does not count, nor do those that make no
settings. -/
lemma find_level_without {shape : Shape} (hnames : NoSettings names)
    (h : find env "log_level" = some shape) (hshape : ∀ text, shape ≠ .text text) :
    find (env.without (levelVariable :: names)) "log_level" = some shape := by
  induction env with
  | nil => cases h
  | cons v env ih =>
    unfold Environment.without at ih ⊢
    rw [List.filter_cons]
    obtain ⟨made, hmade⟩ | hnot := makes_or_not "log_level" v
    · rw [find_cons_of_makes hmade, Option.or_eq_some_iff] at h
      obtain hlater | ⟨hlater, hshape'⟩ := h
      · -- A later variable decides, whether this one is left out or not.
        split
        · rw [find_cons_of_makes hmade, ih hlater, Option.some_or]
        · exact ih hlater
      · -- This one decides; then it is none of those that are left out.
        cases hshape'
        have hname : v.1 ∉ levelVariable :: names := by
          obtain ⟨name, value⟩ := v
          intro hname
          obtain rfl | hname := List.mem_cons.1 hname
          · exact hshape value (makes_level_iff.1 hmade).2
          · exact hnames name hname value _ _ hmade
        have hnone := find_without_eq_none (levelVariable :: names) hlater
        unfold Environment.without at hnone
        rw [if_pos (decide_eq_true hname), find_cons_of_makes hmade, hnone, Option.none_or]
    · rw [find_cons_of_not_makes hnot] at h
      split
      · rw [find_cons_of_not_makes hnot, ih h]
      · exact ih h

/-- If it is set in one of them, the level is a text in the other, too. -/
lemma LevelIsText.texts {value : String} (h : LevelIsText env)
    (hset : (levelVariable, value) ∈ env)
    (hrest : env.without (levelVariable :: names) = env'.without (levelVariable :: names))
    (hnames : NoSettings names) :
    ∀ v ∈ env', ∀ shape, Makes "log_level" v shape → ∃ text, shape = .text text := by
  rintro ⟨name, value'⟩ hv shape hmakes
  by_cases hname : name ∈ levelVariable :: names
  · obtain rfl | hname := List.mem_cons.1 hname
    · exact ⟨value', (makes_level_iff.1 hmakes).2⟩
    · exact absurd hmakes (hnames name hname value' _ shape)
  · have hmem : (name, value') ∈ env'.without (levelVariable :: names) :=
      Environment.mem_without.2 ⟨hv, hname⟩
    rw [← hrest] at hmem
    exact h value hset _ (Environment.mem_without.1 hmem).1 shape hmakes

/-- Both environments lead to the same fault, or to settings with the same path. -/
inductive SamePath : Except Fault Settings → Except Fault Settings → Prop where
  | error {fault} :
    SamePath (.error fault) (.error fault)
  | ok {path level level'} :
    SamePath (.ok ⟨path, level⟩) (.ok ⟨path, level'⟩)

/-- Environments that agree on both settings lead to the same. -/
lemma samePath_of_find_eq (hpath : find env "config_path" = find env' "config_path")
    (hlevel : find env "log_level" = find env' "log_level") :
    SamePath (ofEnvironment env) (ofEnvironment env') := by
  unfold ofEnvironment
  rw [hpath, hlevel]
  cases textOf "config_path" (find env' "config_path") with
  | error fault => exact .error
  | ok path => cases textOf "log_level" (find env' "log_level") with
    | error fault => exact .error
    | ok level => exact .ok

/-- Environments that agree on the path and make texts of the level lead to the same path. -/
lemma samePath_of_texts (hpath : find env "config_path" = find env' "config_path")
    (htexts : ∀ v ∈ env, ∀ shape, Makes "log_level" v shape → ∃ text, shape = .text text)
    (htexts' : ∀ v ∈ env', ∀ shape, Makes "log_level" v shape → ∃ text, shape = .text text) :
    SamePath (ofEnvironment env) (ofEnvironment env') := by
  obtain ⟨level, hlevel⟩ := textOf_of_texts htexts
  obtain ⟨level', hlevel'⟩ := textOf_of_texts htexts'
  unfold ofEnvironment
  rw [hpath, hlevel, hlevel']
  cases textOf "config_path" (find env' "config_path") with
  | error fault => exact .error
  | ok path => exact .ok

/-- A level that is faulty is no text. -/
lemma shape_of_textOf {setting : String} {found : Option Shape} {fault : Fault}
    (h : textOf setting found = .error fault) :
    ∃ shape, found = some shape ∧ ∀ text, shape ≠ .text text := by
  match found with
  | none => cases h
  | some (.text value) => cases h
  | some .map => exact ⟨.map, rfl, fun _ => nofun⟩
  | some .sequence => exact ⟨.sequence, rfl, fun _ => nofun⟩

/-- Environments that agree but for the level, and for variables that make no settings, lead to
settings that agree but for the level, if both of them lead to settings or neither does. -/
lemma samePath_of_iff
    (hrest : env.without (levelVariable :: names) = env'.without (levelVariable :: names))
    (hnames : NoSettings names)
    (h : (∃ settings, ofEnvironment env = .ok settings) ↔
      ∃ settings, ofEnvironment env' = .ok settings) :
    SamePath (ofEnvironment env) (ofEnvironment env') := by
  have hpath := find_path_eq hrest hnames
  unfold ofEnvironment at h ⊢
  rw [hpath] at h ⊢
  generalize textOf "config_path" (find env' "config_path") = made at h ⊢
  cases made with
  | error fault => exact .error
  | ok path =>
    cases hlevel : textOf "log_level" (find env "log_level") with
    | ok level => cases hlevel' : textOf "log_level" (find env' "log_level") with
      | ok level' => exact .ok
      | error fault' =>
        rw [hlevel, hlevel'] at h
        obtain ⟨settings, hmade⟩ := h.1 ⟨_, rfl⟩
        cases hmade
    | error fault => cases hlevel' : textOf "log_level" (find env' "log_level") with
      | ok level' =>
        rw [hlevel, hlevel'] at h
        obtain ⟨settings, hmade⟩ := h.2 ⟨_, rfl⟩
        cases hmade
      | error fault' =>
        obtain ⟨shape, hfind, hshape⟩ := shape_of_textOf hlevel
        obtain ⟨shape', hfind', hshape'⟩ := shape_of_textOf hlevel'
        have hsame := find_level_without hnames hfind hshape
        rw [hrest, find_level_without hnames hfind' hshape'] at hsame
        rw [hfind, ← hsame, ← hfind', hlevel'] at hlevel
        cases hlevel
        exact .error

/-- Environments that agree but for the level, and for variables that make no settings, lead to
settings that agree but for the level, if no other variable than the one for the level makes it a
map or a sequence. -/
lemma samePath
    (hrest : env.without (levelVariable :: names) = env'.without (levelVariable :: names))
    (hnames : NoSettings names) (hlevel : LevelIsText env) (hlevel' : LevelIsText env') :
    SamePath (ofEnvironment env) (ofEnvironment env') := by
  have hpath := find_path_eq hrest hnames
  by_cases hset : ∃ value, (levelVariable, value) ∈ env
  · obtain ⟨value, hset⟩ := hset
    exact samePath_of_texts hpath (hlevel value hset) (hlevel.texts hset hrest hnames)
  · by_cases hset' : ∃ value, (levelVariable, value) ∈ env'
    · obtain ⟨value, hset'⟩ := hset'
      exact samePath_of_texts hpath (hlevel'.texts hset' hrest.symm hnames) (hlevel' value hset')
    · exact samePath_of_find_eq hpath (find_level_eq hrest hnames
        (fun value hmem => hset ⟨value, hmem⟩) fun value hmem => hset' ⟨value, hmem⟩)

end

end Settings

end Gatekeeper
