import Mathlib.Tactic.Lemma
import Gatekeeper.Environment

/-!
# What a file of assignments supplies

The lines of a file are read in turn, up to the first that is broken. What they assign fills the
gaps of the environment: a variable that is set stays what it is, and of several assignments to a
name that is not set the first counts.

`firsts` and `filled` say what it is to fill gaps, and `mem_filled_iff` what the variables are
afterwards. `Reads` goes along the lines, each of which may refer to what the lines before it have
filled in; `ReadsUpTo` adds the broken line and what stands behind it. `ReadsUpTo.supplyFile_eq` is
that the file supplies just that, and `exists_readsUpTo` that each file is of this kind.
-/

namespace Gatekeeper.Environment

/-! ## Gaps -/

/-- The first of the assignments to each name. -/
def firsts : List (String × String) → List (String × String)
  | [] => []
  | v :: assigned => v :: (firsts assigned).filter (·.1 ≠ v.1)

/-- The environment with the first of the assignments to each name that it lacks. -/
def filled (env : Environment) (assigned : List (String × String)) : Environment :=
  env ++ (firsts assigned).filter fun v => (env.get? v.1).isNone

section
variable {env : Environment} {assigned : List (String × String)}

/-- Leaving variables out by their names hides just those names. -/
lemma lookup_filter_name (p : String → Bool) (vs : List (String × String)) (name : String) :
    (vs.filter fun v => p v.1).lookup name = if p name then vs.lookup name else none := by
  induction vs with
  | nil => rw [List.filter_nil, List.lookup_nil, ite_self]
  | cons v vs ih =>
    rw [List.filter_cons]
    by_cases hname : name = v.1
    · subst hname
      split
      · rw [List.lookup_cons, List.lookup_cons, beq_self_eq_true]
      · next hp => rw [ih, if_neg hp]
    · have hbeq : (name == v.1) = false := beq_false_of_ne hname
      split
      · rw [List.lookup_cons, List.lookup_cons, hbeq, ih]
      · rw [ih, List.lookup_cons, hbeq]

/-- The first assignments say the same about each name as all of them do. -/
lemma lookup_firsts (assigned : List (String × String)) (name : String) :
    (firsts assigned).lookup name = assigned.lookup name := by
  induction assigned with
  | nil => rfl
  | cons v assigned ih =>
    rw [firsts, List.lookup_cons, List.lookup_cons]
    by_cases hname : name = v.1
    · rw [beq_iff_eq.2 hname]
    · rw [beq_false_of_ne hname]
      simp only
      rw [lookup_filter_name (fun name => name ≠ v.1), if_pos (decide_eq_true hname), ih]

/-- A variable that is set stays what it is, and one that is not is what is assigned to it first. -/
lemma get?_filled (env : Environment) (assigned : List (String × String)) (name : String) :
    (env.filled assigned).get? name = (env.get? name).or (assigned.lookup name) := by
  rw [filled, get?, List.lookup_append,
    lookup_filter_name (fun name => (env.get? name).isNone), lookup_firsts]
  cases hget : env.get? name with
  | none =>
    rw [get?] at hget
    rw [hget]
    rfl
  | some value =>
    rw [get?] at hget
    rw [hget]
    rfl

/-- One more assignment makes a difference only to a name that nothing was assigned to. -/
lemma firsts_concat (assigned : List (String × String)) (v : String × String) :
    firsts (assigned ++ [v]) =
      if (assigned.lookup v.1).isSome then firsts assigned else firsts assigned ++ [v] := by
  induction assigned with
  | nil => rfl
  | cons w assigned ih =>
    rw [List.cons_append, firsts, firsts, ih, List.lookup_cons]
    by_cases hname : v.1 = w.1
    · rw [beq_iff_eq.2 hname]
      simp only [Option.isSome_some, if_true]
      split
      · rfl
      · have hdrop : [v].filter (fun u => u.1 ≠ w.1) = [] := by simp [hname]
        rw [List.filter_append, hdrop, List.append_nil]
    · rw [beq_false_of_ne hname]
      simp only
      split
      · rfl
      · have hkeep : [v].filter (fun u => u.1 ≠ w.1) = [v] := by simp [hname]
        rw [List.filter_append, hkeep, List.cons_append]

/-- To assign once more is to supply the variable. -/
lemma filled_concat (env : Environment) (assigned : List (String × String))
    (name value : String) :
    env.filled (assigned ++ [(name, value)]) = (env.filled assigned).supply name value := by
  rw [supply, get?_filled, filled, firsts_concat]
  cases hget : env.get? name with
  | some old =>
    have hdrop : [(name, value)].filter (fun v => (env.get? v.1).isNone) = [] := by simp [hget]
    rw [Option.some_or]
    split
    · rfl
    · rw [List.filter_append, hdrop, List.append_nil]
      rfl
  | none =>
    have hkeep : [(name, value)].filter (fun v => (env.get? v.1).isNone) = [(name, value)] := by
      simp [hget]
    rw [Option.none_or]
    cases hlookup : assigned.lookup name with
    | some first => rfl
    | none =>
      rw [if_neg nofun, List.filter_append, hkeep, ← List.append_assoc]
      rfl

/-- A first assignment is one that is found when its name is looked up. -/
lemma mem_firsts_iff {v : String × String} :
    v ∈ firsts assigned ↔ assigned.lookup v.1 = some v.2 := by
  induction assigned with
  | nil => exact ⟨nofun, nofun⟩
  | cons w assigned ih =>
    rw [firsts, List.mem_cons, List.mem_filter, ih, List.lookup_cons]
    by_cases hname : v.1 = w.1
    · rw [beq_iff_eq.2 hname]
      simp only [hname, Option.some.injEq, ne_eq, not_true_eq_false, decide_false,
        Bool.false_eq_true, and_false, or_false]
      exact ⟨fun e => congrArg Prod.snd e.symm, fun e => Prod.ext hname e.symm⟩
    · rw [beq_false_of_ne hname]
      simp only [hname, ne_eq, not_false_eq_true, decide_true, and_true]
      exact or_iff_right fun e => hname (congrArg Prod.fst e)

/-- Beside what was there stands, for each name that was not, what is assigned to it first. -/
lemma mem_filled_iff {v : String × String} :
    v ∈ env.filled assigned ↔
      v ∈ env ∨ env.get? v.1 = none ∧ assigned.lookup v.1 = some v.2 := by
  rw [filled, List.mem_append, List.mem_filter, mem_firsts_iff, Option.isNone_iff_eq_none, and_comm]

end

/-! ## Lines -/

/-- The lines that the pieces of a file make, with nothing for one that cannot be decoded or is not
finished where the file ends. -/
def framedLines : Pending → List (List UInt8) → List (Option (List Char))
  | pending, [] => if pending.text.isEmpty then [] else [none]
  | pending, piece :: pieces =>
    match Text.decode piece with
    | none => [none]
    | some text =>
      match pending.extend text.toList with
      | .unfinished pending => framedLines pending pieces
      | .line line => some line :: framedLines .fresh pieces

/-- The lines of a file. -/
def fileLines (bytes : List UInt8) : List (Option (List Char)) :=
  framedLines .fresh (Text.pieces (dropMark bytes))

/-- The environment with what lines supply, up to the first that is broken. -/
def supplyLines : Environment → List (Option (List Char)) → Environment
  | env, [] => env
  | env, none :: _ => env
  | env, some line :: lines =>
    match readLine env line with
    | none => env
    | some .nothing => supplyLines env lines
    | some (.assignment name value) => supplyLines (env.supply name value) lines

/-- To supply a file piece by piece is to supply its lines one by one. -/
lemma supplyPieces_eq (env : Environment) (pending : Pending) (pieces : List (List UInt8)) :
    supplyPieces env pending pieces = supplyLines env (framedLines pending pieces) := by
  induction pieces generalizing env pending with
  | nil =>
    rw [supplyPieces, framedLines]
    split
    · rfl
    · rfl
  | cons piece pieces ih =>
    rw [supplyPieces, framedLines]
    cases Text.decode piece with
    | none => rfl
    | some text =>
      simp only
      cases pending.extend text.toList with
      | unfinished pending => exact ih env pending
      | line line =>
        simp only [supplyLines]
        cases readLine env line with
        | none => rfl
        | some read => cases read with
          | nothing => exact ih env .fresh
          | assignment name value => exact ih _ .fresh

/-- The lines can all be read in turn and assign that. Each may refer to what the environment holds
and to what the lines before it have filled in. -/
inductive Reads (env : Environment) : List (List Char) → List (String × String) → Prop where
  | start :
    Reads env [] []
  | nothing {lines assigned line} :
    Reads env lines assigned →
    readLine (env.filled assigned) line = some .nothing →
    Reads env (lines ++ [line]) assigned
  | assignment {lines assigned line name value} :
    Reads env lines assigned →
    readLine (env.filled assigned) line = some (.assignment name value) →
    Reads env (lines ++ [line]) (assigned ++ [(name, value)])

/-- The line cannot be decoded or cannot be made out. -/
def Broken (env : Environment) : Option (List Char) → Prop
  | none => True
  | some line => readLine env line = none

/-- Some of the lines come before the first that is broken, and they assign that. -/
structure ReadsUpTo (env : Environment) (lines : List (Option (List Char)))
    (good : List (List Char)) (rest : List (Option (List Char)))
    (assigned : List (String × String)) : Prop where
  lines_eq : lines = good.map some ++ rest
  reads : Reads env good assigned
  broken : ∀ line ∈ rest.head?, Broken (env.filled assigned) line

section
variable {env : Environment} {good : List (List Char)} {assigned : List (String × String)}
variable {lines rest : List (Option (List Char))}

/-- Lines that can be read fill the gaps before the lines after them. -/
lemma Reads.supplyLines_append (h : Reads env good assigned)
    (rest : List (Option (List Char))) :
    supplyLines env (good.map some ++ rest) = supplyLines (env.filled assigned) rest := by
  induction h generalizing rest with
  | start =>
    rw [filled, firsts, List.filter_nil, List.append_nil]
    rfl
  | nothing _ hline ih =>
    rw [List.map_append, List.append_assoc, ih, List.map_singleton, List.singleton_append,
      supplyLines, hline]
  | assignment _ hline ih =>
    rw [List.map_append, List.append_assoc, ih, List.map_singleton, List.singleton_append,
      supplyLines, hline, filled_concat]

/-- A broken line supplies nothing, and neither does anything after it. -/
lemma supplyLines_broken (h : ∀ line ∈ rest.head?, Broken env line) :
    supplyLines env rest = env := by
  cases rest with
  | nil => rfl
  | cons line rest =>
    have hbroken : Broken env line := h line rfl
    cases line with
    | none => rfl
    | some line =>
      rw [Broken] at hbroken
      rw [supplyLines, hbroken]

/-- What the lines before the first broken one assign fills the gaps, and that is all. -/
lemma ReadsUpTo.supplyLines_eq (h : ReadsUpTo env lines good rest assigned) :
    supplyLines env lines = env.filled assigned := by
  rw [h.lines_eq, h.reads.supplyLines_append, supplyLines_broken h.broken]

/-- What is read up to the first broken line is what fills the environment. -/
lemma ReadsUpTo.supplyFile_eq {bytes : List UInt8}
    (h : ReadsUpTo env (fileLines bytes) good rest assigned) :
    env.supplyFile bytes = env.filled assigned :=
  (supplyPieces_eq env .fresh _).trans h.supplyLines_eq

/-- Lines can be read to their end or up to a first one that is broken. -/
lemma Reads.exists_more (h : Reads env good assigned) (lines : List (Option (List Char))) :
    ∃ good' rest assigned', ReadsUpTo env (good.map some ++ lines) good' rest assigned' := by
  induction lines generalizing good assigned with
  | nil => exact ⟨good, [], assigned, rfl, h, nofun⟩
  | cons line lines ih =>
    have hstop : Broken (env.filled assigned) line →
        ReadsUpTo env (good.map some ++ line :: lines) good (line :: lines) assigned := by
      intro hbroken
      refine ⟨rfl, h, ?_⟩
      rintro _ ⟨⟩
      exact hbroken
    have hgo : ∀ text assigned', Reads env (good ++ [text]) assigned' →
        ∃ good' rest assigned',
          ReadsUpTo env (good.map some ++ some text :: lines) good' rest assigned' := by
      intro text assigned' hread
      have hmore := ih hread
      rwa [List.map_append, List.map_singleton, List.append_assoc, List.singleton_append] at hmore
    cases line with
    | none => exact ⟨good, none :: lines, assigned, hstop trivial⟩
    | some text =>
      cases hline : readLine (env.filled assigned) text with
      | none => exact ⟨good, some text :: lines, assigned, hstop hline⟩
      | some read => cases read with
        | nothing => exact hgo text assigned (h.nothing hline)
        | assignment name value => exact hgo text _ (h.assignment hline)

/-- Each file is read up to some line, or to its end. -/
lemma exists_readsUpTo (env : Environment) (lines : List (Option (List Char))) :
    ∃ good rest assigned, ReadsUpTo env lines good rest assigned :=
  Reads.start.exists_more lines

end

end Gatekeeper.Environment
