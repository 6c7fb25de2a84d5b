import Mathlib.Tactic.Lemma
import Mathlib.Tactic.SplitIfs
import Gatekeeper.Files

/-!
# What a path leads to

The rules by which a part of a path moves from one place to another, one for each kind of part, and
the file that is the target of a path if there is one. Reading gives a content exactly if the target
is a file of that content.

`Moves` has a rule for a part that is empty or a single point, for two points and for a name, and
`Leads` follows the parts in order. `Node.enter_eq_ok_iff` and `Node.foldlM_enter_eq_ok_iff` are
that the model moves by these rules, and `pathFault_eq_none_iff` that it refuses no path but for
what paths may not be. `Node.read_eq_ok_iff` is the result.
-/

namespace Gatekeeper.Files

variable {root : Node} {path : String} {content : List UInt8}

/-- A part of a path moves from one place to the next. There is a directory at the first, also if
the part leads nowhere. -/
inductive Moves (root : Node) : Place → String → Place → Prop where
  | stay {place entries part} :
    root.at place = some (.directory entries) →
    part = "" ∨ part = "." →
    Moves root place part place
  | up {place entries} :
    root.at place = some (.directory entries) →
    Moves root place ".." place.up
  | down {names name node} :
    name ∉ ["", ".", ".."] →
    name.utf8ByteSize ≤ maxName →
    root.find (names ++ [name]) = some node →
    Moves root (.inside names) name (.inside (names ++ [name]))

/-- The parts of a path lead from one place to another. -/
inductive Leads (root : Node) : Place → List String → Place → Prop where
  | here {place} :
    Leads root place [] place
  | move {place next target part parts} :
    Moves root place part next →
    Leads root next parts target →
    Leads root place (part :: parts) target

/-- The target of a path is a file of that content. -/
structure IsFile (root : Node) (path : String) (content : List UInt8) : Prop where
  noNul : '\x00' ∉ path.toList
  notEmpty : path ≠ ""
  notLong : path.utf8ByteSize ≤ maxPath
  target : ∃ names, Leads root (start path) (parts path) (.inside names) ∧
    root.find names = some (.file content)

/-- A path is fit to be opened if it holds no null character, is not empty and is not too long. -/
lemma pathFault_eq_none_iff :
    pathFault path = none ↔ '\x00' ∉ path.toList ∧ path ≠ "" ∧ path.utf8ByteSize ≤ maxPath := by
  unfold pathFault
  split_ifs with hnul hempty hlong <;> simp_all

/-- To follow some names and then more is to follow them all. -/
lemma Node.find_append (root : Node) (names more : List String) :
    root.find (names ++ more) = (root.find names).bind (·.find more) := by
  induction names generalizing root with
  | nil => rw [List.nil_append, Node.find, Option.bind_some]
  | cons name names ih =>
    rw [List.cons_append]
    cases root with
    | file bytes => rw [Node.find, Node.find, Option.bind_none]
    | directory entries =>
      rw [Node.find, Node.find, Option.bind_assoc]
      simp only [ih]

/-- What stands under some names and one more is an entry of the directory under them. -/
lemma Node.find_concat_eq_some_iff (root : Node) (names : List String) (name : String)
    (node : Node) :
    root.find (names ++ [name]) = some node ↔
      ∃ entries, root.find names = some (.directory entries) ∧ entries.lookup name = some node := by
  rw [Node.find_append, Option.bind_eq_some_iff]
  constructor
  · rintro ⟨parent, hparent, h⟩
    cases parent with
    | file bytes =>
      rw [Node.find] at h
      cases h
    | directory entries =>
      rw [Node.find, Option.bind_eq_some_iff] at h
      obtain ⟨found, hfound, e⟩ := h
      rw [Node.find] at e
      exact ⟨entries, hparent, hfound.trans e⟩
  · rintro ⟨entries, hparent, hfound⟩
    refine ⟨_, hparent, ?_⟩
    rw [Node.find, hfound, Option.bind_some, Node.find]

/-- Entering a part follows the rules, and there is no other way to enter it. -/
lemma Node.enter_eq_ok_iff (place next : Place) (part : String) :
    root.enter place part = .ok next ↔ Moves root place part next := by
  constructor
  · intro h
    unfold Node.enter at h
    split at h
    · next entries hat =>
      split_ifs at h with hstay hup hlong
      · cases h
        exact .stay hat hstay
      · cases h
        subst hup
        exact .up hat
      · split at h
        · next names node hnode =>
          cases h
          have hname : part ∉ ["", ".", ".."] := by
            simp only [List.mem_cons, List.not_mem_nil, or_false]
            rw [← or_assoc]
            exact not_or.2 ⟨hstay, hup⟩
          refine .down hname (by omega) ((root.find_concat_eq_some_iff _ _ node).2 ?_)
          exact ⟨entries, hat, hnode⟩
        · cases h
    · cases h
  · intro h
    cases h with
    | stay hat hstay => simp only [Node.enter, hat, if_pos hstay]
    | up hat =>
      simp only [Node.enter, hat]
      rfl
    | @down names _ node hname hshort hfind =>
      obtain ⟨entries, hparent, hnode⟩ := (root.find_concat_eq_some_iff _ _ node).1 hfind
      have hat : root.at (.inside names) = some (.directory entries) := hparent
      simp only [List.mem_cons, List.not_mem_nil, or_false, not_or] at hname
      simp only [Node.enter, hat, hnode, if_neg (not_or.2 ⟨hname.1, hname.2.1⟩),
        if_neg hname.2.2, if_neg (Nat.not_lt.2 hshort)]

/-- Entering one part after the other leads where the rules lead. -/
lemma Node.foldlM_enter_eq_ok_iff (place target : Place) (parts : List String) :
    parts.foldlM root.enter place = .ok target ↔ Leads root place parts target := by
  induction parts generalizing place with
  | nil =>
    constructor
    · intro h
      cases h
      exact .here
    · intro h
      cases h
      rfl
  | cons part parts ih =>
    rw [List.foldlM_cons]
    constructor
    · intro h
      cases hnext : root.enter place part with
      | error fault =>
        rw [hnext] at h
        cases h
      | ok next =>
        rw [hnext] at h
        exact .move ((root.enter_eq_ok_iff place next part).1 hnext) ((ih next).1 h)
    · intro h
      cases h with
      | @move _ next _ _ _ hmove hleads =>
        rw [(root.enter_eq_ok_iff place next part).2 hmove]
        exact (ih next).2 hleads

/-- Reading a path gives the content of the file that is its target, and nothing else. -/
theorem Node.read_eq_ok_iff : root.read path = .ok content ↔ IsFile root path content := by
  constructor
  · intro h
    unfold Node.read Node.resolve at h
    split at h
    · cases h
    · next hpath =>
      obtain ⟨hnul, hempty, hlong⟩ := pathFault_eq_none_iff.1 hpath
      cases hplace : (parts path).foldlM root.enter (start path) with
      | error fault =>
        rw [hplace] at h
        cases h
      | ok place =>
        rw [hplace] at h
        have hleads := (root.foldlM_enter_eq_ok_iff _ _ _).1 hplace
        cases place with
        | outside => cases h
        | inside names =>
          refine ⟨hnul, hempty, hlong, names, hleads, ?_⟩
          simp only [bind, Except.bind, Node.at] at h
          split at h
          · next bytes hfile =>
            cases h
            exact hfile
          · cases h
          · cases h
  · rintro ⟨hnul, hempty, hlong, names, hleads, hfile⟩
    have hat : root.at (.inside names) = some (.file content) := hfile
    unfold Node.read Node.resolve
    rw [pathFault_eq_none_iff.2 ⟨hnul, hempty, hlong⟩]
    simp only [(root.foldlM_enter_eq_ok_iff _ _ _).2 hleads, bind, Except.bind, hat]
    rfl

end Gatekeeper.Files
