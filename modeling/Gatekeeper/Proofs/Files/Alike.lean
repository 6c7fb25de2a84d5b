import Mathlib.Tactic.Lemma
import Gatekeeper.Files

/-!
# Files that differ in their contents

Two trees with the same names, whose files hold contents that stand in some relation. Where a path
leads depends on the names alone, so a path leads to the same place in both, or fails in both for
the same reason, and what it reads there stands in that relation.

`Node.Alike` and `EntriesAlike` go through the two trees side by side. That a path leads to the same
place is carried from single names (`EntriesAlike.lookup`) to all that it enters
(`Node.Alike.enter_eq`, `Node.Alike.resolve_eq`). The result is `Node.Alike.read`.
-/

namespace Gatekeeper.Files

mutual

/-- Two nodes with the same names, whose files hold related contents. -/
inductive Node.Alike (rel : List UInt8 → List UInt8 → Prop) : Node → Node → Prop where
  | file {content content'} :
    rel content content' →
    Node.Alike rel (.file content) (.file content')
  | directory {entries entries'} :
    EntriesAlike rel entries entries' →
    Node.Alike rel (.directory entries) (.directory entries')

/-- Two lists of entries with the same names, in the same order, for nodes that are alike. -/
inductive EntriesAlike (rel : List UInt8 → List UInt8 → Prop) :
    List (String × Node) → List (String × Node) → Prop where
  | nil :
    EntriesAlike rel [] []
  | cons {name node node' entries entries'} :
    Node.Alike rel node node' →
    EntriesAlike rel entries entries' →
    EntriesAlike rel ((name, node) :: entries) ((name, node') :: entries')

end

variable {rel : List UInt8 → List UInt8 → Prop} {root root' : Node}

/-- In directories that are alike what is found under one name is alike. -/
lemma EntriesAlike.lookup {entries entries' : List (String × Node)}
    (h : EntriesAlike rel entries entries') (name : String) :
    Option.Rel (Node.Alike rel) (entries.lookup name) (entries'.lookup name) := by
  induction entries generalizing entries' with
  | nil =>
    cases h
    exact .none
  | cons entry entries ih =>
    cases h with
    | @cons first node node' _ entries' hnode hentries =>
      rw [List.lookup_cons, List.lookup_cons]
      cases hname : name == first with
      | true => exact .some hnode
      | false => exact ih hentries

/-- So it is with what is found along several names, -/
lemma Node.Alike.find (h : root.Alike rel root') (names : List String) :
    Option.Rel (Node.Alike rel) (root.find names) (root'.find names) := by
  induction names generalizing root root' with
  | nil =>
    rw [Node.find, Node.find]
    exact .some h
  | cons name names ih =>
    cases h with
    | file _ =>
      rw [Node.find, Node.find]
      exact .none
    | @directory entries entries' hentries =>
      have hfound := hentries.lookup name
      rw [Node.find, Node.find]
      generalize entries.lookup name = found, entries'.lookup name = found' at hfound ⊢
      cases hfound with
      | none => exact .none
      | some hnode => exact ih hnode

/-- with what is found at a place, -/
lemma Node.Alike.at (h : root.Alike rel root') (place : Place) :
    Option.Rel (Node.Alike rel) (root.at place) (root'.at place) := by
  cases place with
  | inside names => exact h.find names
  | outside => exact .some (.directory .nil)

/-- A step along a path depends on the names alone. -/
lemma Node.Alike.enter_eq (h : root.Alike rel root') : root.enter = root'.enter := by
  funext place part
  have hat := h.at place
  unfold Node.enter
  generalize root.at place = found, root'.at place = found' at hat ⊢
  cases hat with
  | none => rfl
  | some hnode =>
    cases hnode with
    | file _ => rfl
    | @directory entries entries' hentries =>
      have hfound := hentries.lookup part
      simp only
      generalize entries.lookup part = found, entries'.lookup part = found' at hfound ⊢
      cases hfound with
      | none => rfl
      | some _ => cases place with
        | inside _ => rfl
        | outside => rfl

/-- So does the place that a path leads to. -/
lemma Node.Alike.resolve_eq (h : root.Alike rel root') (path : String) :
    root.resolve path = root'.resolve path := by
  unfold Node.resolve
  rw [h.enter_eq]

/-- Reading fails in both for the same reason, or gives related contents. -/
inductive ReadAlike (rel : List UInt8 → List UInt8 → Prop) :
    Except Fault (List UInt8) → Except Fault (List UInt8) → Prop where
  | error {fault} :
    ReadAlike rel (.error fault) (.error fault)
  | ok {content content'} :
    rel content content' →
    ReadAlike rel (.ok content) (.ok content')

/-- and with what comes of reading a path. -/
lemma Node.Alike.read (h : root.Alike rel root') (path : String) :
    ReadAlike rel (root.read path) (root'.read path) := by
  unfold Node.read
  rw [h.resolve_eq]
  cases root'.resolve path with
  | error fault => exact .error
  | ok place =>
    have hat := h.at place
    simp only [bind, Except.bind, pure, Except.pure]
    generalize root.at place = found, root'.at place = found' at hat ⊢
    cases hat with
    | none => exact .error
    | some hnode =>
      cases hnode with
      | file hcontent => exact .ok hcontent
      | directory _ => exact .error

end Gatekeeper.Files
