import Gatekeeper.Proofs.Environment.Supply
import Gatekeeper.Proofs.Text.Basic
import Gatekeeper.Settings

/-!
# Variables without brackets

Only a variable with brackets in its name can ask for an item of a sequence. A file of assignments
supplies no such variable, whatever it holds, so where the process has none either, no setting asks
for an item that there is not.

`Unindexed` is that no name has a closing bracket in it. The parts of a name have none then
(`mem_of_mem_dotted`), so no part has indices (`readIndices_eq_nil`). The names that lines assign to
are read by `readName`, which takes letters, digits and a few marks (`readName_unindexed`);
`Reads.unindexed` is that for all lines of a file.
-/

namespace Gatekeeper

/-- What a list is mapped to comes from its members. -/
lemma exists_of_mem_mapM {α β : Type} {f : α → Option β} {as : List α} {bs : List β} {b : β}
    (h : as.mapM f = some bs) (hb : b ∈ bs) : ∃ a ∈ as, f a = some b := by
  induction as generalizing bs with
  | nil =>
    cases h
    cases hb
  | cons a as ih =>
    simp only [List.mapM_cons, Option.bind_eq_bind, Option.bind_eq_some_iff, Option.pure_def,
      Option.some.injEq] at h
    obtain ⟨first, hfirst, others, hothers, rfl⟩ := h
    obtain rfl | hb := List.mem_cons.1 hb
    · exact ⟨a, List.mem_cons_self, hfirst⟩
    · obtain ⟨a', ha', e⟩ := ih hothers hb
      exact ⟨a', List.mem_cons_of_mem a ha', e⟩

/-! ## Paths without brackets -/

namespace Settings

/-- Lower case makes no bracket. -/
lemma lower_ne_bracket {c : Char} (h : c ≠ ']') : lower c ≠ ']' := by
  unfold lower
  split
  · decide
  · intro e
    unfold Char.toLower at e
    split at e
    · next hupper =>
      have hval : (c.val + ('a'.val - 'A'.val)).toNat = 0x5D := congrArg Char.toNat e
      have hlow : 0x41 ≤ c.val.toNat := hupper.1
      have hhigh : c.val.toNat ≤ 0x5A := hupper.2
      have hstep : ('a'.val - 'A'.val).toNat = 0x20 := rfl
      rw [UInt32.toNat_add] at hval
      omega
    · exact h e

/-- A point for each double underscore is all that is new in a name. -/
lemma mem_of_mem_dotted {c : Char} {cs : List Char} (h : c ∈ dotted cs) : c = '.' ∨ c ∈ cs := by
  induction cs using dotted.induct with
  | case1 cs ih =>
    rw [dotted] at h
    obtain h | h := List.mem_cons.1 h
    · exact .inl h
    · exact (ih h).imp_right fun h => List.mem_cons_of_mem _ (List.mem_cons_of_mem _ h)
  | case2 d cs hne ih =>
    rw [dotted] at h
    · obtain rfl | h := List.mem_cons.1 h
      · exact .inr List.mem_cons_self
      · exact (ih h).imp_right (List.mem_cons_of_mem d)
    · exact hne
  | case3 => cases h

/-- Without a bracket there are no indices. -/
lemma readIndices_eq_nil {text : List Char} {indices : List Int} (hno : ']' ∉ text)
    (h : readIndices text = some indices) : indices = [] := by
  rw [readIndices, Text.split_of_not_mem hno] at h
  split at h
  · cases h
    rfl
  · cases h

/-- So there are none in a step. -/
lemma readStep_indices_eq_nil {text : List Char} {step : Step} (hno : ']' ∉ text)
    (h : readStep text = some step) : step.indices = [] := by
  unfold readStep at h
  simp only at h
  split at h
  · cases h
  · obtain ⟨indices, hindices, rfl⟩ := Option.map_eq_some_iff.1 h
    exact readIndices_eq_nil (fun hmem => hno (List.mem_of_mem_drop hmem)) hindices

/-- A name without brackets asks for no item of a sequence. -/
lemma isUnreachable_eq_false {name : String} (hno : ']' ∉ name.toList) :
    isUnreachable name = false := by
  cases hpath : pathOf name with
  | none => simp only [isUnreachable, hpath]
  | some path =>
    have hindices : ∀ step ∈ path, step.indices = [] := by
      intro step hstep
      unfold pathOf at hpath
      simp only at hpath
      split at hpath
      · obtain ⟨part, hpart, hread⟩ := exists_of_mem_mapM hpath hstep
        refine readStep_indices_eq_nil (fun hmem => ?_) hread
        obtain hdot | hmem := mem_of_mem_dotted (Text.mem_of_mem_split hpart hmem)
        · exact absurd hdot (by decide)
        · obtain ⟨c, hc, e⟩ := List.mem_map.1 (List.mem_of_mem_drop hmem)
          exact lower_ne_bracket (fun e => hno (e ▸ hc)) e
      · cases hpath
    simp only [isUnreachable, hpath, List.any_eq_false]
    intro step hstep
    rw [hindices step hstep]
    exact Bool.false_ne_true

end Settings

/-! ## Files of assignments -/

namespace Environment

/-- No variable has a closing bracket in its name. -/
def Unindexed (env : Environment) : Prop :=
  ∀ v ∈ env, ']' ∉ v.1.toList

/-- Some variable asks for an item that no sequence has. -/
def HasUnreachable (env : Environment) : Prop :=
  ∃ v ∈ env, Settings.isUnreachable v.1 = true

/-- Without brackets in its names an environment asks for no items. -/
lemma Unindexed.not_hasUnreachable {env : Environment} (h : env.Unindexed) :
    ¬ env.HasUnreachable := by
  rintro ⟨v, hv, hunreachable⟩
  rw [Settings.isUnreachable_eq_false (h v hv)] at hunreachable
  cases hunreachable

/-- A name that a line of a file assigns to has no bracket in it, -/
lemma readName_unindexed {text name rest : List Char} (h : readName text = some (name, rest)) :
    ']' ∉ name := by
  unfold readName at h
  split at h
  · cases h
  · split at h
    · cases h
      intro hmem
      exact absurd (List.all_eq_true.1 List.all_takeWhile _ hmem) (by decide)
    · cases h

/-- also if the line begins with the word for exporting it. -/
lemma readTarget_unindexed {text name rest : List Char} (h : readTarget text = some (name, rest)) :
    ']' ∉ name := by
  unfold readTarget at h
  obtain ⟨⟨first, after⟩, hfirst, h⟩ := Option.bind_eq_some_iff.1 h
  dsimp only at h
  split at h
  · cases h
    exact readName_unindexed hfirst
  · obtain ⟨_, -, h⟩ := Option.bind_eq_some_iff.1 h
    obtain ⟨⟨second, after⟩, hsecond, h⟩ := Option.bind_eq_some_iff.1 h
    split at h
    · next e =>
      cases e
      cases h
      exact readName_unindexed hsecond
    · cases h

/-- A line assigns to no variable with brackets in its name. -/
lemma readLine_unindexed {env : Environment} {line : List Char} {name value : String}
    (h : readLine env line = some (.assignment name value)) : ']' ∉ name.toList := by
  unfold readLine at h
  split at h
  · cases h
  · cases h
  · obtain ⟨⟨target, rest⟩, htarget, h⟩ := Option.bind_eq_some_iff.1 h
    have hname : name = String.ofList target := by
      simp only at h
      split at h
      · cases h
        rfl
      · cases h
        rfl
      · obtain ⟨value, -, h⟩ := Option.bind_eq_some_iff.1 h
        cases h
        rfl
    rw [hname, String.toList_ofList]
    exact readTarget_unindexed htarget

section
variable {env : Environment} {good : List (List Char)} {assigned : List (String × String)}

/-- Lines assign to no variable with brackets in its name. -/
lemma Reads.unindexed (h : Reads env good assigned) : Unindexed assigned := by
  induction h with
  | start => exact nofun
  | nothing _ _ ih => exact ih
  | assignment _ hline ih =>
    exact List.forall_mem_append.2 ⟨ih, List.forall_mem_singleton.2 (readLine_unindexed hline)⟩

/-- To fill gaps is to add no variable that asks for an item. -/
lemma Reads.hasUnreachable_iff (h : Reads env good assigned) :
    (env.filled assigned).HasUnreachable ↔ env.HasUnreachable := by
  constructor
  · rintro ⟨v, hv, hunreachable⟩
    obtain hv | ⟨-, hlookup⟩ := mem_filled_iff.1 hv
    · exact ⟨v, hv, hunreachable⟩
    · obtain ⟨before, after, rfl, -⟩ := List.lookup_eq_some_iff.1 hlookup
      have hmem : (v.1, v.2) ∈ before ++ (v.1, v.2) :: after :=
        List.mem_append_right _ List.mem_cons_self
      exact absurd ⟨_, hmem, hunreachable⟩ h.unindexed.not_hasUnreachable
  · rintro ⟨v, hv, hunreachable⟩
    exact ⟨v, mem_filled_iff.2 (.inl hv), hunreachable⟩

end

end Environment

end Gatekeeper
