import Mathlib.Tactic.Lemma
import Gatekeeper.Session

/-!
# Gates are fixed when they are built

A gate in a session is the one that was built last under its name, as the files were then. No other
step touches it: not one that fails to build it, not one that changes the files, not a question put
to it, and not a step for a gate of another name.

`gate?_step_of_builds` and `gate?_step_of_not_builds` are what one step does to the gate of a name,
and by induction `gate?_after_of_lastBuilt` and `gate?_after_of_neverBuilt` are what a run does. One
of the two applies (`neverBuilt_or_lastBuilt`).
-/

namespace Gatekeeper.Session

/-- The session after some steps. -/
def after (session : Session) (steps : List Step) : Session :=
  steps.foldl (fun session step => (session.step step).1) session

/-- A step that builds a gate of that name, from a configuration and for a path, if the files are
these. -/
inductive Builds (files : Files.Node) : Step → String → Configuration → String → Prop where
  | load {name path config} :
    Configuration.ofFile files (pathOrDefault path) = .ok config →
    Builds files (.load name path) name config (pathOrDefault path)
  | define {name path text config} :
    Configuration.ofText text = .ok config →
    Builds files (.define name path text) name config path

/-- None of the steps builds a gate of that name. -/
def NeverBuilt (session : Session) (steps : List Step) (name : String) : Prop :=
  ∀ before step later config path, steps = before ++ step :: later →
    ¬ Builds (session.after before).files step name config path

/-- The last of the steps to build a gate of that name builds it from that configuration and for
that path. -/
def LastBuilt (session : Session) (steps : List Step) (name : String) (config : Configuration)
    (path : String) : Prop :=
  ∃ before step later, steps = before ++ step :: later ∧
    Builds (session.after before).files step name config path ∧
    NeverBuilt ((session.after before).step step).1 later name

/-! ## One step -/

/-- The gate that was set under a name is found there. -/
lemma gate?_setGate_self (session : Session) (name : String) (gate : Gate) :
    (session.setGate name gate).gate? name = some gate :=
  List.lookup_cons_self

/-- Under other names nothing changes. -/
lemma gate?_setGate_of_ne (session : Session) {name other : String} (gate : Gate)
    (h : name ≠ other) : (session.setGate other gate).gate? name = session.gate? name := by
  have hbeq : (name == other) = false := beq_false_of_ne h
  rw [gate?, setGate, List.lookup_cons, hbeq]
  rfl

/-- A step that builds a gate leaves the gate of the configuration under its name. -/
lemma gate?_step_of_builds {session : Session} {step : Step} {name : String}
    {config : Configuration} {path : String} (h : Builds session.files step name config path) :
    (session.step step).1.gate? name = some (Gate.ofConfiguration config path).1 := by
  cases h with
  | load hfile =>
    simp only [Session.step, Gate.ofFile, hfile, Gate.ofResult]
    exact gate?_setGate_self session name _
  | define htext =>
    simp only [Session.step, htext]
    exact gate?_setGate_self session name _

/-- Any other step leaves the gate of that name as it is. -/
lemma gate?_step_of_not_builds {session : Session} {step : Step} {name : String}
    (h : ∀ config path, ¬ Builds session.files step name config path) :
    (session.step step).1.gate? name = session.gate? name := by
  cases step with
  | write path content => rfl
  | makeDirectory path => rfl
  | remove path => rfl
  | load other path =>
    simp only [Session.step, Gate.ofFile]
    cases hfile : Configuration.ofFile session.files (pathOrDefault path) with
    | error fault => rfl
    | ok config =>
      apply gate?_setGate_of_ne
      rintro rfl
      exact h config _ (.load hfile)
  | define other path text =>
    simp only [Session.step]
    cases htext : Configuration.ofText text with
    | error defect => rfl
    | ok config =>
      apply gate?_setGate_of_ne
      rintro rfl
      exact h config path (.define htext)
  | read path =>
    simp only [Session.step]
    split <;> rfl
  | levelOf path => rfl
  | resolve path => rfl
  | ask other request =>
    simp only [Session.step]
    split <;> rfl

/-- A question leaves the session as it is. -/
lemma step_ask_fst (session : Session) (name : String) (request : Request) :
    (session.step (.ask name request)).1 = session := by
  simp only [Session.step]
  split <;> rfl

/-- A question is answered by what stands under its name. -/
lemma step_ask_congr {s₁ s₂ : Session} {name : String} (h : s₁.gate? name = s₂.gate? name)
    (request : Request) :
    (s₁.step (.ask name request)).2 = (s₂.step (.ask name request)).2 := by
  simp only [Session.step, h]
  split <;> rfl

/-! ## Runs -/

/-- To take some steps and then more is to take them all. -/
lemma after_append (session : Session) (front back : List Step) :
    session.after (front ++ back) = (session.after front).after back :=
  List.foldl_append

/-- The answer to a step is that of the session after the steps before it. -/
lemma run_getElem? (session : Session) (before : List Step) (step : Step) (later : List Step) :
    (session.run (before ++ step :: later))[before.length]? =
      some ((session.after before).step step).2 := by
  induction before generalizing session with
  | nil => rfl
  | cons first before ih => exact ih (session.step first).1

/-- A gate that is never built is not built in the first step, and not after it. -/
lemma NeverBuilt.of_cons {session : Session} {step : Step} {steps : List Step} {name : String}
    (h : NeverBuilt session (step :: steps) name) :
    (∀ config path, ¬ Builds session.files step name config path) ∧
      NeverBuilt (session.step step).1 steps name := by
  refine ⟨fun config path => h [] step steps config path rfl, ?_⟩
  rintro before last later config path rfl
  exact h (step :: before) last later config path rfl

/-- As long as no gate of that name is built, it stays as it is. -/
lemma gate?_after_of_neverBuilt {session : Session} {steps : List Step} {name : String}
    (h : NeverBuilt session steps name) :
    (session.after steps).gate? name = session.gate? name := by
  induction steps generalizing session with
  | nil => rfl
  | cons step steps ih =>
    obtain ⟨hstep, hsteps⟩ := h.of_cons
    exact (ih hsteps).trans (gate?_step_of_not_builds hstep)

/-- The gate that was built last is the one that is there in the end. -/
lemma gate?_after_of_lastBuilt {session : Session} {steps : List Step} {name : String}
    {config : Configuration} {path : String} (h : LastBuilt session steps name config path) :
    (session.after steps).gate? name = some (Gate.ofConfiguration config path).1 := by
  obtain ⟨before, step, later, rfl, hbuilds, hnever⟩ := h
  rw [after_append]
  exact (gate?_after_of_neverBuilt hnever).trans (gate?_step_of_builds hbuilds)

/-- If a gate of that name is built at all, there is a last time. -/
lemma neverBuilt_or_lastBuilt (session : Session) (steps : List Step) (name : String) :
    NeverBuilt session steps name ∨ ∃ config path, LastBuilt session steps name config path := by
  induction steps generalizing session with
  | nil =>
    left
    intro before step later config path e
    cases before <;> cases e
  | cons step steps ih =>
    obtain hnever | ⟨config, path, before, last, later, rfl, hlast⟩ := ih (session.step step).1
    · by_cases hbuilds : ∃ config path, Builds session.files step name config path
      · obtain ⟨config, path, hbuilds⟩ := hbuilds
        exact .inr ⟨config, path, [], step, steps, rfl, hbuilds, hnever⟩
      · left
        rintro (_ | ⟨first, before⟩) last later config path e hlast
        · cases e
          exact hbuilds ⟨config, path, hlast⟩
        · cases e
          exact hnever before last later config path rfl hlast
    · exact .inr ⟨config, path, step :: before, last, later, rfl, hlast⟩

/-- Whatever steps come before it, a question to a gate is answered by the gate that was built last
under its name, exactly as if it were built afresh; if none was, there is no such gate. Steps in
between that build no gate of that name make no difference, and the question changes nothing. -/
theorem ask_answers_last_built (files : Files.Node) (before later : List Step) (name : String)
    (request : Request) :
    let answered := ((start files).run (before ++ .ask name request :: later))[before.length]?
    (NeverBuilt (start files) before name ∨
      ∃ config path, LastBuilt (start files) before name config path) ∧
    (∀ config path, LastBuilt (start files) before name config path →
      answered = some (answer (Gate.ofConfiguration config path).1 request)) ∧
    (NeverBuilt (start files) before name → answered = some (.noGate name, [])) ∧
    (∀ between, NeverBuilt ((start files).after before) between name →
      ((start files).run (before ++ between ++ .ask name request :: later))[
        (before ++ between).length]? = answered) ∧
    (start files).after (before ++ [.ask name request]) = (start files).after before := by
  intro answered
  have hanswered : answered = some (((start files).after before).step (.ask name request)).2 :=
    run_getElem? (start files) before (.ask name request) later
  refine ⟨neverBuilt_or_lastBuilt (start files) before name, fun config path hlast => ?_,
    fun hnever => ?_, fun between hnever => ?_, ?_⟩
  · rw [hanswered, Session.step, gate?_after_of_lastBuilt hlast]
  · have hnone : ((start files).after before).gate? name = none :=
      gate?_after_of_neverBuilt hnever
    rw [hanswered, Session.step, hnone]
  · rw [hanswered, run_getElem?, after_append]
    exact congrArg some (step_ask_congr (gate?_after_of_neverBuilt hnever) request)
  · rw [after_append]
    exact step_ask_fst ((start files).after before) name request

end Gatekeeper.Session
