import Gatekeeper.Session
import Gatekeeper.Proofs.Gate.Mask
import Gatekeeper.Proofs.Screening.Reference

/-!
# What a gate gives away

Whoever questions a gate without hitting its number learns its mask and nothing else: gates whose
numbers have the same mask answer alike and tell the audit trail the same, and as soon as one
candidate that is not empty has been turned away, gates with different masks differ.

The one number that a gate compares with is not looked at where the candidate is another one, but
for its mask (`check_congr`). This is carried to decisions, to screened lines and to all requests
(`answer_congr`), and so to traces, which are lists of answers. For the other direction a gate that
turns a candidate away tells its mask (`unauthorized_mem_of_decided`), and a record with a mask in
it tells it in full (`mask_eq_of_record_eq`).
-/

namespace Gatekeeper.Session

/-- The candidates that a gate decides on to answer a request. -/
def decided (gate : Gate) : Request → List (Option String)
  | .check candidate => [candidate]
  | .checkNumber number | .decide number => [some number]
  | .path | .describe => []
  | .screen room input => (gate.decidedLines room (Text.lines input)).map some

/-- What is seen of a gate that is made from a configuration and asked requests in turn: what the
audit trail is told when it is made, and for each request the answer and what the audit trail is
told of it. -/
def trace (config : Configuration) (path : String) (requests : List Request) :
    Log.Record × List (Answer × List Log.Record) :=
  let (gate, event) := Gate.ofConfiguration config path
  (event.record, requests.map fun request =>
    ((answer gate request).1, (answer gate request).2.map Event.record))

/-- The answers in a trace are those of the gate that the configuration makes. -/
lemma trace_snd (config : Configuration) (path : String) (requests : List Request) :
    (trace config path requests).2 = requests.map fun request =>
      ((answer ⟨config.number, path⟩ request).1,
        (answer ⟨config.number, path⟩ request).2.map Event.record) :=
  rfl

/-- Each candidate that is decided on is told to the audit trail, in order, and nothing else is. -/
lemma answer_events (gate : Gate) (request : Request) :
    (answer gate request).2 = (decided gate request).map fun candidate =>
      (gate.check candidate).2 := by
  cases request with
  | check candidate => rfl
  | checkNumber number => rfl
  | decide number => rfl
  | path => rfl
  | describe => rfl
  | screen room input =>
    simp only [answer, decided, List.map_map]
    exact Screening.screenLines_events gate room (Text.lines input)

section
variable {g₁ g₂ : Gate} (hmask : mask g₁.number = mask g₂.number)
include hmask

/-- Gates with the same mask turn a candidate away alike. -/
lemma check_congr {candidate : Option String}
    (h : candidate ≠ some g₁.number ∧ candidate ≠ some g₂.number) :
    g₁.check candidate = g₂.check candidate := by
  rw [Gate.check_of_ne h.1, Gate.check_of_ne h.2, hmask]

/-- Gates with the same mask decide alike on a number they turn away. -/
lemma decide_congr {number : String}
    (h : some number ≠ some g₁.number ∧ some number ≠ some g₂.number) :
    g₁.decide number = g₂.decide number := by
  unfold Gate.decide Gate.checkNumber
  rw [check_congr hmask h]

/-- Gates with the same mask screen lines alike if they turn all of them away. -/
lemma screenLines_congr (room : Option Nat) (lines : List (List UInt8))
    (h : ∀ number ∈ g₁.decidedLines room lines,
      some number ≠ some g₁.number ∧ some number ≠ some g₂.number) :
    g₁.screenLines room lines = g₂.screenLines room lines := by
  induction lines generalizing room with
  | nil => rfl
  | cons line lines ih =>
    rw [Gate.decidedLines] at h
    rw [Gate.screenLines, Gate.screenLines]
    cases hd : Text.decode line with
    | none => rfl
    | some number =>
      simp only [hd, List.forall_mem_cons] at h
      obtain ⟨hnumber, hlines⟩ := h
      simp only [← decide_congr hmask hnumber]
      split
      · next fits =>
        rw [if_pos fits] at hlines
        rw [ih _ hlines]
      · rfl

/-- Gates with the same mask and path answer alike whoever does not hit their numbers. -/
lemma answer_congr (hpath : g₁.path = g₂.path) (request : Request)
    (h : ∀ candidate ∈ decided g₁ request,
      candidate ≠ some g₁.number ∧ candidate ≠ some g₂.number) :
    answer g₁ request = answer g₂ request := by
  cases request with
  | check candidate =>
    have e := check_congr hmask (h candidate (List.mem_singleton.2 rfl))
    simp only [answer, e]
  | checkNumber number =>
    have e := check_congr hmask (h (some number) (List.mem_singleton.2 rfl))
    simp only [answer, Gate.checkNumber, e]
  | decide number =>
    have e := decide_congr hmask (h (some number) (List.mem_singleton.2 rfl))
    simp only [answer, e]
  | path => simp only [answer, hpath]
  | describe =>
    have e : g₁.describe = g₂.describe := by
      unfold Gate.describe
      rw [hpath]
    simp only [answer, e]
  | screen room input =>
    rw [decided, List.forall_mem_map] at h
    have e := screenLines_congr hmask room (Text.lines input) h
    simp only [answer, Gate.screenInput, e]

end

/-- A gate tells of no mask but that of its own number. -/
lemma mask_eq_of_record_eq {gate : Gate} {candidate : Option String} {number masked : String}
    (h : (gate.check candidate).2.record = (Event.unauthorized number masked).record) :
    masked = mask gate.number := by
  have hfields := congrArg Log.Record.fields h
  unfold Gate.check at hfields
  -- The name comes first in every record, and only a refusal has the name of one.
  split at hfields
  · simp [Event.record, Event.name] at hfields
  · split at hfields
    · simp [Event.record, Event.name] at hfields
    · split at hfields
      · simp [Event.record, Event.name] at hfields
      · simp only [Event.record, Event.details, List.cons.injEq, Prod.mk.injEq,
          Log.Field.quoted.injEq, Log.Field.plain.injEq, true_and, and_true] at hfields
        exact hfields.2.2.symm

/-- A gate tells of its mask when it turns away a candidate that is not empty. -/
lemma unauthorized_mem_of_decided {gate : Gate} {request : Request} {number : String}
    (h : some number ∈ decided gate request) (hempty : number ≠ "")
    (hne : some number ≠ some gate.number) :
    Event.unauthorized number (mask gate.number) ∈ (answer gate request).2 := by
  rw [answer_events]
  apply List.mem_map.2
  refine ⟨some number, h, ?_⟩
  rw [Gate.check_of_ne hne]
  exact if_neg hempty

/-- Gates that tell the same of a request for which one of them turns away a candidate that is not
empty have the same mask. -/
lemma mask_eq_of_answer_records_eq {g₁ g₂ : Gate} {request : Request} {number : String}
    (h : some number ∈ decided g₁ request) (hempty : number ≠ "")
    (hne : some number ≠ some g₁.number)
    (same : (answer g₁ request).2.map Event.record = (answer g₂ request).2.map Event.record) :
    mask g₁.number = mask g₂.number := by
  have told := List.mem_map_of_mem (f := Event.record) (unauthorized_mem_of_decided h hempty hne)
  -- The second gate tells of the first one's mask, and a gate tells of no mask but its own.
  rw [same, answer_events, List.map_map] at told
  obtain ⟨candidate, -, hcandidate⟩ := List.mem_map.1 told
  exact mask_eq_of_record_eq hcandidate

/-- Whoever does not hit the numbers of two gates sees the same of them if their masks agree. Once
a candidate that is not empty is decided on, this is the only way to see the same. The masks agree
exactly if the numbers are equally long and, when that is more than four characters, end in the
same four. -/
theorem trace_reveals_mask_only (config₁ config₂ : Configuration) (path : String)
    (requests : List Request)
    (missed : ∀ request ∈ requests,
      ∀ candidate ∈ decided (Gate.ofConfiguration config₁ path).1 request,
        candidate ≠ some config₁.number ∧ candidate ≠ some config₂.number) :
    (mask config₁.number = mask config₂.number →
      trace config₁ path requests = trace config₂ path requests) ∧
    ((∃ request ∈ requests, ∃ number,
        some number ∈ decided (Gate.ofConfiguration config₁ path).1 request ∧ number ≠ "") →
      trace config₁ path requests = trace config₂ path requests →
      mask config₁.number = mask config₂.number) ∧
    (mask config₁.number = mask config₂.number ↔
      config₁.number.toList.length = config₂.number.toList.length ∧
        (4 < config₁.number.toList.length →
          lastFour config₁.number = lastFour config₂.number)) := by
  simp only [Gate.ofConfiguration] at missed ⊢
  refine ⟨fun hmask => ?_, ?_, mask_eq_iff config₁.number config₂.number⟩
  · -- The construction tells of the path alone, and each request is answered alike.
    apply congrArg (Prod.mk (Event.loaded path).record)
    apply List.map_congr_left
    intro request hrequest
    have e := @answer_congr ⟨config₁.number, path⟩ ⟨config₂.number, path⟩ hmask rfl request
      (missed request hrequest)
    simp only [e]
  · -- One request on which a candidate is turned away is enough to see the mask.
    rintro ⟨request, hrequest, number, hnumber, hempty⟩ h
    have hne := (missed request hrequest (some number) hnumber).1
    have hanswers := congrArg Prod.snd h
    rw [trace_snd, trace_snd, List.map_inj_left] at hanswers
    have hrecords := (Prod.mk.inj (hanswers request hrequest)).2
    have hmask := mask_eq_of_answer_records_eq hnumber hempty hne hrecords
    exact hmask

/-- Two numbers that differ before their last four digits, questioned with none of the answers a
pass: the third line of the stream is not decided any more, since the second answer does not fit. -/
theorem trace_reveals_mask_only_same_ending :
    mask "+15550001234" = mask "+15559991234" ∧
    trace ⟨"+15550001234", none⟩ "gate.json"
        [.describe, .check none, .checkNumber "+1555",
          .screen (some 12) "a\r\nb\nc".toUTF8.toList] =
      trace ⟨"+15559991234", some "info"⟩ "gate.json"
        [.describe, .check none, .checkNumber "+1555",
          .screen (some 12) "a\r\nb\nc".toUTF8.toList] := by
  have hmask : mask "+15550001234" = mask "+15559991234" := by decide +kernel
  refine ⟨hmask, ?_⟩
  exact (trace_reveals_mask_only ⟨"+15550001234", none⟩ ⟨"+15559991234", some "info"⟩ "gate.json"
    _ (by decide +kernel)).1 hmask

end Gatekeeper.Session
