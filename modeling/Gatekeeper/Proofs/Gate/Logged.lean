import Gatekeeper.Proofs.Gate.Check
import Gatekeeper.Proofs.Text.Quoted
import Gatekeeper.Proofs.Text.Basic

/-!
# A check in the log

A candidate stands in the log in quotes, and that text can be read back and ends where it seems to
end. So whoever is checked can neither break the line, nor end the field, nor pass for another
candidate. Only the mask of the gate's own number stands there as it is.

A record is an opening that does not depend on the candidate, the candidate in quotes, and a closing
that does not depend on it either (`logged_eq`); so all is reduced to quoted text, of which
`unquote` reads the first part and says where it ends. `logged_inj` compares two records of which
one may be of a candidate that passed and the other of one that did not.
-/

namespace Gatekeeper

namespace Log

/-- A text is one line unless it holds a line feed. -/
lemma length_linesOf_eq_one_iff {text : String} :
    (linesOf text).length = 1 ↔ '\n' ∉ text.toList := by
  rw [linesOf, List.length_map, Text.length_split_eq_one_iff]

/-- The fields of a record are written one after the other. -/
lemma written_append (severity : Severity) (target message : String)
    (front back : List (String × Field)) :
    (⟨severity, target, message, front ++ back⟩ : Record).written =
      (⟨severity, target, message, front⟩ : Record).written ++
        String.join (back.map fun (name, field) => " " ++ name ++ "=" ++ field.written) := by
  rw [Record.written, Record.written, List.map_append, String.join_append, ← String.append_assoc]

end Log

namespace Gate

/-- What the log shows of a check. -/
def logged (gate : Gate) (candidate : Option String) : String :=
  (gate.check candidate).2.record.written

/-- What stands in the log before a number that passed. -/
def passedOpening : String :=
  "INFO sender_gate::gate: Sender authorized event=\"auth_success\" phone_number="

/-- What stands in the log before a number that was turned away. -/
def refusedOpening : String :=
  "WARN sender_gate::gate: Rejected sender: not the authorized number" ++
    " event=\"auth_failed_unauthorized\" phone_number="

/-- What stands in the log after a number that was turned away by a gate whose number looks like
that. -/
def refusedClosing (masked : String) : String := " authorized_number=" ++ masked

/-! ## What is written -/

/-- The record of a number that passes ends with the number in quotes. -/
lemma written_authorized (number : String) :
    (Event.authorized number).record.written = passedOpening ++ Text.quote number := by
  have hfront : (⟨.info, "sender_gate::gate", "Sender authorized",
      [("event", .quoted "auth_success")]⟩ : Log.Record).written ++ " phone_number=" =
        passedOpening := by decide +kernel
  have hwritten := Log.written_append .info "sender_gate::gate" "Sender authorized"
    [("event", .quoted "auth_success")] [("phone_number", .quoted number)]
  rw [List.map_singleton, String.join_cons, String.join_nil, String.append_empty] at hwritten
  rw [← hfront, String.append_assoc]
  exact hwritten

/-- The record of one that does not has the mask of the number of the gate behind it. -/
lemma written_unauthorized (number masked : String) :
    (Event.unauthorized number masked).record.written =
      refusedOpening ++ Text.quote number ++ refusedClosing masked := by
  have hfront : (⟨.warn, "sender_gate::gate", "Rejected sender: not the authorized number",
      [("event", .quoted "auth_failed_unauthorized")]⟩ : Log.Record).written ++ " phone_number=" =
        refusedOpening := by decide +kernel
  have hwritten := Log.written_append .warn "sender_gate::gate"
    "Rejected sender: not the authorized number" [("event", .quoted "auth_failed_unauthorized")]
    [("phone_number", .quoted number), ("authorized_number", .plain masked)]
  rw [List.map_cons, List.map_singleton, String.join_cons, String.join_cons, String.join_nil,
    String.append_empty] at hwritten
  rw [← hfront, String.append_assoc, String.append_assoc]
  exact hwritten

/-- A number that is not empty stands in quotes between texts that do not depend on it. -/
lemma logged_eq (gate : Gate) {number : String} (h : number ≠ "") :
    gate.logged (some number) =
      if (gate.check (some number)).1 then passedOpening ++ Text.quote number
      else refusedOpening ++ Text.quote number ++ refusedClosing (mask gate.number) := by
  unfold logged
  obtain ⟨hempty, -⟩ | ⟨number, e, -, hcheck | hcheck⟩ := gate.check_cases (some number)
  · obtain e | e := hempty
    · cases e
    · exact absurd (Option.some.inj e) h
  · obtain rfl := Option.some.inj e
    rw [hcheck, if_pos rfl]
    exact written_authorized _
  · obtain rfl := Option.some.inj e
    rw [hcheck, if_neg nofun]
    exact written_unauthorized _ _

/-! ## Line feeds -/

/-- No line feed is left in quoted text. -/
lemma lineFeed_not_mem_quote (text : String) : '\n' ∉ (Text.quote text).toList := by
  intro h
  have hprintable := Text.isPrintable_of_mem_quote h
  exact absurd hprintable (by decide)

/-- So the record of a number that passes takes up one line, -/
lemma lineFeed_not_mem_authorized (number : String) :
    '\n' ∉ (Event.authorized number).record.written.toList := by
  rw [written_authorized, String.toList_append, List.mem_append, not_or]
  exact ⟨by decide +kernel, lineFeed_not_mem_quote number⟩

/-- and so does the one of a candidate without any character. -/
lemma lineFeed_not_mem_emptyNumber {candidate : Option String}
    (h : candidate = none ∨ candidate = some "") :
    '\n' ∉ (Event.emptyNumber candidate).record.written.toList := by
  obtain rfl | rfl := h
  · decide +kernel
  · decide +kernel

/-- Of what is told of a number that was turned away, the mask alone can hold a line feed. -/
lemma lineFeed_mem_unauthorized_iff (number masked : String) :
    '\n' ∈ (Event.unauthorized number masked).record.written.toList ↔ '\n' ∈ masked.toList := by
  have hopening : '\n' ∉ refusedOpening.toList := by decide +kernel
  have hname : '\n' ∉ " authorized_number=".toList := by decide +kernel
  have hquote := lineFeed_not_mem_quote number
  have happend : ∀ a b c d : String, '\n' ∈ (a ++ b ++ (c ++ d)).toList ↔
      ('\n' ∈ a.toList ∨ '\n' ∈ b.toList) ∨ '\n' ∈ c.toList ∨ '\n' ∈ d.toList := by
    intro a b c d
    simp only [String.toList_append, List.mem_append]
  rw [written_unauthorized]
  refine (happend _ _ _ _).trans ⟨?_, fun h => .inr (.inr h)⟩
  rintro ((h | h) | h | h)
  · exact absurd h hopening
  · exact absurd h hquote
  · exact absurd h hname
  · exact h

/-! ## No forgery -/

/-- Two numbers that look alike in the log are the same. -/
lemma logged_inj (gate : Gate) {a b : String} (ha : a ≠ "") (hb : b ≠ "")
    (h : gate.logged (some a) = gate.logged (some b)) : a = b := by
  -- The records of a number that passed and of one that did not differ in their first character.
  have hfirst : ∀ x y, passedOpening ++ x ≠ refusedOpening ++ y := by
    intro x y e
    have hpassed : passedOpening.toList.head? = some 'I' := by decide +kernel
    have hrefused : refusedOpening.toList.head? = some 'W' := by decide +kernel
    have hhead := congrArg (fun text => text.toList.head?) e
    simp only [String.toList_append, List.head?_append, hpassed, hrefused, Option.some_or] at hhead
    exact absurd hhead (by decide)
  rw [logged_eq gate ha, logged_eq gate hb] at h
  split at h <;> split at h
  · have hquotes := (String.append_right_inj _).1 h
    rw [← String.append_empty (s := Text.quote a), ← String.append_empty (s := Text.quote b)]
      at hquotes
    exact (Text.quote_append_inj hquotes).1
  · rw [String.append_assoc] at h
    exact absurd h (hfirst _ _)
  · rw [String.append_assoc] at h
    exact absurd h.symm (hfirst _ _)
  · rw [String.append_assoc, String.append_assoc] at h
    exact (Text.quote_append_inj ((String.append_right_inj _).1 h)).1

/-- The record of a check is one line if the candidate passed or was empty; if it was turned away,
exactly if the mask of the gate's number has no line feed. A candidate that is not empty stands in
it in quotes, from which it is read back, with nothing left over but what the gate puts behind it.
So different candidates have different records, and none ends its own field early: quoted text that
begins like that of a candidate is that of this candidate. -/
theorem logged_unforgeable (gate : Gate) :
    (∀ candidate,
      let name := (gate.check candidate).2.name
      let lines := Log.linesOf (gate.logged candidate)
      (name = "auth_success" ∨ name = "auth_failed_empty_number" ∨
        name = "auth_failed_unauthorized") ∧
      (name = "auth_success" ∨ name = "auth_failed_empty_number" → lines.length = 1) ∧
      (name = "auth_failed_unauthorized" →
        (lines.length = 1 ↔ '\n' ∉ (mask gate.number).toList))) ∧
    (∀ number, number ≠ "" → gate.logged (some number) =
      if (gate.check (some number)).1 then
        "INFO sender_gate::gate: Sender authorized event=\"auth_success\" phone_number=" ++
          Text.quote number
      else
        "WARN sender_gate::gate: Rejected sender: not the authorized number" ++
          " event=\"auth_failed_unauthorized\" phone_number=" ++ Text.quote number ++
          (" authorized_number=" ++ mask gate.number)) ∧
    (∀ number behind, Text.unquote (Text.quote number ++ behind) = some (number, behind)) ∧
    (∀ number other behind behind',
      Text.quote number ++ behind = Text.quote other ++ behind' →
        number = other ∧ behind = behind') ∧
    ∀ number other, number ≠ "" → other ≠ "" →
      gate.logged (some number) = gate.logged (some other) → number = other := by
  refine ⟨fun candidate => ?_, fun number => gate.logged_eq, Text.unquote_quote,
    fun number other behind behind' => Text.quote_append_inj, fun number other => gate.logged_inj⟩
  simp only [Log.length_linesOf_eq_one_iff]
  unfold logged
  obtain ⟨hempty, hcheck⟩ | ⟨number, -, -, hcheck | hcheck⟩ := gate.check_cases candidate
  · have hname : "auth_failed_empty_number" ≠ "auth_failed_unauthorized" := by decide
    rw [hcheck]
    exact ⟨.inr (.inl rfl), fun _ => lineFeed_not_mem_emptyNumber hempty, fun e => absurd e hname⟩
  · have hname : "auth_success" ≠ "auth_failed_unauthorized" := by decide
    rw [hcheck]
    exact ⟨.inl rfl, fun _ => lineFeed_not_mem_authorized number, fun e => absurd e hname⟩
  · have hname : ¬ ("auth_failed_unauthorized" = "auth_success" ∨
        "auth_failed_unauthorized" = "auth_failed_empty_number") := by decide
    rw [hcheck]
    exact ⟨.inr (.inr rfl), fun e => absurd e hname,
      fun _ => not_congr (lineFeed_mem_unauthorized_iff number _)⟩

end Gate

end Gatekeeper
