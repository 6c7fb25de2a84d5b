import Gatekeeper.Gate

/-!
# Screening

A stream of numbers, one a line, is answered by a stream of decisions, one a line. Each line is
decided and told to the audit trail before its decision is written. Screening stops at the first
line that is no text, and when the output takes no more.

`Gate.screenLines` is one recursion along the lines and carries the room that is left, if there is a
limit at all. A `Screening` is what came of it: what was written, what the audit trail was told, and
the fault that it stopped at, if any.
-/

namespace Gatekeeper

/-- What is said of a number. -/
inductive Decision where
  | authorized
  | rejected
deriving DecidableEq

/-- The word for a decision. -/
def Decision.word : Decision → String
  | authorized => "authorized"
  | rejected => "rejected"

/-- The decision on a number, and what the audit trail is told. -/
def Gate.decide (gate : Gate) (number : String) : Decision × Event :=
  let (passes, event) := gate.checkNumber number
  (if passes then .authorized else .rejected, event)

/-- Why screening stopped before the end of its input. -/
inductive StreamFault where
  | notText
  | outputFull
deriving DecidableEq

namespace StreamFault

/-- The words for a fault. -/
def message : StreamFault → String
  | notText => "stream did not contain valid UTF-8"
  | outputFull => "failed to write whole buffer"

/-- The kind of a fault. -/
def kind : StreamFault → String
  | notText => "InvalidData"
  | outputFull => "WriteZero"

end StreamFault

/-- What came of screening: the output, what the audit trail was told, and why it stopped early, if
it did. -/
structure Screening where
  output : String
  events : List Event
  fault : Option StreamFault
deriving DecidableEq

namespace Screening

/-- Nothing was left to screen. -/
def finished : Screening := ⟨"", [], none⟩

/-- A decision that was written in full before the rest was screened. -/
def after (text : String) (event : Event) (rest : Screening) : Screening :=
  ⟨text ++ rest.output, event :: rest.events, rest.fault⟩

/-- The output has room for a text that long; without a limit it always has. -/
def fits (length : Nat) : Option Nat → Bool
  | none => true
  | some room => length ≤ room

/-- What is left of the room after a text that long. -/
def remaining (length : Nat) (room : Option Nat) : Option Nat :=
  room.map (· - length)

end Screening

/-- Screens lines into an output with so many bytes of room, or without a limit. -/
def Gate.screenLines (gate : Gate) : Option Nat → List (List UInt8) → Screening
  | _, [] => .finished
  | room, line :: lines =>
    match Text.decode line with
    | none => ⟨"", [], some .notText⟩
    | some number =>
      let (decision, event) := gate.decide number
      let text := decision.word ++ "\n"
      if Screening.fits text.length room then
        .after text event (gate.screenLines (Screening.remaining text.length room) lines)
      else ⟨String.ofList (text.toList.take (room.getD 0)), [event], some .outputFull⟩

/-- Screens a stream into an output with so many bytes of room, or without a limit. -/
def Gate.screenInput (gate : Gate) (room : Option Nat) (input : List UInt8) : Screening :=
  gate.screenLines room (Text.lines input)

end Gatekeeper
