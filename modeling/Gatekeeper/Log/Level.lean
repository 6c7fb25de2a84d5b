import Gatekeeper.Log.Record
import Gatekeeper.Text.Basic

/-!
# How much to log

A threshold shows the records that are at least as grave as it. People name it by a word in either
case or by a number; configurations may also use some words of their own, which are put into the
usual ones first.

`Threshold.read` is the level of a rule in a filter. `effectiveLevel` is the text that decides on
the level of a run: the one from the settings, or else the one from the configuration, put into a
usual word where there is one for it.
-/

namespace Gatekeeper.Log

/-- The least grave severity that is shown; without it nothing is. -/
abbrev Threshold := Option Severity

/-- A record of that severity is shown. -/
def Threshold.admits : Threshold → Severity → Bool
  | none, _ => false
  | some least, severity => severity.rank ≤ least.rank

/-- The thresholds by their numbers. -/
def Threshold.ofNumber : Nat → Option Threshold
  | 0 => some none
  | 1 => some (some .error)
  | 2 => some (some .warn)
  | 3 => some (some .info)
  | 4 => some (some .debug)
  | 5 => some (some .trace)
  | _ => none

/-- The thresholds by their words, in lower case. -/
def Threshold.ofWord : List Char → Option Threshold
  | ['o', 'f', 'f'] => some none
  | ['e', 'r', 'r', 'o', 'r'] => some (some .error)
  | ['w', 'a', 'r', 'n'] => some (some .warn)
  | ['i', 'n', 'f', 'o'] => some (some .info)
  | ['d', 'e', 'b', 'u', 'g'] => some (some .debug)
  | ['t', 'r', 'a', 'c', 'e'] => some (some .trace)
  | _ => none

/-- The number that digits denote, which a plus sign may precede. -/
def readNumber (text : List Char) : Option Nat :=
  let digits := if text.head? = some '+' then text.drop 1 else text
  if digits.isEmpty || !digits.all Char.isDigit then none
  else some (Text.natural digits)

/-- The threshold that a text names. -/
def Threshold.read (text : List Char) : Option Threshold :=
  match readNumber text with
  | some n => ofNumber n
  | none => ofWord (text.map Char.toLower)

/-- The level that counts: the one that is set, or else the one in the configuration, without blanks
around it and in lower case, and in the usual words. Where nothing is left it is `info`. -/
def effectiveLevel (setting config : Option String) : String :=
  let text := Text.trim ((setting.or config).getD "").toList
  let level := if text.isEmpty then "info" else String.ofList (text.map Char.toLower)
  if level = "warning" then "warn"
  else if level = "critical" ∨ level = "fatal" then "error"
  else level

end Gatekeeper.Log
