import Gatekeeper.Json.Fault
import Gatekeeper.Text.Basic

/-!
# String literals

The text between two quotes. A character stands for itself, unless it is a control, a quote or a
backslash; a backslash starts an escape. A character beyond `U+FFFF` is escaped as a pair of
surrogates, and a surrogate stands nowhere else.

`readBody` goes through the text character by character, and passes over those that an escape has
taken already. So it follows the text itself, and where it comes to the end of the text it says so.
-/

namespace Gatekeeper.Json.StringLiteral

/-- What a backslash and this character stand for. -/
def shortEscape : Char → Option Char
  | '\"' => some '\"'
  | '\\' => some '\\'
  | '/' => some '/'
  | 'b' => some '\x08'
  | 'f' => some '\x0c'
  | 'n' => some '\n'
  | 'r' => some '\r'
  | 't' => some '\t'
  | _ => none

/-- The number that four hexadecimal digits denote. -/
def hexNumber (a b c d : Char) : Option Nat := do
  return (((← Text.hexDigit a) * 16 + (← Text.hexDigit b)) * 16 + (← Text.hexDigit c)) * 16 +
    (← Text.hexDigit d)

/-- The four hexadecimal digits of an escape. Four bytes are taken before they are looked at. -/
def readUnit (text : List Char) : Except Fault Nat :=
  if Text.size text < 4 then .error (.atEnd .endInString)
  else
    match text with
    | a :: b :: c :: d :: _ =>
      match hexNumber a b c d with
      | some n => .ok n
      | none => .error ⟨.escapeUnknown, Text.size text - 4⟩
    | _ => .error ⟨.escapeUnknown, Text.size text - 4⟩

/-- The first half of a surrogate pair. -/
def isHigh (n : Nat) : Bool := 0xD800 ≤ n && n ≤ 0xDBFF

/-- The second half of a surrogate pair. -/
def isLow (n : Nat) : Bool := 0xDC00 ≤ n && n ≤ 0xDFFF

/-- The character that a surrogate pair denotes. -/
def ofPair (high low : Nat) : Char :=
  Char.ofNat (0x10000 + (high - 0xD800) * 0x400 + (low - 0xDC00))

/-- The second half of a surrogate pair, from its backslash on. -/
def readLow : List Char → Except Fault Nat
  | [] => .error (.atEnd .endInString)
  | '\\' :: [] => .error (.atEnd .endInString)
  | '\\' :: 'u' :: rest => do
    let low ← readUnit rest
    if isLow low then .ok low else .error (.before .surrogateUnpaired (rest.drop 4))
  | '\\' :: rest => .error (.on .surrogateUnfinished rest)
  | rest => .error (.on .surrogateUnfinished rest)

/-- An escape, from just after its backslash: the character it stands for, and how many characters
it is written with. -/
def readEscape : List Char → Except Fault (Char × Nat)
  | [] => .error (.atEnd .endInString)
  | 'u' :: rest => do
    let n ← readUnit rest
    if isLow n then .error (.before .surrogateUnpaired (rest.drop 4))
    else if isHigh n then
      let low ← readLow (rest.drop 4)
      return (ofPair n low, 11)
    else return (Char.ofNat n, 5)
  | c :: rest =>
    match shortEscape c with
    | some d => .ok (d, 1)
    | none => .error (.on .escapeUnknown (c :: rest))

/-- The characters up to the closing quote, and the text after it. The first `pending` characters
belong to an escape that has been read. -/
def readBody : Nat → Reader (List Char)
  | _, [] => .error (.atEnd .endInString)
  | pending + 1, _ :: rest => readBody pending rest
  | 0, c :: rest =>
    if c == '\"' then .ok ([], rest)
    else if c == '\\' then
      match readEscape rest with
      | .error fault => .error fault
      | .ok (d, length) => (readBody length rest).map fun (cs, rest) => (d :: cs, rest)
    else if c.toNat < 0x20 then .error (.on .controlInString (c :: rest))
    else (readBody 0 rest).map fun (cs, rest) => (c :: cs, rest)

/-- A string literal, from just after its opening quote. -/
def read : Reader String := fun text =>
  (readBody 0 text).map fun (cs, rest) => (String.ofList cs, rest)

end Gatekeeper.Json.StringLiteral
