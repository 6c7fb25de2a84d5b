import Gatekeeper.Text.Basic
import Gatekeeper.Text.Places

/-!
# Faults in a document

Why a text is no JSON document, and where that shows. A reader that meets a fault says how many
bytes of the text are left after the place, so that it need not know what went before; the line and
the column are worked out once, from the whole text.

A `Reader` takes what it needs from the front of a text and gives the rest, or a fault. Most faults
are counted with the character they are found on (`Fault.on`), some before it (`Fault.before`), and
those at the end of the text have nothing left (`Fault.atEnd`).
-/

namespace Gatekeeper.Json

/-- Why a text is no document. -/
inductive Cause where
  | endInList
  | endInObject
  | endInString
  | endInValue
  | colonMissing
  | listUnseparated
  | objectUnseparated
  | wordMisspelt
  | valueMissing
  | escapeUnknown
  | numberMalformed
  | numberOutOfRange
  | controlInString
  | nameMissing
  | surrogateUnpaired
  | surrogateUnfinished
  | commaTrailing
  | textTrailing
  | nestingTooDeep
deriving DecidableEq

/-- The words for a cause. -/
def Cause.phrase : Cause → String
  | endInList => "EOF while parsing a list"
  | endInObject => "EOF while parsing an object"
  | endInString => "EOF while parsing a string"
  | endInValue => "EOF while parsing a value"
  | colonMissing => "expected `:`"
  | listUnseparated => "expected `,` or `]`"
  | objectUnseparated => "expected `,` or `\x7d`"
  | wordMisspelt => "expected ident"
  | valueMissing => "expected value"
  | escapeUnknown => "invalid escape"
  | numberMalformed => "invalid number"
  | numberOutOfRange => "number out of range"
  | controlInString => "control character (\\u0000-\\u001F) found while parsing a string"
  | nameMissing => "key must be a string"
  | surrogateUnpaired => "lone leading surrogate in hex escape"
  | surrogateUnfinished => "unexpected end of hex escape"
  | commaTrailing => "trailing comma"
  | textTrailing => "trailing characters"
  | nestingTooDeep => "recursion limit exceeded"

/-- A cause, and the number of bytes left in the text after the place where it shows. -/
structure Fault where
  cause : Cause
  left : Nat
deriving DecidableEq

/-- The text ends too early. -/
def Fault.atEnd (cause : Cause) : Fault := ⟨cause, 0⟩

/-- The place lies just before `rest`. -/
def Fault.before (cause : Cause) (rest : List Char) : Fault := ⟨cause, Text.size rest⟩

/-- The place lies just after the first byte of `rest`, or at the end of the text. -/
def Fault.on (cause : Cause) (rest : List Char) : Fault := ⟨cause, Text.size rest - 1⟩

/-- A place in a text, as people count: lines from one, columns in bytes. -/
structure Position where
  line : Nat
  column : Nat
deriving DecidableEq

/-- The place that is reached after the given bytes. -/
def Position.after (bytes : List UInt8) : Position where
  line := 1 + bytes.count Text.lineFeed
  column := (bytes.reverse.takeWhile (· != Text.lineFeed)).length

/-- A cause with its place. -/
structure Malformation where
  cause : Cause
  position : Position
deriving DecidableEq

/-- The place of a fault in the whole text. -/
def Fault.locate (text : String) (fault : Fault) : Malformation where
  cause := fault.cause
  position :=
    let bytes := Text.encode text
    .after (bytes.take (bytes.length - fault.left))

/-- One line that says what is wrong and where. -/
def Malformation.message (m : Malformation) : String :=
  m.cause.phrase ++ " at line " ++ toString m.position.line ++
    " column " ++ toString m.position.column

/-- Reads something off the front of a text; the rest of the text comes with it. -/
abbrev Reader (α : Type) := List Char → Except Fault (α × List Char)

end Gatekeeper.Json
