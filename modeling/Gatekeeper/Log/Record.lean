import Gatekeeper.Text.Quoted
import Gatekeeper.Text.Basic

/-!
# Log records

What is told to the log: how grave it is, which part of the program tells it, a message, and named
fields. A record is written as one line, provided that the message and the plain fields hold no line
feed.

Texts in fields are quoted, so that they hold no line feed. A message is written as it is, but for
the characters that a terminal would take for an order (`disarm`). `linesOf` cuts what was written
into the lines that are seen.
-/

namespace Gatekeeper.Log

/-- How grave a record is. -/
inductive Severity where
  | error
  | warn
  | info
  | debug
  | trace
deriving DecidableEq

/-- The graver, the smaller. -/
def Severity.rank : Severity → Nat
  | error => 1
  | warn => 2
  | info => 3
  | debug => 4
  | trace => 5

/-- The name of a severity on a line of the log. -/
def Severity.label : Severity → String
  | error => "ERROR"
  | warn => "WARN"
  | info => "INFO"
  | debug => "DEBUG"
  | trace => "TRACE"

/-- The value of a field, which is written in quotes or as it is. -/
inductive Field where
  | quoted (text : String)
  | plain (text : String)
deriving DecidableEq

/-- The text of a field. -/
def Field.text : Field → String
  | quoted text => text
  | plain text => text

/-- A field as it is written. -/
def Field.written : Field → String
  | quoted text => Text.quote text
  | plain text => text

/-- Something told to the log. -/
structure Record where
  severity : Severity
  target : String
  message : String
  fields : List (String × Field)
deriving DecidableEq

/-- The controls by which a message could steer a terminal, written by their numbers. -/
def disarm (c : Char) : List Char :=
  match c with
  | '\x07' => ['\\', 'x', '0', '7']
  | '\x08' => ['\\', 'x', '0', '8']
  | '\x0c' => ['\\', 'x', '0', 'c']
  | '\x1b' => ['\\', 'x', '1', 'b']
  | '\x7f' => ['\\', 'x', '7', 'f']
  | c =>
    if 0x80 ≤ c.toNat && c.toNat ≤ 0x9F then
      ['\\', 'u', '\x7b'] ++ Nat.toDigits 16 c.toNat ++ ['\x7d']
    else [c]

/-- A record as it is written, without the line feed that ends it. -/
def Record.written (record : Record) : String :=
  let message := String.ofList (record.message.toList.flatMap disarm)
  let fields := record.fields.map fun (name, field) => " " ++ name ++ "=" ++ field.written
  record.severity.label ++ " " ++ record.target ++ ": " ++ message ++ String.join fields

/-- The lines that a text takes up. -/
def linesOf (text : String) : List String :=
  (Text.split '\n' text.toList).map String.ofList

end Gatekeeper.Log
