import Gatekeeper.Log.Level
import Gatekeeper.Pattern
import Gatekeeper.Text.Places

/-!
# Rules of a log filter

A rule is a threshold for the records of some target, which is known by how it begins; a rule
without a target is for all of them.

A rule may be limited to records with a certain field, in brackets and braces after the target. A
rule that names a span in its brackets, or the value of a field, covers no record at all; but the
value has to be a number or a pattern.

* `Rule.ofPart` reads a rule. There are two ways for it to go wrong. A part may be no rule, which is
  a `Rule.Fault` and can be said of it; or a piece cannot be cut out of it, and that `Rule.Cut` is
  the end of all reading.
* `Rule.covers` and `Rule.outranks` say which records a rule is for, and which of two rules decides.
-/

namespace Gatekeeper.Log

/-- What a rule is limited to, beside its target. -/
inductive Scope where
  | all
  | withField (name : String)
  | spans
deriving DecidableEq

/-- A threshold for some records. -/
structure Rule where
  target : Option String
  scope : Scope
  threshold : Threshold
deriving DecidableEq

namespace Rule

/-- Why a text is no rule. -/
inductive Fault where
  | malformed
  | levelUnknown
  | valueUnusable (fault : Pattern.Fault)
deriving DecidableEq

/-- The words for a fault. -/
def Fault.message : Fault → String
  | malformed => "invalid filter directive"
  | levelUnknown =>
    "error parsing level filter: expected one of \"off\", \"error\", \"warn\", " ++
      "\"info\", \"debug\", \"trace\", or a number 0-5"
  | valueUnusable fault => "invalid field filter: " ++ fault.message

/-- What is cut out of a part of a filter. A target ends at an equals sign or at a bracket, and a
span at a bracket or at a brace. -/
inductive Piece where
  | target
  | limitedTarget
  | span
  | spanOfField
  | field
  | threshold
deriving DecidableEq

/-- A piece that cannot be cut out of a part. It cannot even be said of the part that it is no
rule. -/
structure Cut where
  piece : Piece
  miscut : Text.Miscut
deriving DecidableEq

/-- What reading a part, or some of it, comes to: there may be a fault, unless a piece cannot be cut
out of it. -/
abbrev Reading (α : Type) := ExceptT Fault (Except Cut) α

/-- The piece of a part between two places. -/
def slice (piece : Piece) (part : List Char) (start stop : Nat) : Reading (List Char) :=
  ExceptT.lift ((Text.slice part start stop).mapError (⟨piece, ·⟩))

/-- The threshold after an equals sign, from that place on; nothing there shows everything. -/
def readThreshold (part : List Char) (place : Nat) : Reading Threshold := do
  let text ← slice .threshold part place (Text.size part)
  if text.isEmpty then return some .trace
  match Threshold.read text with
  | some threshold => return threshold
  | none => throw .levelUnknown

/-- A character that a rule can start with, beside the bracket. -/
def startsName (c : Char) : Bool :=
  c == '-' || c == ':' || c == '_' || Text.isAlphanumeric c

/-- What follows the closing bracket of a rule, from that place on. -/
def readAfterBracket (part : List Char) (target : Option String) (scope : Scope) (place : Nat) :
    List Char → Reading Rule
  | [] => return ⟨target, scope, some .trace⟩
  | c :: _ => do
    if c == '=' then return ⟨target, scope, ← readThreshold part (place + 1)⟩
    else throw .malformed

/-- A text without its sign. -/
def unsigned : List Char → List Char
  | '+' :: rest => rest
  | '-' :: rest => rest
  | text => text

/-- Nothing, or a power of ten. -/
def isPower : List Char → Bool
  | [] => true
  | c :: rest =>
    let digits := unsigned rest
    (c == 'e' || c == 'E') && !digits.isEmpty && digits.all Char.isDigit

/-- A number in decimal notation, or a word for what is no finite number. -/
def isNumber (text : List Char) : Bool :=
  let text := unsigned text
  let whole := text.takeWhile Char.isDigit
  let rest := text.drop whole.length
  let fraction :=
    match rest with
    | '.' :: rest => rest.takeWhile Char.isDigit
    | _ => []
  let rest := if rest.head? = some '.' then rest.drop (fraction.length + 1) else rest
  ((!whole.isEmpty || !fraction.isEmpty) && isPower rest) ||
    ["inf", "infinity", "nan"].contains (String.ofList (text.map Char.toLower))

/-- The value that a field is asked to have: what stands after the first equals sign, up to a
second one. -/
def askedValue (field : List Char) : Option (List Char) :=
  (Text.split '=' field)[1]?

/-- The scope that a field in braces sets. -/
def fieldScope (named : Bool) (field : List Char) : Reading Scope :=
  match askedValue field with
  | none => return if named then .spans else .withField (String.ofList field)
  | some value =>
    match if isNumber value then none else Pattern.fault? value with
    | none => return .spans
    | some fault => throw (.valueUnusable fault)

/-- What stands in the brackets of a rule and after them, from just after the opening bracket, which
is the given place. -/
def readBrackets (part : List Char) (target : Option String) (place : Nat) (text : List Char) :
    Reading Rule := do
  let span := text.takeWhile fun c => c != ']' && c != '\x7b'
  let stop := place + Text.size span
  match text.drop span.length with
  | ']' :: rest =>
    let _ ← slice .span part place stop
    readAfterBracket part target .spans (stop + 1) rest
  | '\x7b' :: rest =>
    let _ ← slice .spanOfField part place stop
    let field := rest.takeWhile (· != '\x7d')
    let last := stop + 1 + Text.size field
    match rest.drop field.length with
    | '\x7d' :: rest =>
      let field ← slice .field part (stop + 1) last
      if field.isEmpty then throw .malformed
      let scope ← fieldScope (!span.isEmpty) field
      match rest with
      | ']' :: rest => readAfterBracket part target scope (last + 2) rest
      | _ => throw .malformed
    | _ => throw .malformed
  | _ => throw .malformed

/-- A part without an equals sign or a bracket: a level for everything, or a target of which
everything is shown. -/
def ofWord (part : List Char) : Rule :=
  match Threshold.read part with
  | some threshold => ⟨none, .all, threshold⟩
  | none => ⟨some (String.ofList part), .all, some .trace⟩

/-- The rule that a part of a filter denotes. Its marks are looked for without the blanks around it,
but its names are cut out of the part as it stands, at the places of the marks. So a part with
blanks before it can name no target, and one with blanks after it no level. -/
def ofPart (part : List Char) : Reading Rule := do
  let text := Text.trim part
  match text with
  | [] => throw .malformed
  | c :: rest =>
    if c == '[' then readBrackets part none 1 rest
    else if startsName c then
      let name := text.takeWhile fun c => c != '=' && c != '['
      let stop := Text.size name
      match text.drop name.length with
      | [] => return ofWord part
      | mark :: rest =>
        if mark == '[' then
          let target ← slice .limitedTarget part 0 stop
          readBrackets part (some (String.ofList target)) (stop + 1) rest
        else
          let target ← slice .target part 0 stop
          return ⟨some (String.ofList target), .all, ← readThreshold part (stop + 1)⟩
    else throw .malformed

/-- The rule is for this record. -/
def covers (rule : Rule) (record : Record) : Bool :=
  (match rule.target with
    | none => true
    | some target => target.toList.isPrefixOf record.target.toList) &&
  match rule.scope with
    | .all => true
    | .withField name => name == "message" || record.fields.any (·.1 == name)
    | .spans => false

/-- How long the target of a rule is; a rule without one comes below all others. -/
def targetSize (rule : Rule) : Nat :=
  match rule.target with
  | none => 0
  | some target => target.utf8ByteSize + 1

/-- Of two rules that cover a record, the later one decides. -/
def outranks (later earlier : Rule) : Bool :=
  if later.targetSize ≠ earlier.targetSize then earlier.targetSize < later.targetSize
  else
    match later.scope, earlier.scope with
    | .withField a, .withField b => !(a < b)
    | .withField _, _ => true
    | _, .withField _ => false
    | _, _ => true

end Rule

end Gatekeeper.Log
