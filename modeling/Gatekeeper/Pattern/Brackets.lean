import Gatekeeper.Pattern.Escape

/-!
# Brackets in patterns

A class of characters in brackets: its members, ranges of them, named classes and classes in inner
brackets, and the operations on them. Of a class that can be used only the height is kept, which
says how deep it is nested.

A class that is open is kept with those around it (`Open`), so that the text is read from left to
right without a look back. Whether a dash is a member or the middle of a range is told by what comes
next (`afterDash`).
-/

namespace Gatekeeper.Pattern

/-- The height of parts that stand side by side: one alone stands for itself. -/
def heightOf : List Nat → Nat
  | [] => 0
  | [height] => height
  | heights => 1 + heights.foldl max 0

/-- Brackets that are open: the height of what comes before the last operation, if there was one,
and the heights of the parts after it. -/
structure Open where
  before : Option Nat
  parts : List Nat

/-- The brackets with one more part. -/
def Open.add (level : Open) (height : Nat) : Open :=
  { level with parts := height :: level.parts }

/-- The height of what is in the brackets. -/
def Open.height (level : Open) : Nat :=
  match level.before with
  | none => heightOf level.parts
  | some before => 1 + max before (heightOf level.parts)

/-- The dashes at the front of brackets, which stand for themselves. There are at most `fuel` of
them. -/
def readDashes (flags : Flags) : Nat → Open → List Char → Option (Open × List Char)
  | fuel + 1, level, '-' :: rest =>
    if fits flags '-' then readDashes flags fuel (level.add 0) (flags.skip rest) else none
  | _, _, [] => none
  | _, level, text => some (level, text)

/-- The front of brackets, from just after the opening one. A class of bytes cannot be negated, for
it would hold bytes that are no characters. A closing bracket that comes first stands for itself. -/
def readFront (flags : Flags) (text : List Char) : Option (Open × List Char) := do
  let text ←
    match flags.skip text with
    | '^' :: rest => if flags.unicode then some (flags.skip rest) else none
    | text => some text
  let (level, text) ← readDashes flags text.length ⟨none, []⟩ text
  match level.parts, text with
  | [], ']' :: rest =>
    match flags.skip rest with
    | [] => none
    | rest => if fits flags ']' then return (level.add 0, rest) else none
  | _, text => return (level, text)

/-- The names of classes. -/
def classNames : List String :=
  ["alnum", "alpha", "ascii", "blank", "cntrl", "digit", "graph", "lower", "print", "punct",
    "space", "upper", "word", "xdigit"]

/-- A named class between colons, from just after its opening bracket, and whether it is
negated. -/
def readNamed : List Char → Option (Bool × List Char)
  | ':' :: text =>
    let negated := text.head? = some '^'
    let text := if negated then text.drop 1 else text
    let name := text.takeWhile (· != ':')
    match text.drop name.length with
    | ':' :: ']' :: rest =>
      if classNames.contains (String.ofList name) then some (negated, rest) else none
    | _ => none
  | _ => none

/-- The character that decides whether a dash makes a range, from just after the dash. If there are
blanks, one mark of a comment among them is passed as well, but not the comment. -/
def afterDash (flags : Flags) (rest : List Char) : Option Char :=
  if flags.spaced then
    let next :=
      match rest.dropWhile Text.isBlank with
      | '#' :: comment => comment.dropWhile Text.isBlank
      | next => next
    next.head?.or rest.head?
  else rest.head?

/-- A member of brackets or a range of them. -/
def readRange (flags : Flags) (text : List Char) : Option (List Char) := do
  let (first, text) ← readMember flags text
  match flags.skip text with
  | [] => none
  | mark :: rest =>
    let next := afterDash flags rest
    if mark != '-' || next = some ']' || next = some '-' then
      match first with
      | .literal c _ => if fits flags c then return mark :: rest else none
      | .kind negated => if Atom.isUsable flags (.kind negated) then return mark :: rest else none
      | .place _ => none
    else
      match first, ← readMember flags (flags.skip rest) with
      | .literal low _, (.literal high _, rest) =>
        if low ≤ high && fits flags low && fits flags high then return rest else none
      | _, _ => none

/-- The height of brackets and the text after them. The innermost of the open ones comes first.
Each step takes a character at least, so that the length of the text is fuel enough. -/
def readOpen (flags : Flags) : Nat → Open → List Open → List Char → Option (Nat × List Char)
  | 0, _, _, _ => none
  | fuel + 1, level, outer, text =>
    let combined : Open := ⟨some level.height, []⟩
    match flags.skip text with
    | [] => none
    | '[' :: rest =>
      match readNamed rest with
      | some (negated, rest) =>
        if (if flags.unicode then !flags.caseless else !negated) then
          readOpen flags fuel (level.add 0) outer rest
        else none
      | none => do
        let (inner, rest) ← readFront flags rest
        readOpen flags fuel inner (level :: outer) rest
    | ']' :: rest =>
      match outer with
      | [] => some (1 + level.height, rest)
      | parent :: outer => readOpen flags fuel (parent.add (1 + level.height)) outer rest
    | '&' :: '&' :: rest => readOpen flags fuel combined outer rest
    | '-' :: '-' :: rest => readOpen flags fuel combined outer rest
    | '~' :: '~' :: rest => readOpen flags fuel combined outer rest
    | text => do
      let rest ← readRange flags text
      readOpen flags fuel (level.add 0) outer rest

/-- The height of a class in brackets, from just after the opening one, and the text after it. -/
def readBrackets (flags : Flags) (text : List Char) : Option (Nat × List Char) := do
  let (level, rest) ← readFront flags text
  readOpen flags (rest.length + 1) level [] rest

end Gatekeeper.Pattern
