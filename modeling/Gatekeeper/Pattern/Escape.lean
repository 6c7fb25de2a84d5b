import Gatekeeper.Text.Basic

/-!
# Escapes in patterns

The flags under which a pattern is read, the blanks that one of them allows, and what a backslash
stands for. There are no tables of cases or of properties of characters here, so that a pattern can
be used only if it does without them. A pattern is searched for in texts, and may not match a byte
that is no character.

`readEscape` reads an escape anywhere in a pattern and `readMember` one character of a class; what
either finds is an `Atom`, and `Atom.isUsable` says whether a pattern may hold it under the flags at
that place.
-/

namespace Gatekeeper.Pattern

/-- The flags that bear on whether a pattern can be used: case does not matter; it is about
characters and not about bytes; blanks and comments in it are left out. -/
structure Flags where
  caseless : Bool
  unicode : Bool
  spaced : Bool
deriving DecidableEq

/-- The flags that a pattern starts with. -/
def Flags.start : Flags := ⟨false, true, false⟩

/-- The text without the blanks and comments at its front; the first argument says that it starts
inside a comment. -/
def skipFiller : Bool → List Char → List Char
  | _, [] => []
  | true, c :: cs => skipFiller (c != '\n') cs
  | false, c :: cs =>
    if Text.isBlank c then skipFiller false cs
    else if c == '#' then skipFiller true cs
    else c :: cs

/-- The text without what is left out at its front. -/
def Flags.skip (flags : Flags) (text : List Char) : List Char :=
  if flags.spaced then skipFiller false text else text

/-- What one or more characters of a pattern stand for: a character, which may be written as a byte;
a class of digits, blanks or letters, or all others; or a place between two characters, which may be
the edge of a word. -/
inductive Atom where
  | literal (c : Char) (isByte : Bool)
  | kind (negated : Bool)
  | place (isEdge : Bool)
deriving DecidableEq

/-- An atom can be used outside brackets. -/
def Atom.isUsable (flags : Flags) : Atom → Bool
  | literal c isByte => if flags.unicode then !flags.caseless else !isByte || c.toNat ≤ 0x7F
  | kind negated => !flags.unicode && !negated
  | place _ => true

/-- A character can be used in brackets. -/
def fits (flags : Flags) (c : Char) : Bool :=
  if flags.unicode then !flags.caseless else c.toNat ≤ 0x7F

/-- The number that so many hexadecimal digits denote, after one that has been read. -/
def readHex (flags : Flags) : Nat → Nat → List Char → Option (Nat × List Char)
  | 0, value, text => some (value, text)
  | _ + 1, _, [] => none
  | count + 1, value, c :: rest => do
    let digit ← Text.hexDigit c
    readHex flags count (value * 16 + digit) (flags.skip rest)

/-- The character that so many hexadecimal digits number. -/
def readNumber (flags : Flags) (count : Nat) (text : List Char) : Option (Atom × List Char) := do
  let (value, rest) ← readHex flags count 0 (flags.skip text)
  if value.isValidChar then return (.literal (Char.ofNat value) (count == 2), rest) else none

/-- What a backslash and a letter or an angle bracket stand for. -/
def ofLetter (c : Char) : Option Atom :=
  match c with
  | 'a' => some (.literal '\x07' false)
  | 'f' => some (.literal '\x0c' false)
  | 'n' => some (.literal '\n' false)
  | 'r' => some (.literal '\r' false)
  | 't' => some (.literal '\t' false)
  | 'v' => some (.literal '\x0b' false)
  | 'A' | 'z' => some (.place false)
  | 'b' | 'B' | '<' | '>' => some (.place true)
  | 'd' | 's' | 'w' => some (.kind false)
  | 'D' | 'S' | 'W' => some (.kind true)
  | _ => none

/-- An escape, from just after its backslash. Every character of ASCII but letters, digits and the
angle brackets can be escaped to stand for itself. -/
def readEscape (flags : Flags) : List Char → Option (Atom × List Char)
  | [] => none
  | c :: rest =>
    if c == 'x' then readNumber flags 2 rest
    else if c == 'u' then readNumber flags 4 rest
    else if c == 'U' then readNumber flags 8 rest
    else if c.isAlphanum || c == '<' || c == '>' then (ofLetter c).map (·, rest)
    else if c.toNat < 0x80 then some (.literal c false, rest)
    else none

/-- What one or more characters in brackets stand for. -/
def readMember (flags : Flags) : List Char → Option (Atom × List Char)
  | [] => none
  | c :: rest => if c == '\\' then readEscape flags rest else some (.literal c false, rest)

end Gatekeeper.Pattern
