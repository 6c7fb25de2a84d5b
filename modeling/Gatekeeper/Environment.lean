import Gatekeeper.Text.Alphanumeric
import Gatekeeper.Text.Basic

/-!
# Environments

The variables that a process is started with. Of several with one name the first counts.

A file of assignments can supply variables that the environment lacks, one assignment a line. A
value may be quoted, then a line can go on over several; it may refer to variables that are set
before it, in the environment or by an earlier line. Reading ends for good at the first line that is
no assignment, and what was supplied until then stays.

* `Environment.get?` and `Environment.supply` look a variable up and fill a gap.
* `Environment.readLine` is what one line of a file of assignments does.
* `Environment.supplyFile` is the environment with what a file supplies, line after line.
-/

namespace Gatekeeper

/-- Names with their values. -/
abbrev Environment := List (String × String)

namespace Environment

/-- The value of a variable that is set. -/
def get? (env : Environment) (name : String) : Option String :=
  env.lookup name

/-- The environment with a variable set, unless it is set already. -/
def supply (env : Environment) (name value : String) : Environment :=
  match env.get? name with
  | some _ => env
  | none => env ++ [(name, value)]

/-! ## Files of assignments -/

/-- Where a line stands, which decides whether it is at its end with the next line feed. -/
inductive Framing where
  | plain
  | blank
  | escape
  | single
  | singleEscape
  | double
  | doubleEscape
deriving DecidableEq

namespace Framing

/-- What a character leads to outside quotes, blanks apart. -/
def ofMark (c : Char) : Framing :=
  if c == '\\' then escape
  else if c == '\"' then double
  else if c == '\x27' then single
  else plain

/-- Where a line stands after one more character. At a comment there is nothing more to follow. -/
def next : Framing → Char → Option Framing
  | plain, c =>
    if Text.isBlank c && c != '\n' && c != '\r' then some blank else some (ofMark c)
  | blank, c => if c == '#' then none else some (ofMark c)
  | escape, _ => some plain
  | single, c =>
    some (if c == '\\' then singleEscape else if c == '\x27' then plain else single)
  | singleEscape, _ => some single
  | double, c =>
    some (if c == '\\' then doubleEscape else if c == '\"' then plain else double)
  | doubleEscape, _ => some double

/-- The characters before a comment, and where the line stands after them if there is none. -/
def follow : Framing → List Char → List Char × Option Framing
  | framing, [] => ([], some framing)
  | framing, c :: cs =>
    match framing.next c with
    | none => ([], none)
    | some framing =>
      let (kept, last) := framing.follow cs
      (c :: kept, last)

end Framing

/-- The part of a line that has been read. -/
structure Pending where
  text : List Char
  framing : Framing

/-- Nothing of the next line has been read. -/
def Pending.fresh : Pending := ⟨[], .plain⟩

/-- What a piece of the file makes of a line. -/
inductive Extended where
  | line (text : List Char)
  | unfinished (pending : Pending)

/-- A line with one more piece of the file, up to a line feed. A line that starts as a comment is
empty. -/
def Pending.extend (pending : Pending) (piece : List Char) : Extended :=
  if ((pending.text ++ piece).dropWhile Text.isBlank).head? = some '#' then .line []
  else
    match pending.framing.follow piece with
    | (kept, none) => .line (pending.text ++ kept)
    | (kept, some .plain) => .line (pending.text ++ kept)
    | (kept, some framing) => .unfinished ⟨pending.text ++ kept, framing⟩

/-- Where a value stands. `quoted` says that a double quote is open. -/
inductive Mode where
  | bare (quoted : Bool)
  | escape (quoted : Bool)
  | literal
  | name (quoted : Bool) (name : List Char)
  | braced (quoted : Bool) (name : List Char)
  | ended

/-- What a reference to a variable stands for. The environment is searched for what comes before an
equals sign, and that may be one inside a value: where `A` is `b=c`, the name `A=b` stands for
`c`. -/
def valueOf (env : Environment) (name : List Char) : List Char :=
  let value := env.findSome? fun (set, value) =>
    (name ++ ['=']).isPrefixOf? (set.toList ++ '=' :: value.toList)
  value.getD []

/-- What a backslash and this character stand for in a value. -/
def unescape (c : Char) : Option Char :=
  if c == 'n' then some '\n'
  else if c == '\\' || c == '\x27' || c == '\"' || c == '$' || c == ' ' then some c
  else none

/-- The value that the rest of a line denotes. A reference without braces ends at the first
character that is neither letter nor digit; that character is taken as it is, even a quote, unless
it starts another reference. -/
def readValue (env : Environment) : Mode → List Char → Option (List Char)
  | .bare quoted, [] => if quoted then none else some []
  | .escape quoted, [] => if quoted then none else some []
  | .literal, [] => none
  | .name quoted name, [] => if quoted then none else some (valueOf env name)
  | .braced _ _, [] => none
  | .ended, [] => some []
  | .bare quoted, c :: cs =>
    if c == '$' then readValue env (.name quoted []) cs
    else if c == '\\' then readValue env (.escape quoted) cs
    else if c == '\"' then readValue env (.bare (!quoted)) cs
    else if c == '\x27' && !quoted then readValue env .literal cs
    else if (c == ' ' || c == '\t') && !quoted then readValue env .ended cs
    else (readValue env (.bare quoted) cs).map (c :: ·)
  | .escape quoted, c :: cs =>
    match unescape c with
    | some d => (readValue env (.bare quoted) cs).map (d :: ·)
    | none => none
  | .literal, c :: cs =>
    if c == '\x27' then readValue env (.bare false) cs
    else (readValue env .literal cs).map (c :: ·)
  | .name quoted name, c :: cs =>
    if Text.isAlphanumeric c then readValue env (.name quoted (name ++ [c])) cs
    else if c == '\x7b' && name.isEmpty then readValue env (.braced quoted []) cs
    else if c == '$' then (readValue env (.name quoted []) cs).map (valueOf env name ++ ·)
    else (readValue env (.bare quoted) cs).map (valueOf env name ++ c :: ·)
  | .braced quoted name, c :: cs =>
    if c == '\x7d' then (readValue env (.bare quoted) cs).map (valueOf env name ++ ·)
    else readValue env (.braced quoted (name ++ [c])) cs
  | .ended, c :: cs =>
    if c == ' ' || c == '\t' then readValue env .ended cs
    else if c == '#' then some []
    else none

/-- The name of a variable at the front of a text, and the text after the blanks that follow it. -/
def readName : List Char → Option (List Char × List Char)
  | [] => none
  | c :: cs =>
    if c.isAlpha || c == '_' then
      let name := (c :: cs).takeWhile fun c => c.isAlphanum || c == '_' || c == '.'
      some (name, ((c :: cs).drop name.length).dropWhile Text.isBlank)
    else none

/-- The name that is assigned to, and the text after the equals sign and the blanks that follow it.
The word `export` may come first, and is a name itself where an equals sign follows. -/
def readTarget (text : List Char) : Option (List Char × List Char) := do
  let (name, rest) ← readName text
  match rest with
  | '=' :: rest => return (name, rest.dropWhile Text.isBlank)
  | rest =>
    guard (name = ['e', 'x', 'p', 'o', 'r', 't'])
    match ← readName rest with
    | (name, '=' :: rest) => return (name, rest.dropWhile Text.isBlank)
    | _ => none

/-- What a line does. -/
inductive Line where
  | nothing
  | assignment (name value : String)

/-- What a line does, if it can be made out. -/
def readLine (env : Environment) (line : List Char) : Option Line :=
  match (Text.trimEnd line).dropWhile Text.isBlank with
  | [] => some .nothing
  | '#' :: _ => some .nothing
  | text => do
    let (name, rest) ← readTarget text
    let value ←
      match rest with
      | [] | '#' :: _ => some []
      | rest => readValue env (.bare false) rest
    return .assignment (String.ofList name) (String.ofList value)

/-- The environment with what the pieces of a file supply. -/
def supplyPieces : Environment → Pending → List (List UInt8) → Environment
  | env, _, [] => env
  | env, pending, piece :: pieces =>
    match Text.decode piece with
    | none => env
    | some text =>
      match pending.extend text.toList with
      | .unfinished pending => supplyPieces env pending pieces
      | .line line =>
        match readLine env line with
        | none => env
        | some .nothing => supplyPieces env .fresh pieces
        | some (.assignment name value) => supplyPieces (env.supply name value) .fresh pieces

/-- A file without the mark that says it is UTF-8. -/
def dropMark : List UInt8 → List UInt8
  | 0xEF :: 0xBB :: 0xBF :: bytes => bytes
  | bytes => bytes

/-- The environment with what a file of assignments supplies. -/
def supplyFile (env : Environment) (bytes : List UInt8) : Environment :=
  supplyPieces env .fresh (Text.pieces (dropMark bytes))

/-- A file supplies a value with a NUL character in it, which no variable can hold. Such a value can
come from nowhere but the file. -/
def suppliesNul (env : Environment) (bytes : List UInt8) : Bool :=
  bytes.contains 0 &&
    (env.supplyFile bytes).any fun (_, value) => value.toList.contains '\x00'

/-- The variables before the first one with such a value, which are all that are set when it is come
upon. -/
def untilNul (env : Environment) : Environment :=
  env.takeWhile fun (_, value) => !value.toList.contains '\x00'

end Environment

end Gatekeeper
