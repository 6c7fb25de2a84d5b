import Gatekeeper.Pattern.Brackets
import Gatekeeper.Text.Alphanumeric

/-!
# Patterns

Whether a text is a pattern that can be searched for: groups, alternatives, repetitions, classes in
brackets and escapes, under flags that groups set. What a pattern matches is no concern here. A
pattern stands between braces and holds no closing one; so the count of a repetition, which would
stand in braces too, is never complete.

The text is read from left to right with the open groups on a stack. Of every part that has been
read its height is kept, for a pattern may not be nested too deep.
-/

namespace Gatekeeper.Pattern

/-- Why a text is no pattern that can be searched for. -/
inductive Fault where
  | malformed
  | wordEdge
deriving DecidableEq

/-- The words for a fault. -/
def Fault.message : Fault → String
  | malformed => "error building NFA"
  | wordEdge =>
    "unsupported regex feature for DFAs: cannot build DFAs for regexes with Unicode word " ++
      "boundaries; switch to ASCII word boundaries, or heuristically enable Unicode word " ++
      "boundaries or use a different regex engine"

/-- A part that has been read: its height, and whether it can be repeated. -/
structure Part where
  height : Nat
  repeatable : Bool
deriving DecidableEq

/-- A group that is open: the flags that hold in it, the heights of its alternatives up to the last
bar, and the parts after that, the last one first. -/
structure Group where
  flags : Flags
  branches : List Nat
  parts : List Part

/-- A group of which nothing has been read. -/
def Group.fresh (flags : Flags) : Group := ⟨flags, [], []⟩

/-- The group with one more part. -/
def Group.add (group : Group) (height : Nat) : Group :=
  { group with parts := ⟨height, true⟩ :: group.parts }

/-- The height of the alternative that is being read. -/
def Group.branch (group : Group) : Nat := heightOf (group.parts.map Part.height)

/-- The height of what is in the group. -/
def Group.height (group : Group) : Nat := heightOf (group.branch :: group.branches)

/-- How far a pattern has been read: the innermost open group, those around it, the names that
groups have, and whether the edge of a word of characters has been asked for. -/
structure State where
  group : Group
  outer : List Group
  names : List (List Char)
  hasEdge : Bool

/-- Nothing of a pattern has been read. -/
def State.start : State := ⟨.fresh .start, [], [], false⟩

/-- A flag that is turned on or off by what is written for it. -/
def switched (items : List Char) (flag : Char) (old : Bool) : Bool :=
  if (items.takeWhile (· != '-')).contains flag then true
  else if items.contains flag then false
  else old

/-- The flags after a change: those before the dash are turned on, those after it off. -/
def Flags.change (flags : Flags) (items : List Char) : Flags where
  caseless := switched items 'i' flags.caseless
  unicode := switched items 'u' flags.unicode
  spaced := switched items 'x' flags.spaced

/-- Everything that a change of flags can hold, each at most once. -/
def flagItems : List Char := ['i', 'm', 's', 'U', 'u', 'R', 'x', '-']

/-- A change of flags, the character that ends it, and the text after that. -/
def readFlags : List Char → List Char → Option (List Char × Char × List Char)
  | _, [] => none
  | items, c :: rest =>
    if c == ':' || c == ')' then
      if items.getLast? = some '-' then none else some (items, c, rest)
    else if flagItems.contains c && !items.contains c then readFlags (items ++ [c]) rest
    else none

/-- The name of a group, up to its angle bracket, and the text after that. -/
def readGroupName (text : List Char) : Option (List Char × List Char) :=
  let name := text.takeWhile (· != '>')
  match name, text.drop name.length with
  | first :: others, '>' :: rest =>
    let starts := first == '_' || Text.isLetter first
    let goesOn := others.all fun c => ['_', '.', '[', ']'].contains c || Text.isAlphanumeric c
    if starts && goesOn then some (name, rest) else none
  | _, _ => none

/-- The state in a new group. -/
def State.enter (state : State) (flags : Flags) : State :=
  { state with group := .fresh flags, outer := state.group :: state.outer }

/-- A named group, from its name on. No two have one name. -/
def State.enterNamed (state : State) (text : List Char) : Option (State × List Char) := do
  let (name, rest) ← readGroupName text
  if state.names.contains name then none
  else return ({ state.enter state.group.flags with names := name :: state.names }, rest)

/-- What an opening parenthesis starts, from just after it: a group, or a change of flags for the
rest of the group around it. -/
def State.open (state : State) (text : List Char) : Option (State × List Char) :=
  match state.group.flags.skip text with
  | '?' :: 'P' :: '<' :: rest => state.enterNamed rest
  | '?' :: '<' :: rest => state.enterNamed rest
  | '?' :: rest => do
    let (items, last, rest) ← readFlags [] rest
    let flags := state.group.flags.change items
    if last == ':' then return (state.enter flags, rest)
    else if items.isEmpty then none
    else
      let group := { state.group with flags := flags, parts := ⟨0, false⟩ :: state.group.parts }
      return ({ state with group := group }, rest)
  | rest => some (state.enter state.group.flags, rest)

/-- The state after the innermost group. -/
def State.close (state : State) : Option State :=
  match state.outer with
  | [] => none
  | parent :: outer =>
    some { state with group := parent.add (1 + state.group.height), outer := outer }

/-- The state with the last part repeated. -/
def State.repeatLast (state : State) : Option State :=
  match state.group.parts with
  | ⟨height, true⟩ :: parts =>
    some { state with group := { state.group with parts := ⟨1 + height, true⟩ :: parts } }
  | _ => none

/-- The state with one more part. -/
def State.add (state : State) (height : Nat) : State :=
  { state with group := state.group.add height }

/-- The state with one more atom, if it can be used. -/
def State.addAtom (state : State) (atom : Atom) : Option State :=
  let flags := state.group.flags
  if atom.isUsable flags then
    some { state.add 0 with hasEdge := state.hasEdge || (atom = .place true && flags.unicode) }
  else none

/-- Reads the next part or mark of a pattern, which starts with the given character. -/
def State.step (state : State) (c : Char) (rest : List Char) : Option (State × List Char) :=
  let flags := state.group.flags
  if c == '(' then state.open rest
  else if c == ')' then state.close.map (·, rest)
  else if c == '|' then
    let group : Group := ⟨flags, state.group.branch :: state.group.branches, []⟩
    some ({ state with group := group }, rest)
  else if c == '[' then
    (readBrackets flags rest).map fun (height, rest) => (state.add height, rest)
  else if c == '?' || c == '*' || c == '+' then
    let rest := if rest.head? = some '?' then rest.drop 1 else rest
    state.repeatLast.map (·, rest)
  else if c == '{' then none
  else if c == '\\' then do
    let (atom, rest) ← readEscape flags rest
    return (← state.addAtom atom, rest)
  else if c == '.' then if flags.unicode then some (state.add 0, rest) else none
  else if c == '^' || c == '$' then some (state.add 0, rest)
  else (state.addAtom (.literal c false)).map (·, rest)

/-- Reads a pattern to its end. Each step takes a character at least, so that the length of the text
is fuel enough. -/
def State.read : Nat → State → List Char → Option State
  | 0, _, _ => none
  | fuel + 1, state, text =>
    match state.group.flags.skip text with
    | [] => if state.outer.isEmpty then some state else none
    | c :: rest => do
      let (state, rest) ← state.step c rest
      state.read fuel rest

/-- How deep a pattern may be nested. -/
def maxHeight : Nat := 250

/-- What is wrong with a pattern, if anything is. -/
def fault? (text : List Char) : Option Fault :=
  match State.start.read (text.length + 1) text with
  | none => some .malformed
  | some state =>
    if maxHeight < state.group.height then some .malformed
    else if state.hasEdge then some .wordEdge
    else none

end Gatekeeper.Pattern
