import Gatekeeper.Json.Numeral
import Gatekeeper.Json.StringLiteral

/-!
# Documents

The values a JSON document can hold, and the reader for them. A list or an object is read by one
loop over its items, which is told what its brackets are and how an item is read. How deep brackets
may nest is a number that each level passes on, less one, to the values inside.

`readWith` reads one value, given a reader for the values inside it, and `readValue` is that for
each depth. The loop over items (`readMore`) has the length of the text for its fuel, and every item
takes up some of it. Values can be compared (`Value.same`).
-/

namespace Gatekeeper.Json

/-- What a document holds. An object keeps its members in the order in which they are written, each
as often as it is written. -/
inductive Value where
  | null
  | boolean (b : Bool)
  | number (numeral : Numeral)
  | string (text : String)
  | list (items : List Value)
  | object (members : List (String × Value))

mutual

/-- The two values are the same. -/
def Value.same : Value → Value → Bool
  | .null, .null => true
  | .boolean a, .boolean b => a == b
  | .number a, .number b => a == b
  | .string a, .string b => a == b
  | .list items, .list others => Value.sameItems items others
  | .object members, .object others => Value.sameMembers members others
  | _, _ => false

/-- The two lists hold the same values. -/
def Value.sameItems : List Value → List Value → Bool
  | [], [] => true
  | v :: items, w :: others => v.same w && Value.sameItems items others
  | _, _ => false

/-- The two lists hold the same values under the same names. -/
def Value.sameMembers : List (String × Value) → List (String × Value) → Bool
  | [], [] => true
  | (a, v) :: members, (b, w) :: others =>
    a == b && v.same w && Value.sameMembers members others
  | _, _ => false

end

mutual

/-- Values are compared part by part. -/
theorem Value.same_iff (v w : Value) : v.same w = true ↔ v = w := by
  cases v with
  | list items => cases w with
    | list others => rw [Value.same, Value.sameItems_iff, Value.list.injEq]
    | _ => simp [Value.same]
  | object members => cases w with
    | object others => rw [Value.same, Value.sameMembers_iff, Value.object.injEq]
    | _ => simp [Value.same]
  | _ => cases w with
    | _ => simp [Value.same]

/-- The same goes for lists of them. -/
theorem Value.sameItems_iff (items others : List Value) :
    Value.sameItems items others = true ↔ items = others := by
  cases items with
  | nil => cases others with
    | _ => simp [Value.sameItems]
  | cons v items => cases others with
    | nil => simp [Value.sameItems]
    | cons w others =>
      rw [Value.sameItems, Bool.and_eq_true, Value.same_iff, Value.sameItems_iff, List.cons.injEq]

/-- And for members. -/
theorem Value.sameMembers_iff (members others : List (String × Value)) :
    Value.sameMembers members others = true ↔ members = others := by
  cases members with
  | nil => cases others with
    | _ => simp [Value.sameMembers]
  | cons m members => cases others with
    | nil => simp [Value.sameMembers]
    | cons n others =>
      obtain ⟨a, v⟩ := m
      obtain ⟨b, w⟩ := n
      rw [Value.sameMembers, Bool.and_eq_true, Bool.and_eq_true, beq_iff_eq, Value.same_iff,
        Value.sameMembers_iff, List.cons.injEq, Prod.mk.injEq]

end

/-- Values are compared by `Value.same`. -/
instance : DecidableEq Value :=
  fun v w => decidable_of_iff _ (Value.same_iff v w)

/-- The last member of that name: of several it is the one that counts. -/
def lastMember (members : List (String × Value)) (name : String) : Option Value :=
  members.reverse.lookup name

/-- The four characters that may stand between the parts of a document. -/
def isSpace (c : Char) : Bool :=
  c == ' ' || c == '\n' || c == '\t' || c == '\r'

/-- The text without the spaces at its front. -/
def skipSpace (text : List Char) : List Char :=
  text.dropWhile isSpace

/-- The brackets around items: what closes them, and what it means if the text ends between items
or goes on with neither a comma nor the closing bracket. -/
structure Brackets where
  close : Char
  atEnd : Cause
  unseparated : Cause

/-- The brackets of a list. -/
def Brackets.list : Brackets := ⟨']', .endInList, .listUnseparated⟩

/-- The brackets of an object. -/
def Brackets.object : Brackets := ⟨'\x7d', .endInObject, .objectUnseparated⟩

/-- The items that follow an item, and the closing bracket. There are at most `fuel` of them; each
takes a character at least, so that the length of the text is fuel enough. -/
def readMore {α : Type} (brackets : Brackets) (item : Reader α) : Nat → Reader (List α)
  | 0, _ => .error (.atEnd brackets.atEnd)
  | fuel + 1, text =>
    match skipSpace text with
    | [] => .error (.atEnd brackets.atEnd)
    | c :: rest =>
      if c == brackets.close then .ok ([], rest)
      else if c == ',' then
        match skipSpace rest with
        | [] => .error (.atEnd .endInValue)
        | d :: rest =>
          if d == brackets.close then .error (.on .commaTrailing (d :: rest))
          else do
            let (first, rest) ← item (d :: rest)
            let (others, rest) ← readMore brackets item fuel rest
            return (first :: others, rest)
      else .error (.on brackets.unseparated (c :: rest))

/-- Items between commas, from just after the opening bracket. -/
def readItems {α : Type} (brackets : Brackets) (item : Reader α) : Reader (List α) := fun text =>
  match skipSpace text with
  | [] => .error (.atEnd brackets.atEnd)
  | c :: rest =>
    if c == brackets.close then .ok ([], rest)
    else do
      let (first, rest) ← item (c :: rest)
      let (others, rest) ← readMore brackets item (rest.length + 1) rest
      return (first :: others, rest)

/-- A member of an object: a name, a colon and a value. -/
def readMember (value : Reader Value) : Reader (String × Value) := fun text =>
  match text with
  | '\"' :: rest => do
    let (name, rest) ← StringLiteral.read rest
    match skipSpace rest with
    | [] => .error (.atEnd .endInObject)
    | c :: rest =>
      if c == ':' then do
        let (value, rest) ← value rest
        return ((name, value), rest)
      else .error (.on .colonMissing (c :: rest))
  | text => .error (.on .nameMissing text)

/-- The rest of a word, letter by letter. -/
def readWord (value : Value) : List Char → Reader Value
  | [], text => .ok (value, text)
  | _ :: _, [] => .error (.atEnd .endInValue)
  | letter :: letters, c :: rest =>
    if c == letter then readWord value letters rest else .error (.on .wordMisspelt (c :: rest))

/-- A value. The values inside its brackets are read by `inner`; without it no bracket may open. -/
def readWith (inner : Option (Reader Value)) : Reader Value := fun text =>
  match skipSpace text with
  | [] => .error (.atEnd .endInValue)
  | c :: rest =>
    if c == 'n' then readWord .null ['u', 'l', 'l'] rest
    else if c == 't' then readWord (.boolean true) ['r', 'u', 'e'] rest
    else if c == 'f' then readWord (.boolean false) ['a', 'l', 's', 'e'] rest
    else if c == '\"' then
      (StringLiteral.read rest).map fun (text, rest) => (.string text, rest)
    else if c == '-' || c.isDigit then
      (Numeral.read (c :: rest)).map fun (numeral, rest) => (.number numeral, rest)
    else if c == '[' then
      match inner with
      | some inner =>
        (readItems .list inner rest).map fun (items, rest) => (.list items, rest)
      | none => .error (.on .nestingTooDeep (c :: rest))
    else if c == '\x7b' then
      match inner with
      | some inner =>
        (readItems .object (readMember inner) rest).map fun (members, rest) =>
          (.object members, rest)
      | none => .error (.on .nestingTooDeep (c :: rest))
    else .error (.on .valueMissing (c :: rest))

/-- A value in which brackets nest at most so many levels deep. -/
def readValue : Nat → Reader Value
  | 0 => readWith none
  | depth + 1 => readWith (some (readValue depth))

/-- How many levels deep the brackets of a document may nest. -/
def maxDepth : Nat := 127

/-- A value with nothing but spaces around it. -/
def readDocument (text : List Char) : Except Fault Value := do
  let (value, rest) ← readValue maxDepth text
  match skipSpace rest with
  | [] => return value
  | c :: rest => .error (.on .textTrailing (c :: rest))

/-- The value that a text holds. -/
def read (text : String) : Except Malformation Value :=
  (readDocument text.toList).mapError (Fault.locate text)

end Gatekeeper.Json
