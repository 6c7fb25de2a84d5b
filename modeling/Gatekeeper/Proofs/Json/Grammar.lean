import Mathlib.Tactic.Lemma
import Gatekeeper.Json.Value

/-!
# The grammar of documents

Which texts are JSON documents, and what they denote, said without a reader: a relation between
texts and values, in the order of the standard's own grammar. Nothing here looks ahead, counts
bytes or knows how deep brackets may nest; that is said of the value.

Strings are spelled character by character (`Spells`), so that a character may be written in several
ways, and numbers keep the digits they are written with (`IsNumeral`). Lists and objects are two
uses of `Bracketed`, which takes the relation for its items as a parameter. `IsValue` is the
relation for values and `IsDocument` the one for whole texts.
-/

namespace Gatekeeper.Json

/-- Nothing but the four characters that may stand between the parts of a document. -/
def Spaces (text : List Char) : Prop :=
  ∀ c ∈ text, c = ' ' ∨ c = '\t' ∨ c = '\n' ∨ c = '\r'

/-- White space is decided character by character. -/
instance : DecidablePred Spaces :=
  List.decidableBAll fun c => c = ' ' ∨ c = '\t' ∨ c = '\n' ∨ c = '\r'

/-- A hexadecimal digit, in either case, and its value. -/
def HexDigit (c : Char) (n : Nat) : Prop :=
  n < 16 ∧ (c = Nat.digitChar n ∨ c = (Nat.digitChar n).toUpper)

/-- Four hexadecimal digits and the number they denote. -/
inductive HexUnit : List Char → Nat → Prop where
  | mk {a b c d k l m n} :
    HexDigit a k →
    HexDigit b l →
    HexDigit c m →
    HexDigit d n →
    HexUnit [a, b, c, d] (0x1000 * k + 0x100 * l + 0x10 * m + n)

/-- The letters that may follow a backslash, and the characters they stand for. -/
inductive ShortEscape : Char → Char → Prop where
  | quote : ShortEscape '\"' '\"'
  | backslash : ShortEscape '\\' '\\'
  | slash : ShortEscape '/' '/'
  | backspace : ShortEscape 'b' '\x08'
  | formFeed : ShortEscape 'f' '\x0c'
  | lineFeed : ShortEscape 'n' '\n'
  | carriageReturn : ShortEscape 'r' '\r'
  | tab : ShortEscape 't' '\t'

/-- A character and a way to write it in a string: as it is, by a letter, by its number, or beyond
`U+FFFF` by the numbers of two surrogates. The number of a surrogate alone is no character's. -/
inductive Spells : List Char → Char → Prop where
  | raw {c} :
    0x20 ≤ c.toNat →
    c ≠ '\"' →
    c ≠ '\\' →
    Spells [c] c
  | short {letter c} :
    ShortEscape letter c →
    Spells ['\\', letter] c
  | unit {digits} {c : Char} :
    HexUnit digits c.toNat →
    Spells ('\\' :: 'u' :: digits) c
  | pair {high low} {c : Char} :
    0x10000 ≤ c.toNat →
    HexUnit high (0xD800 + (c.toNat - 0x10000) / 0x400) →
    HexUnit low (0xDC00 + (c.toNat - 0x10000) % 0x400) →
    Spells ('\\' :: 'u' :: (high ++ '\\' :: 'u' :: low)) c

/-- Characters and a way to write them one after the other. -/
inductive SpellsAll : List Char → List Char → Prop where
  | nil : SpellsAll [] []
  | cons {spelling c spellings cs} :
    Spells spelling c →
    SpellsAll spellings cs →
    SpellsAll (spelling ++ spellings) (c :: cs)

/-- A text and a string literal for it. -/
inductive Literal : List Char → String → Prop where
  | mk {body cs} :
    SpellsAll body cs →
    Literal ('\"' :: body ++ ['\"']) (String.ofList cs)

/-- At least one digit. -/
def Digits (text : List Char) : Prop :=
  text ≠ [] ∧ ∀ c ∈ text, c.isDigit = true

/-- The whole digits of a number: a zero alone, or digits that start with another one. -/
inductive Whole : List Char → Prop where
  | zero : Whole ['0']
  | digits {c cs} :
    c ≠ '0' →
    Digits (c :: cs) →
    Whole (c :: cs)

/-- The fraction of a number, if it has one. -/
inductive Fraction : List Char → Option (List Char) → Prop where
  | none : Fraction [] none
  | some {digits} :
    Digits digits →
    Fraction ('.' :: digits) (some digits)

/-- The sign of a power of ten. -/
inductive PowerSign : List Char → Bool → Prop where
  | none : PowerSign [] false
  | plus : PowerSign ['+'] false
  | minus : PowerSign ['-'] true

/-- The power of ten of a number, if it has one. -/
inductive PowerOfTen : List Char → Option Power → Prop where
  | none : PowerOfTen [] none
  | some {mark sign negative digits} :
    mark = 'e' ∨ mark = 'E' →
    PowerSign sign negative →
    Digits digits →
    PowerOfTen (mark :: sign ++ digits) (some ⟨negative, digits⟩)

/-- The sign of a number. -/
inductive Sign : List Char → Bool → Prop where
  | none : Sign [] false
  | minus : Sign ['-'] true

/-- A number as it is written. -/
inductive IsNumeral : List Char → Numeral → Prop where
  | mk {sign whole point mark negative fraction power} :
    Sign sign negative →
    Whole whole →
    Fraction point fraction →
    PowerOfTen mark power →
    IsNumeral (sign ++ whole ++ point ++ mark) ⟨negative, whole, fraction, power⟩

section
variable {α : Type} (item : List Char → α → Prop)

/-- Something with spaces around it. -/
inductive Padded : List Char → α → Prop where
  | mk {front text back a} :
    Spaces front →
    item text a →
    Spaces back →
    Padded (front ++ text ++ back) a

/-- The items after the first one, each behind a comma. -/
inductive More : List Char → List α → Prop where
  | none : More [] []
  | next {text others a as} :
    Padded item text a →
    More others as →
    More (',' :: text ++ others) (a :: as)

/-- Items between brackets. -/
inductive Bracketed (opening closing : Char) : List Char → List α → Prop where
  | empty {spaces} :
    Spaces spaces →
    Bracketed opening closing (opening :: spaces ++ [closing]) []
  | items {text others a as} :
    Padded item text a →
    More item others as →
    Bracketed opening closing (opening :: text ++ others ++ [closing]) (a :: as)

end

/-- A member of an object: a string, a colon and a value. -/
inductive Member (value : List Char → Value → Prop) : List Char → String × Value → Prop where
  | mk {literal before behind text name v} :
    Literal literal name →
    Spaces before →
    Spaces behind →
    value text v →
    Member value (literal ++ before ++ ':' :: behind ++ text) (name, v)

/-- A value as it is written. -/
inductive IsValue : List Char → Value → Prop where
  | null : IsValue ['n', 'u', 'l', 'l'] .null
  | yes : IsValue ['t', 'r', 'u', 'e'] (.boolean true)
  | no : IsValue ['f', 'a', 'l', 's', 'e'] (.boolean false)
  | number {text numeral} :
    IsNumeral text numeral →
    IsValue text (.number numeral)
  | string {text s} :
    Literal text s →
    IsValue text (.string s)
  | list {text items} :
    Bracketed IsValue '[' ']' text items →
    IsValue text (.list items)
  | object {text members} :
    Bracketed (Member IsValue) '\x7b' '\x7d' text members →
    IsValue text (.object members)

/-- The brackets of a value nest at most so many levels deep. -/
inductive Value.NestedWithin : Nat → Value → Prop where
  | null {depth} : NestedWithin depth .null
  | boolean {depth b} : NestedWithin depth (.boolean b)
  | number {depth numeral} : NestedWithin depth (.number numeral)
  | string {depth text} : NestedWithin depth (.string text)
  | list {depth items} :
    (∀ v ∈ items, NestedWithin depth v) →
    NestedWithin (depth + 1) (.list items)
  | object {depth members} :
    (∀ m ∈ members, NestedWithin depth m.2) →
    NestedWithin (depth + 1) (.object members)

/-- Each number in a value has a property. -/
inductive Value.AllNumerals (p : Numeral → Prop) : Value → Prop where
  | null : AllNumerals p .null
  | boolean {b} : AllNumerals p (.boolean b)
  | number {numeral} : p numeral → AllNumerals p (.number numeral)
  | string {text} : AllNumerals p (.string text)
  | list {items} :
    (∀ v ∈ items, AllNumerals p v) →
    AllNumerals p (.list items)
  | object {members} :
    (∀ m ∈ members, AllNumerals p m.2) →
    AllNumerals p (.object members)

/-- A document: a value with spaces around it, its brackets nesting at most 127 levels deep. -/
def IsDocument (text : String) (v : Value) : Prop :=
  Padded IsValue text.toList v ∧ v.NestedWithin 127

end Gatekeeper.Json
