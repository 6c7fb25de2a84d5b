/-!
# Texts and bytes

What every reader of texts in this library needs: the parts of a text between marks, the values of
digits, the blanks around a text, and the lines of a stream.

* `split` cuts a list at every occurrence of a mark; a list with `n` marks has `n + 1` parts.
* `digit`, `natural` and `hexDigit` give the values of digits, which are those of ASCII alone.
* `isBlank` holds of the characters that count as white space when a text is trimmed or asked
  whether it says anything.
* `encode` and `decode` lead from texts to bytes and back. Texts travel as UTF-8, and decoding
  accepts exactly the encodings of texts.
* `pieces` and `lines` cut a stream of bytes after each line feed before anything is decoded. That
  is safe because no character but the line feed itself has the byte `0x0A` in its encoding.
-/

namespace Gatekeeper.Text

/-! ## Parts between marks -/

/-- The parts of a list between the elements equal to `mark`, empty parts included. -/
def split {α : Type} [BEq α] (mark : α) : List α → List (List α)
  | [] => [[]]
  | x :: xs =>
    if x == mark then [] :: split mark xs
    else
      match split mark xs with
      | part :: parts => (x :: part) :: parts
      | [] => [[x]]

/-! ## Digits -/

/-- The value of a decimal digit. -/
def digit (c : Char) : Nat := c.toNat - '0'.toNat

/-- The number that decimal digits denote. -/
def natural (digits : List Char) : Nat :=
  digits.foldl (fun n c => n * 10 + digit c) 0

/-- The value of a hexadecimal digit, in either case. -/
def hexDigit (c : Char) : Option Nat :=
  if c.isDigit then some (digit c)
  else if 'a' ≤ c ∧ c ≤ 'f' then some (c.toNat - 'a'.toNat + 10)
  else if 'A' ≤ c ∧ c ≤ 'F' then some (c.toNat - 'A'.toNat + 10)
  else none

/-! ## Blanks -/

/-- The character has the Unicode property White_Space. -/
def isBlank (c : Char) : Bool :=
  let n := c.toNat
  (0x9 ≤ n && n ≤ 0xD) || n == 0x20 || n == 0x85 || n == 0xA0 || n == 0x1680 ||
    (0x2000 ≤ n && n ≤ 0x200A) || n == 0x2028 || n == 0x2029 || n == 0x202F || n == 0x205F ||
    n == 0x3000

/-- The text without the blanks at its end. -/
def trimEnd (cs : List Char) : List Char :=
  (cs.reverse.dropWhile isBlank).reverse

/-- The text without the blanks at either end. -/
def trim (cs : List Char) : List Char :=
  trimEnd (cs.dropWhile isBlank)

/-! ## Bytes and lines -/

/-- The byte that ends a line. -/
def lineFeed : UInt8 := 0x0A

/-- The byte that may stand directly before a line feed and then belongs to the line's end. -/
def carriageReturn : UInt8 := 0x0D

/-- The UTF-8 form of a text. -/
def encode (text : String) : List UInt8 :=
  text.toByteArray.data.toList

/-- The text whose UTF-8 form the bytes are, if there is one. -/
def decode (bytes : List UInt8) : Option String :=
  String.fromUTF8? ⟨bytes.toArray⟩

/-- The stream cut after each line feed. Only the last piece can lack one, and none is empty. -/
def pieces : List UInt8 → List (List UInt8)
  | [] => []
  | b :: bytes =>
    if b == lineFeed then [b] :: pieces bytes
    else
      match pieces bytes with
      | piece :: more => (b :: piece) :: more
      | [] => [[b]]

/-- A piece without its line end: the line feed, and one carriage return directly before it. -/
def content (piece : List UInt8) : List UInt8 :=
  match piece.reverse with
  | last :: front =>
    if last == lineFeed then
      match front with
      | before :: rest => if before == carriageReturn then rest.reverse else front.reverse
      | [] => []
    else piece
  | [] => []

/-- The lines of a stream. A last line without a line feed is kept as it is. -/
def lines (bytes : List UInt8) : List (List UInt8) :=
  (pieces bytes).map content

end Gatekeeper.Text
