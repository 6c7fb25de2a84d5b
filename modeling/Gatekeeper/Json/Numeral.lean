import Gatekeeper.Json.Fault
import Gatekeeper.Text.Basic

/-!
# Numerals

How a number is written: a sign, whole digits, a fraction, a power of ten. A plain integer of
64 bits always counts as a number. Any other numeral stands for a floating-point number of 64 bits,
and is refused when it stands for one too large. Which number it is matters to nobody here.

The floating-point number is worked out from at most the digits that fit 64 bits, times a power
of ten; both are rounded before they are multiplied, and the product has to stay below
`2 ^ 1024 - 2 ^ 970`, half a step above the largest finite number.
-/

namespace Gatekeeper.Json

/-- The power of ten that ends a numeral. -/
structure Power where
  negative : Bool
  digits : List Char
deriving DecidableEq

/-- A number as written; `fraction` and `power` are there when their mark is. -/
structure Numeral where
  negative : Bool
  whole : List Char
  fraction : Option (List Char)
  power : Option Power
deriving DecidableEq

namespace Numeral

/-- The whole digits: a single zero, or digits that start with another one. -/
def readWhole : Reader (List Char)
  | [] => .error (.atEnd .endInValue)
  | c :: rest =>
    if c == '0' then
      if (rest.takeWhile Char.isDigit).isEmpty then .ok ([c], rest)
      else .error (.on .numberMalformed rest)
    else if c.isDigit then .ok (c :: rest.takeWhile Char.isDigit, rest.dropWhile Char.isDigit)
    else .error (.on .numberMalformed (c :: rest))

/-- The digits after a point, at least one, if a point comes next. -/
def readFraction : Reader (Option (List Char))
  | '.' :: rest =>
    match rest.takeWhile Char.isDigit, rest with
    | [], [] => .error (.atEnd .endInValue)
    | [], rest => .error (.on .numberMalformed rest)
    | digits, rest => .ok (some digits, rest.dropWhile Char.isDigit)
  | rest => .ok (none, rest)

/-- The sign of a power of ten. -/
def readSign : List Char → Bool × List Char
  | '-' :: rest => (true, rest)
  | '+' :: rest => (false, rest)
  | rest => (false, rest)

/-- The power of ten, with at least one digit, if its mark comes next. -/
def readPower : Reader (Option Power)
  | [] => .ok (none, [])
  | c :: rest =>
    if c == 'e' || c == 'E' then
      let (negative, rest) := readSign rest
      match rest.takeWhile Char.isDigit, rest with
      | [], [] => .error (.atEnd .endInValue)
      | [], rest => .error (.on .numberMalformed rest)
      | digits, rest => .ok (some ⟨negative, digits⟩, rest.dropWhile Char.isDigit)
    else .ok (none, c :: rest)

/-- A numeral without its sign. -/
def readUnsigned (negative : Bool) (text : List Char) : Except Fault (Numeral × List Char) := do
  let (whole, text) ← readWhole text
  let (fraction, text) ← readFraction text
  let (power, text) ← readPower text
  return (⟨negative, whole, fraction, power⟩, text)

/-- The longest numeral at the front of the text, whatever its size. -/
def scan : Reader Numeral
  | '-' :: rest => readUnsigned true rest
  | rest => readUnsigned false rest

/-- Appends digits to a number for as long as it stays within the limit; the digits from the first
one that does not fit are left over. -/
def absorb (limit : Nat) : Nat → List Char → Nat × List Char
  | n, [] => (n, [])
  | n, c :: cs =>
    if n * 10 + Text.digit c ≤ limit then absorb limit (n * 10 + Text.digit c) cs else (n, c :: cs)

/-- The largest number of 64 bits. -/
def maxWord : Nat := 0xFFFFFFFFFFFFFFFF

/-- The digits that count, as a number of 64 bits, and the power of ten that the point and the
digits left out leave it to be multiplied by. -/
def significand (n : Numeral) : Nat × Int :=
  let (front, excess) := absorb maxWord 0 n.whole
  let fraction := n.fraction.getD []
  let (all, skipped) := absorb maxWord front fraction
  (all, (excess.length : Int) - ((fraction.length - skipped.length : Nat) : Int))

/-- The number nearest to `n` among those with 53 binary digits and zeros after them; of two equally
near the one with the even last digit. -/
def nearest53 (n : Nat) : Nat :=
  let step := Nat.pow 2 (n.log2 + 1 - 53)
  let down := n / step
  let rest := n % step
  let up := 2 * rest > step || (2 * rest == step && down % 2 == 1)
  (if up then down + 1 else down) * step

/-- The least product that is rounded to no finite number. -/
def floatBound : Nat := Nat.pow 2 1024 - Nat.pow 2 970

/-- The significand times a power of ten is too large to be a finite number. -/
def tooLarge (significand : Nat) (power : Int) : Bool :=
  if power ≤ 0 || significand == 0 then false
  else if 308 < power then true
  else floatBound ≤ nearest53 significand * nearest53 (Nat.pow 10 power.toNat)

/-- The largest power of ten that is told from larger ones. -/
def maxPower : Nat := 0x7FFFFFFF

/-- How many characters before its end a numeral turns out too large, if it does. A positive power
of ten beyond the largest shows itself at the first digit that is too much. -/
def overflow (n : Numeral) : Option Nat :=
  let (significand, shift) := n.significand
  match n.power with
  | none => if tooLarge significand shift then some 0 else none
  | some power =>
    match absorb maxPower 0 power.digits with
    | (_, _ :: unread) =>
      if power.negative || significand == 0 then none else some unread.length
    | (amount, []) =>
      let amount : Int := if power.negative then -amount else amount
      if tooLarge significand (shift + amount) then some 0 else none

/-- A numeral that stands for a number. -/
def read : Reader Numeral := fun text => do
  let (numeral, rest) ← scan text
  match numeral.overflow with
  | some early => .error ⟨.numberOutOfRange, early + Text.size rest⟩
  | none => return (numeral, rest)

end Numeral

end Gatekeeper.Json
