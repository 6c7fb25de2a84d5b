import Gatekeeper.Text.Quoted

/-!
# Cutting texts by bytes

A place in a text is counted in bytes, so it may lie inside a character, and a text cannot be cut
there. What keeps a text from being cut out of another one is said in full: at which of its two
edges, at which place, and which character the place is inside of.

* `cutAt` cuts a text in two at a place, and `slice` cuts out what stands between two places.
* `Miscut.message` says what is in the way of that.
-/

namespace Gatekeeper.Text

/-- The number of bytes a text takes. -/
def size : List Char → Nat
  | [] => 0
  | c :: cs => c.utf8Size + size cs

/-- What keeps a text from being cut at a place: its size, if the place lies beyond the end, or the
character that the place is inside of, and where that one starts. -/
inductive Obstacle where
  | beyond (size : Nat)
  | inside (c : Char) (start : Nat)
deriving DecidableEq

/-- The obstacle as seen from so many bytes before. -/
def Obstacle.shift (bytes : Nat) : Obstacle → Obstacle
  | beyond size => beyond (bytes + size)
  | inside c start => inside c (bytes + start)

/-- The text cut in two after so many bytes, unless that falls inside a character or beyond the
end. -/
def cutAt : Nat → List Char → Except Obstacle (List Char × List Char)
  | 0, cs => .ok ([], cs)
  | _ + 1, [] => .error (.beyond 0)
  | n + 1, c :: cs =>
    if c.utf8Size ≤ n + 1 then
      match cutAt (n + 1 - c.utf8Size) cs with
      | .ok (front, rest) => .ok (c :: front, rest)
      | .error obstacle => .error (obstacle.shift c.utf8Size)
    else .error (.inside c 0)

/-- One of the two edges of what is cut out of a text. -/
inductive Edge where
  | start
  | stop
deriving DecidableEq

/-- The word for an edge. -/
def Edge.word : Edge → String
  | start => "start"
  | stop => "end"

/-- A cut that cannot be made: which edge it is for, at which place, and what is in the way. -/
structure Miscut where
  edge : Edge
  place : Nat
  obstacle : Obstacle
deriving DecidableEq

/-- The words for a cut that cannot be made. -/
def Miscut.message (miscut : Miscut) : String :=
  miscut.edge.word ++ " byte index " ++ toString miscut.place ++
    match miscut.obstacle with
    | .beyond size => " is out of bounds for string of length " ++ toString size
    | .inside c start =>
      " is not a char boundary; it is inside " ++ quoteChar c ++ " (bytes " ++ toString start ++
        ".." ++ toString (start + c.utf8Size) ++ " of string)"

/-- What stands in a text between two places. -/
def slice (text : List Char) (start stop : Nat) : Except Miscut (List Char) :=
  match cutAt start text with
  | .error obstacle => .error ⟨.start, start, obstacle⟩
  | .ok (_, rest) =>
    match cutAt (stop - start) rest with
    | .error obstacle => .error ⟨.stop, stop, obstacle.shift start⟩
    | .ok (middle, _) => .ok middle

end Gatekeeper.Text
