import Gatekeeper.Proofs.Text.Encoding

/-!
# The lines of a stream

A second way to say what the lines of a stream are: split it at each line feed; every part but the
last loses one carriage return at its end, and the last part, which no line feed ends, is a line
only if it holds something. `lines_eq_splitLines` is that these are the lines of the pieces in which
the stream is read, and `isText_iff_lines` that the stream as a whole is a text exactly if each of
its lines is. Proofs go by `stream_induction`: a stream is either without a line feed, or a line, a
line feed and another stream.

In the other direction, lines that are put together with a line feed after each come apart at these
again. A carriage return at the end of a line is then taken for a part of the line's end
(`lines_framed`); where one is put before each line feed, the lines come apart as they were, also
those that have carriage returns of their own at the end (`lines_framed_returns`).
-/

namespace Gatekeeper.Text

/-- A line that a line feed ends, without the carriage return directly before that. -/
def withoutReturn (part : List UInt8) : List UInt8 :=
  if part.getLast? = some carriageReturn then part.dropLast else part

/-- The lines of a stream, read off its parts between line feeds. -/
def splitLines (bytes : List UInt8) : List (List UInt8) :=
  let parts := bytes.splitOn lineFeed
  parts.dropLast.map withoutReturn ++ parts.getLast?.toList.filter (· ≠ [])

/-- A stream is either without a line feed or a first line, its line feed and another stream. -/
lemma stream_induction {motive : List UInt8 → Prop}
    (last : ∀ part, lineFeed ∉ part → motive part)
    (line : ∀ part rest, lineFeed ∉ part → motive rest → motive (part ++ lineFeed :: rest)) :
    ∀ bytes, motive bytes := by
  intro bytes
  -- The stream behind the first line feed is shorter, so the induction is on the length.
  generalize e : bytes.length = n
  induction n using Nat.strongRecOn generalizing bytes with
  | ind n ih =>
    by_cases h : lineFeed ∈ bytes
    · obtain ⟨part, rest, rfl, first⟩ := List.eq_append_cons_of_mem h
      apply line part rest first
      apply ih rest.length _ rest rfl
      rw [← e, List.length_append, List.length_cons]
      omega
    · exact last bytes h

/-- A stream without a line feed is one piece, or none. -/
lemma pieces_of_not_mem {part : List UInt8} (h : lineFeed ∉ part) :
    pieces part = if part = [] then [] else [part] := by
  induction part with
  | nil => rfl
  | cons b part ih =>
    rw [List.mem_cons, not_or] at h
    obtain ⟨hb, hpart⟩ := h
    have hb' : ¬ (b == lineFeed) = true := fun e => hb (eq_of_beq e).symm
    rw [pieces, if_neg hb', ih hpart, if_neg (List.cons_ne_nil b part)]
    cases part with
    | nil => rfl
    | cons => rfl

/-- The first piece of a stream ends with its first line feed. -/
lemma pieces_append_cons {part rest : List UInt8} (h : lineFeed ∉ part) :
    pieces (part ++ lineFeed :: rest) = (part ++ [lineFeed]) :: pieces rest := by
  induction part with
  | nil => rfl
  | cons b part ih =>
    rw [List.mem_cons, not_or] at h
    obtain ⟨hb, hpart⟩ := h
    have hb' : ¬ (b == lineFeed) = true := fun e => hb (eq_of_beq e).symm
    rw [List.cons_append, pieces, if_neg hb', ih hpart]
    rfl

/-- What a piece with a line feed at its end holds. -/
lemma content_append_lineFeed (part : List UInt8) :
    content (part ++ [lineFeed]) = withoutReturn part := by
  unfold content withoutReturn
  rw [List.reverse_append]
  cases h : part.reverse with
  | nil =>
    rw [List.reverse_eq_nil_iff] at h
    subst h
    rfl
  | cons b front =>
    rw [List.reverse_eq_cons_iff] at h
    subst h
    rw [List.getLast?_concat, List.dropLast_concat]
    by_cases hb : b = carriageReturn
    · subst hb
      rfl
    · have hb' : ¬ (b == carriageReturn) = true := fun e => hb (eq_of_beq e)
      simp [hb, hb']

/-- A piece without a line feed is all content. -/
lemma content_of_not_mem {part : List UInt8} (h : lineFeed ∉ part) : content part = part := by
  unfold content
  cases hr : part.reverse with
  | nil => exact (List.reverse_eq_nil_iff.1 hr).symm
  | cons b front =>
    have hb : b ∈ part := by
      rw [← List.mem_reverse, hr]
      exact List.mem_cons_self ..
    have hb' : ¬ (b == lineFeed) = true := fun e => h (eq_of_beq e ▸ hb)
    exact if_neg hb'

/-- The lines of a stream without a line feed. -/
lemma lines_of_not_mem {part : List UInt8} (h : lineFeed ∉ part) :
    lines part = if part = [] then [] else [part] := by
  rw [lines, pieces_of_not_mem h]
  split
  · rfl
  · exact congrArg (fun line => [line]) (content_of_not_mem h)

/-- The first line of a stream with a line feed, and those after it. -/
lemma lines_append_cons {part rest : List UInt8} (h : lineFeed ∉ part) :
    lines (part ++ lineFeed :: rest) = withoutReturn part :: lines rest := by
  rw [lines, pieces_append_cons h, List.map_cons, content_append_lineFeed]
  rfl

/-- The lines of a stream are those that its parts between line feeds give. -/
lemma lines_eq_splitLines (bytes : List UInt8) : lines bytes = splitLines bytes := by
  induction bytes using stream_induction with
  | last part h =>
    rw [lines_of_not_mem h, splitLines, List.splitOn_eq_singleton h]
    by_cases hp : part = [] <;> simp [hp]
  | line part rest h ih =>
    rw [lines_append_cons h, ih, splitLines, splitLines,
      List.splitOn_append_cons_self_of_not_mem h]
    have hne := List.splitOn_ne_nil lineFeed rest
    rw [List.dropLast_cons_of_ne_nil hne, List.getLast?_cons_of_ne_nil hne]
    rfl

/-- A line is a text with its carriage return exactly if it is one without. -/
lemma isText_withoutReturn {part : List UInt8} : IsText (withoutReturn part) ↔ IsText part := by
  unfold withoutReturn
  split
  · next h =>
    obtain ⟨front, rfl⟩ := List.getLast?_eq_some_iff.1 h
    rw [List.dropLast_concat]
    have ascii : '\r'.toNat < 0x80 := by decide
    have h := isText_append_cons ascii (a := front) (b := [])
    exact ⟨fun hf => h.2 ⟨hf, isText_nil⟩, fun hp => (h.1 hp).1⟩
  · exact Iff.rfl

/-- A stream is a text exactly if each of its lines is: no character but the line feed itself has
its byte in its encoding. -/
lemma isText_iff_lines (bytes : List UInt8) : IsText bytes ↔ ∀ line ∈ lines bytes, IsText line := by
  induction bytes using stream_induction with
  | last part h =>
    rw [lines_of_not_mem h]
    split
    · next hp => simp [hp, isText_nil]
    · simp
  | line part rest h ih =>
    -- The line feed is a character of its own in any text, so a text may be cut there.
    have ascii : '\n'.toNat < 0x80 := by decide
    rw [lines_append_cons h, List.forall_mem_cons, isText_withoutReturn, ← ih]
    exact isText_append_cons ascii

/-- The same of the lines that the parts of the stream give. -/
lemma isText_iff_splitLines (bytes : List UInt8) :
    IsText bytes ↔ ∀ line ∈ splitLines bytes, IsText line := by
  rw [← lines_eq_splitLines]
  exact isText_iff_lines bytes

/-- No line holds a line feed. -/
lemma lineFeed_not_mem_of_mem_lines {bytes line : List UInt8} (h : line ∈ lines bytes) :
    lineFeed ∉ line := by
  induction bytes using stream_induction with
  | last part hpart =>
    rw [lines_of_not_mem hpart] at h
    split at h
    · cases h
    · rw [List.mem_singleton.1 h]
      exact hpart
  | line part rest hpart ih =>
    rw [lines_append_cons hpart] at h
    obtain rfl | h := List.mem_cons.1 h
    · unfold withoutReturn
      split
      · exact fun hmem => hpart (List.dropLast_subset part hmem)
      · exact hpart
    · exact ih h

/-! ## Lines put together -/

/-- The lines in one text, each with that ending. -/
def framed (ending : String) (lines : List String) : String :=
  String.join (lines.map (· ++ ending))

/-- The text without a carriage return at its end, if there is one. -/
def dropReturn (text : String) : String :=
  if text.toList.getLast? = some '\r' then String.ofList text.toList.dropLast else text

/-- The first line comes first, with its ending. -/
lemma framed_cons (ending line : String) (lines : List String) :
    framed ending (line :: lines) = line ++ ending ++ framed ending lines :=
  String.join_cons

/-- Lines with both characters at their ends are lines that go on to a carriage return, with the
line feed alone. -/
lemma framed_returns (lines : List String) :
    framed "\r\n" lines = framed "\n" (lines.map (· ++ "\r")) := by
  rw [framed, framed, List.map_map]
  congr 2
  funext line
  show line ++ ("\r" ++ "\n") = line ++ "\r" ++ "\n"
  exact String.append_assoc.symm

/-- A carriage return at the end of a line is dropped. -/
lemma dropReturn_append (line : String) : dropReturn (line ++ "\r") = line := by
  have hlist : (line ++ "\r").toList = line.toList ++ ['\r'] := String.toList_append
  rw [dropReturn, hlist, List.getLast?_concat, if_pos rfl, List.dropLast_concat,
    String.ofList_toList]

/-- The byte of a carriage return ends an encoding exactly if the character ends the text. -/
lemma getLast?_encode_iff {text : String} :
    (encode text).getLast? = some carriageReturn ↔ text.toList.getLast? = some '\r' := by
  have ascii : '\r'.toNat < 0x80 := by decide
  obtain hnil | ⟨front, c, hlist⟩ := List.eq_nil_or_concat text.toList
  · obtain rfl := String.toList_eq_nil_iff.1 hnil
    exact ⟨nofun, nofun⟩
  · have hne : String.utf8EncodeChar c ≠ [] := String.utf8EncodeChar_ne_nil
    rw [encode_eq_flatMap, hlist, List.concat_eq_append, List.flatMap_append,
      List.flatMap_singleton, List.getLast?_append, List.getLast?_concat,
      List.getLast?_eq_some_getLast hne, Option.some_or, Option.some.injEq, Option.some.injEq]
    constructor
    · intro e
      have hmem := List.getLast_mem hne
      rw [e] at hmem
      exact (asciiByte_mem_iff ascii).1 hmem
    · rintro rfl
      rfl

/-- It can be dropped before or after encoding. -/
lemma withoutReturn_encode (text : String) :
    withoutReturn (encode text) = encode (dropReturn text) := by
  unfold withoutReturn dropReturn
  by_cases h : text.toList.getLast? = some '\r'
  · obtain ⟨front, hlist⟩ := List.getLast?_eq_some_iff.1 h
    have hbytes : String.utf8EncodeChar '\r' = [carriageReturn] := by decide
    rw [if_pos h, if_pos (getLast?_encode_iff.2 h), encode_ofList, encode_eq_flatMap, hlist,
      List.dropLast_concat, List.flatMap_append, List.flatMap_singleton, hbytes,
      List.dropLast_concat]
  · rw [if_neg h, if_neg (mt getLast?_encode_iff.1 h)]

/-- Lines that are put together with a line feed after each come apart again, but for the carriage
returns that then belong to the line's end. -/
lemma lines_framed {ls : List String} (h : ∀ line ∈ ls, '\n' ∉ line.toList) :
    lines (encode (framed "\n" ls)) = (ls.map dropReturn).map encode := by
  have ascii : '\n'.toNat < 0x80 := by decide
  induction ls with
  | nil => rfl
  | cons line ls ih =>
    obtain ⟨hline, hls⟩ := List.forall_mem_cons.1 h
    have hfeed : lineFeed ∉ encode line := mt (asciiByte_mem_encode_iff ascii).1 hline
    have hend : encode "\n" = [lineFeed] := by decide
    rw [framed_cons, encode_append, encode_append, hend, List.append_assoc, List.singleton_append,
      lines_append_cons hfeed, withoutReturn_encode, ih hls]
    rfl

/-- With a carriage return before each line feed, they come apart as they were. -/
lemma lines_framed_returns {ls : List String} (h : ∀ line ∈ ls, '\n' ∉ line.toList) :
    lines (encode (framed "\r\n" ls)) = ls.map encode := by
  have hreturns : ∀ line ∈ ls.map (· ++ "\r"), '\n' ∉ line.toList := by
    intro line hline
    obtain ⟨line, hmem, rfl⟩ := List.mem_map.1 hline
    rw [String.toList_append, List.mem_append, not_or]
    exact ⟨h line hmem, by decide⟩
  rw [framed_returns, lines_framed hreturns, List.map_map, List.map_map]
  apply List.map_congr_left
  intro line _
  exact congrArg encode (dropReturn_append line)

end Gatekeeper.Text
