import LiteralRows.Toml.Quoted
import LiteralRows.Toml.Scalar
import LiteralRows.Toml.Tables

/-!
# Reading TOML

`Toml.parse?` reads a document: a byte-order mark that does not count, then lines.  A line is a
header, or a key and a value, or nothing, and may end in a comment.

Lists and inline tables hold values, at most `maxDepth` of them one inside the other; a key has at
most as many parts.
-/

namespace LiteralRows.Toml

open Text (Rest Taken)

/-- How deep values may stand in each other. -/
def maxDepth : Nat := 79

/-! ## Between the values -/

/-- The text after spaces and tabs. -/
def skipGap (s : List Char) : List Char :=
  s.dropWhile isGap

/-- The text after spaces, line ends and comments. -/
def skipLines (s : List Char) : List Char :=
  match _h : s.dropWhile fun c => isGap c || c == '\n' with
  | '#' :: t => skipLines (t.dropWhile isTextChar)
  | t => t
termination_by s.length
decreasing_by
  have := Text.length_lt_of_dropWhile_eq_cons _h
  have := Text.length_dropWhile_le isTextChar t
  omega

theorem length_skipGap_le (s : List Char) : (skipGap s).length ≤ s.length :=
  Text.length_dropWhile_le _ s

theorem length_skipLines_le (s : List Char) : (skipLines s).length ≤ s.length := by
  fun_induction skipLines s with
  | case1 s t h ih =>
    have := Text.length_lt_of_dropWhile_eq_cons h
    have := Text.length_dropWhile_le isTextChar t
    omega
  | case2 s t => exact Text.length_dropWhile_le _ s

/-- What follows the first character after a gap is shorter than the whole text. -/
theorem length_lt_of_skipGap {s t : List Char} {c : Char} (h : skipGap s = c :: t) :
    t.length < s.length :=
  Text.length_lt_of_dropWhile_eq_cons h

/-- What follows the first character after lines is shorter than the whole text. -/
theorem length_lt_of_skipLines {s t : List Char} {c : Char} (h : skipLines s = c :: t) :
    t.length < s.length := by
  have := length_skipLines_le s
  rw [h, List.length_cons] at this
  omega

/-- The next line, if nothing but a comment stands before the end of this one. -/
def nextLine? (s : List Char) : Option (Rest s) :=
  let gap := skipGap s
  let after := if gap.head? == some '#' then (gap.tail).dropWhile isTextChar else gap
  match h : after with
  | [] => some ⟨[], Nat.zero_le _⟩
  | '\n' :: rest => some ⟨rest, by
      have hg : gap.length ≤ s.length := length_skipGap_le s
      have hd := Text.length_dropWhile_le isTextChar gap.tail
      have ha : after.length ≤ gap.length := by
        simp only [after]
        split
        · simp only [List.length_tail] at hd; omega
        · exact Nat.le_refl _
      rw [h, List.length_cons] at ha
      omega⟩
  | _ => none

/-! ## Keys -/

/-- Reads a dotted key, and the gaps around its parts. -/
def path? (s : List Char) : Option (Taken (List String) s) := do
  let first ← key? (skipGap s)
  match h : skipGap first.rest with
  | '.' :: t =>
    let more ← path? t
    some ((more.map (first.value :: ·)).widen (by
      have := length_lt_of_skipGap h
      have := first.shorter
      have := length_skipGap_le s
      omega))
  | _ => some ⟨[first.value], skipGap first.rest, by
      have := length_skipGap_le first.rest
      have := first.shorter
      have := length_skipGap_le s
      omega⟩
termination_by s.length
decreasing_by
  have := length_lt_of_skipGap h
  have := first.shorter
  have := length_skipGap_le s
  omega

/-- Reads a dotted key that is not too long. -/
def boundedPath? (s : List Char) : Option (Taken (List String) s) :=
  (path? s).bind fun path => if path.value.length ≤ maxDepth then some path else none

/-! ## Values -/

/-- A reader of one value. -/
abbrev ValueReader := (s : List Char) → Option (Taken Toml s)

/-- Reads a value that is not quoted.  A date may be followed by a space and a time. -/
def word? : ValueReader
  | [] => none
  | c :: s =>
    let run := (c :: s).takeWhile isWordChar
    if !isWordChar c then none
    else
      let rest := s.dropWhile isWordChar
      have shorter : rest.length < (c :: s).length := by
        have := Text.length_dropWhile_le isWordChar s
        simp only [rest, List.length_cons]; omega
      match hr : rest with
      | ' ' :: t =>
        let time := t.takeWhile isWordChar
        if isDate run && !time.isEmpty then
          if isOffsetTime time then
            some ⟨.datetime, t.dropWhile isWordChar, by
              have := Text.length_dropWhile_le isWordChar t
              simp only [List.length_cons] at shorter ⊢; omega⟩
          else none
        else (ofWord? run).map fun value => ⟨value, ' ' :: t, shorter⟩
      | rest => (ofWord? run).map fun value => ⟨value, rest, shorter⟩

/-- Reads a value that holds no others. -/
def simple? : ValueReader
  | '"' :: s => (quoted? ('"' :: s)).map fun t => t.map fun text => .string (String.ofList text)
  | '\'' :: s => (quoted? ('\'' :: s)).map fun t => t.map fun text => .string (String.ofList text)
  | s => word? s

/-- What stands after an item of a list and one more character is shorter than what stood before
the gap in front of the item. -/
theorem length_lt_of_item {s t rest : List Char} {c : Char} (h : skipLines s = t)
    (item : Taken Toml t) (h' : skipLines item.rest = c :: rest) : rest.length < s.length := by
  have := length_lt_of_skipLines h'
  have := item.shorter
  have := length_skipLines_le s
  rw [h] at this
  omega

/-- Reads the items of a list up to its closing bracket. -/
def items? (value? : ValueReader) (s : List Char) : Option (Taken (List Toml) s) :=
  match h : skipLines s with
  | ']' :: rest => some ⟨[], rest, length_lt_of_skipLines h⟩
  | t => do
    let first ← value? t
    match h' : skipLines first.rest with
    | ',' :: u =>
      let more ← items? value? u
      some ((more.map (first.value :: ·)).widen (Nat.le_of_lt (length_lt_of_item h first h')))
    | ']' :: rest => some ⟨[first.value], rest, length_lt_of_item h first h'⟩
    | _ => none
termination_by s.length
decreasing_by exact length_lt_of_item h first h'

/-- Reads a key, the sign between key and value, and the value. -/
def pair? (value? : ValueReader) (s : List Char) : Option (Taken (List String × Toml) s) := do
  let path ← boundedPath? s
  match h : path.rest with
  | '=' :: t =>
    let value ← value? (skipGap t)
    some ⟨(path.value, value.value), value.rest, by
      have := path.shorter
      rw [h, List.length_cons] at this
      have := value.shorter
      have := length_skipGap_le t
      omega⟩
  | _ => none

/-- Reads the pairs of an inline table up to its closing brace; there is at least one. -/
def pairs? (value? : ValueReader) (s : List Char) :
    Option (Taken (List (List String × Toml)) s) := do
  let first ← pair? value? s
  match h : skipGap first.rest with
  | ',' :: t =>
    let more ← pairs? value? t
    some ((more.map (first.value :: ·)).widen (by
      have := length_lt_of_skipGap h
      have := first.shorter
      omega))
  | '\x7d' :: rest => some ⟨[first.value], rest, by
      have := length_lt_of_skipGap h
      have := first.shorter
      omega⟩
  | _ => none
termination_by s.length
decreasing_by
  have := length_lt_of_skipGap h
  have := first.shorter
  omega

/-- Reads an inline table after its opening brace. -/
def inlineTable? (value? : ValueReader) (s : List Char) : Option (Taken Toml s) :=
  match h : skipGap s with
  | '\x7d' :: rest => some ⟨.table [], rest, length_lt_of_skipGap h⟩
  | _ => do
    let pairs ← pairs? value? s
    let table ← ofPairs? pairs.value
    some (pairs.map fun _ => table)

/-- Reads a value in which others may stand to the given depth. -/
def value? : Nat → ValueReader
  | 0, s => simple? s
  | depth + 1, '[' :: s =>
    (items? (value? depth) s).map fun items => (items.map .array).behind '['
  | depth + 1, '\x7b' :: s => (inlineTable? (value? depth) s).map (.behind '\x7b')
  | _ + 1, s => simple? s

/-! ## Documents -/

/-- Reads a header after its first bracket. -/
def header? : (s : List Char) → Option (Taken Line s)
  | '[' :: s => do
    let path ← boundedPath? s
    match h : path.rest with
    | ']' :: ']' :: rest => some ⟨.element path.value, rest, by
        have := path.shorter
        rw [h] at this
        simp only [List.length_cons] at this ⊢; omega⟩
    | _ => none
  | s => do
    let path ← boundedPath? s
    match h : path.rest with
    | ']' :: rest => some ⟨.table path.value, rest, by
        have := path.shorter
        rw [h] at this
        simp only [List.length_cons] at this; omega⟩
    | _ => none

/-- Reads a line that is not empty, without its end. -/
def line? : (s : List Char) → Option (Taken Line s)
  | '[' :: s => (header? s).map (.behind '[')
  | s => (pair? (value? maxDepth) s).map fun t => t.map fun (path, value) => .entry path value

/-- Reads the lines of a document. -/
def lines? (s : List Char) : Option (List Line) :=
  match _h : skipLines s with
  | [] => some []
  | t => do
    let line ← line? t
    let rest ← nextLine? line.rest
    let more ← lines? rest.val
    some (line.value :: more)
termination_by s.length
decreasing_by
  have := length_skipLines_le s
  rw [_h] at this
  have := line.shorter
  have := rest.property
  omega

/-- The text with every line end written as one character. -/
def unixEnds : List Char → List Char
  | '\r' :: '\n' :: s => '\n' :: unixEnds s
  | c :: s => c :: unixEnds s
  | [] => []

/-- The text without a byte-order mark at its front. -/
def withoutMark : List Char → List Char
  | '\uFEFF' :: s => s
  | s => s

/-- The table that a document stands for. -/
def parse? (text : String) : Option Toml :=
  (lines? (unixEnds (withoutMark text.toList))).bind ofLines?

end LiteralRows.Toml
