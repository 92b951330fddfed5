/-!
# Reading from the front

A reader takes a value from the front of a text and hands on what is left.  `Taken α s` is what
it took from `s`; the rest is shorter than `s`, and says so, so that readers which call each
other on the rest end by the length of the text alone.  `Rest s` is what is left after a part
that may be empty.
-/

namespace LiteralRows.Text

/-- What is left of `s`, which may be all of it. -/
abbrev Rest (s : List Char) := { rest : List Char // rest.length ≤ s.length }

namespace Rest

/-- All of a text, when nothing of it is read. -/
def whole (s : List Char) : Rest s :=
  ⟨s, Nat.le_refl _⟩

/-- What is left of `s` is left of `c :: s` as well. -/
def behind {s : List Char} (c : Char) (r : Rest s) : Rest (c :: s) :=
  ⟨r.val, Nat.le_succ_of_le r.property⟩

end Rest

/-- A value read from the front of `s`, and the text after it. -/
structure Taken (α : Type) (s : List Char) where
  value : α
  rest : List Char
  shorter : rest.length < s.length

namespace Taken

/-- The same reading with another value. -/
def map {α β : Type} {s : List Char} (f : α → β) (t : Taken α s) : Taken β s :=
  { value := f t.value, rest := t.rest, shorter := t.shorter }

/-- A reading from a later part of a text, as a reading from the text. -/
def widen {α : Type} {s u : List Char} (h : u.length ≤ s.length) (t : Taken α u) : Taken α s :=
  { value := t.value, rest := t.rest, shorter := Nat.lt_of_lt_of_le t.shorter h }

/-- A value for which only the first character of a text is read. -/
def ofFirst {α : Type} (c : Char) (rest : List Char) (x : α) : Taken α (c :: rest) :=
  { value := x, rest, shorter := Nat.lt_succ_self _ }

/-- A reading from `s`, as a reading from `c :: s`. -/
def behind {α : Type} {s : List Char} (c : Char) (t : Taken α s) : Taken α (c :: s) :=
  t.widen (Nat.le_succ _)

/-- The text after a reading. -/
def left {α : Type} {s : List Char} (t : Taken α s) : Rest s :=
  ⟨t.rest, Nat.le_of_lt t.shorter⟩

end Taken

/-- Dropping a run of characters never lengthens a text. -/
theorem length_dropWhile_le (p : Char → Bool) (s : List Char) :
    (s.dropWhile p).length ≤ s.length :=
  (List.dropWhile_suffix p).length_le

/-- What follows the first character after a dropped run is shorter than the whole text. -/
theorem length_lt_of_dropWhile_eq_cons {p : Char → Bool} {s t : List Char} {c : Char}
    (h : s.dropWhile p = c :: t) : t.length < s.length := by
  have := length_dropWhile_le p s
  rw [h, List.length_cons] at this
  omega

end LiteralRows.Text
