import LiteralRows.Text.Digits
import LiteralRows.Text.Pieces

/-!
# Tables of characters

A property of characters is given by a table, and a table is written as a text: entries with blanks
between them, each for a run of characters, by their numbers in hexadecimal.

* `41-5A` stands for the characters from 41 to 5A, and `AA` for one character alone;
* `100-12E/2` stands for every second character from 100 to 12E;
* after a colon stand values, with points between them.  A table of classes gives all characters of
  a run the same value (`value?`); a table of images gives its values to the first character of a
  run, and each further one has values that lie as much further on (`image?`).
-/

namespace LiteralRows.Text

/-- An entry of a table. -/
structure Table.Entry where
  first : Nat
  last : Nat
  step : Nat
  values : List Nat
  deriving DecidableEq, Repr, Inhabited

/-- A table of characters. -/
abbrev Table := List Table.Entry

namespace Table

/-- The text before the first `mark`, and the text after it, or nothing if there is none. -/
def halves (mark : Char) (s : List Char) : List Char × List Char :=
  (cutAt mark s).getD (s, [])

/-- Reads an entry. -/
def Entry.ofText (s : List Char) : Entry :=
  let (place, values) := halves ':' s
  let (run, step) := halves '/' place
  let (first, last) := halves '-' run
  { first := numberOf 16 first
    last := numberOf 16 (if last.isEmpty then first else last)
    step := if step.isEmpty then 1 else numberOf 16 step
    values := if values.isEmpty then [] else (splitOn '.' values).map (numberOf 16) }

/-- Reads a table. -/
def ofText (s : String) : Table :=
  let pieces := splitOn ' ' (s.toList.map fun c => if c = '\n' then ' ' else c)
  (pieces.filter (!·.isEmpty)).map Entry.ofText

/-- The entry is for the character numbered `n`. -/
def Entry.holds (e : Entry) (n : Nat) : Bool :=
  e.first ≤ n && n ≤ e.last && (n - e.first) % e.step == 0

/-- The table has an entry for the character. -/
def holds (t : Table) (c : Char) : Bool :=
  t.any (·.holds c.toNat)

/-- The value that the table gives to the character, or zero. -/
def value (t : Table) (c : Char) : Nat :=
  match t.find? (·.holds c.toNat) with
  | some e => e.values.headD 0
  | none => 0

/-- The characters that the table gives for the character, if it has an entry for it. -/
def image? (t : Table) (c : Char) : Option (List Char) :=
  (t.find? (·.holds c.toNat)).map fun e =>
    e.values.map fun n => Char.ofNat (n + (c.toNat - e.first))

/-- The characters of whose entries these are the values. -/
def origins (t : Table) (values : List Nat) : List Char :=
  (t.filter (·.values == values)).map fun e => Char.ofNat e.first

end Table

end LiteralRows.Text
