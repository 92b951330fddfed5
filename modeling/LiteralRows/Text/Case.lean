import LiteralRows.Text.CaseTable

/-!
# Lower case and upper case

* `lower` gives the full lower-case form of a text.  It is not a character map: a dotted capital I
  becomes two characters, and a capital sigma becomes a final one exactly when a cased letter
  stands before it and none after it, case-ignorable characters apart.
* `upperAscii?` gives the full upper-case form of a text when that form is ASCII.  Names that are
  compared without case are ASCII, so a text with any other upper-case form equals none of them.
-/

namespace LiteralRows.Text

open CaseTable

/-- The character numbered `n` lies in one of the ranges. -/
def inRanges (ranges : List (Nat × Nat)) (n : Nat) : Bool :=
  ranges.any fun (first, last) => first ≤ n && n ≤ last

/-- The character has the Unicode property Cased. -/
def isCased (c : Char) : Bool :=
  inRanges cased c.toNat

/-- The character has the Unicode property Case_Ignorable. -/
def isCaseIgnorable (c : Char) : Bool :=
  inRanges ignorable c.toNat

/-- The run holds the character numbered `n`. -/
def CaseTable.Run.holds (run : Run) (n : Nat) : Bool :=
  run.first ≤ n && n ≤ run.last && (n - run.first) % run.step == 0

/-- The lower-case form of a character on its own. -/
def lowerChar (c : Char) : List Char :=
  if c.toNat < 0x80 then [c.toLower]
  else if c = '\u0130' then ['i', '\u0307']
  else match lowering.find? (·.holds c.toNat) with
    | some run => [Char.ofNat (c.toNat + run.shift).toNat]
    | none => [c]

/-- Case-ignorable characters apart, the text begins with a cased one. -/
def reachesCased (s : List Char) : Bool :=
  match s.dropWhile isCaseIgnorable with
  | [] => false
  | c :: _ => isCased c

/-- The lower-case form of `s`, where `before` holds the characters to its left, nearest first. -/
def lowerFrom (before : List Char) : List Char → List Char
  | [] => []
  | c :: cs =>
    let form :=
      if c = 'Σ' then [if reachesCased before && !reachesCased cs then 'ς' else 'σ']
      else lowerChar c
    form ++ lowerFrom (c :: before) cs

/-- The full lower-case form of a text. -/
def lower (s : String) : String :=
  String.ofList (lowerFrom [] s.toList)

/-- The characters outside ASCII whose upper-case form is ASCII. -/
def asciiUppercased : List (Char × String) := [
  ('ß', "SS"), ('ı', "I"), ('ſ', "S"), ('ﬀ', "FF"), ('ﬁ', "FI"), ('ﬂ', "FL"), ('ﬃ', "FFI"),
  ('ﬄ', "FFL"), ('ﬅ', "ST"), ('ﬆ', "ST")]

/-- The upper-case form of a character, if it is ASCII. -/
def upperAsciiChar? (c : Char) : Option (List Char) :=
  if c.toNat < 0x80 then some [c.toUpper]
  else (asciiUppercased.lookup c).map String.toList

/-- The upper-case form of a text, if it is ASCII. -/
def upperAscii? (s : String) : Option String :=
  (s.toList.mapM upperAsciiChar?).map fun forms => String.ofList forms.flatten

end LiteralRows.Text
