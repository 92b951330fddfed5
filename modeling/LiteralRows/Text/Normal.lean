import LiteralRows.Text.NormalTable

/-!
# The composed normal form

Two texts that a reader cannot tell apart, because one holds letters with their marks and the other
letters and marks, have the same composed normal form.  It is found in three steps:

* `decompose` takes every character apart;
* `arrange` puts the marks that follow a letter in the order of their combining classes, marks of
  one class staying in their order;
* `composeFrom` puts characters together again.  A mark joins the last letter if no other mark of
  its class stands between them, and if there is a character for the two.

Syllables of Hangul are taken apart and put together by their numbers.
-/

namespace LiteralRows.Text.Normal

open NormalTable (combining composites others)

/-- The characters below this number are no marks, and join no character before them. -/
def leastMark : Nat := 0x300

/-- The combining class of a character; zero for letters. -/
def combiningClass (c : Char) : Nat :=
  if c.toNat < leastMark then 0 else combining.value c

/-! ## Hangul -/

/-- The number of syllables that begin with the same consonant. -/
def syllablesPerLead : Nat := 588

/-- The number of syllables that differ in their last consonant, or have none. -/
def syllablesPerVowel : Nat := 28

/-- The consonants and the vowel of a syllable. -/
def jamo? (c : Char) : Option (List Char) :=
  if 0xAC00 ≤ c.toNat ∧ c.toNat ≤ 0xD7A3 then
    let n := c.toNat - 0xAC00
    let lead := Char.ofNat (0x1100 + n / syllablesPerLead)
    let vowel := Char.ofNat (0x1161 + n % syllablesPerLead / syllablesPerVowel)
    let trail := n % syllablesPerVowel
    some (if trail = 0 then [lead, vowel] else [lead, vowel, Char.ofNat (0x11A7 + trail)])
  else none

/-- The syllable of a consonant and a vowel, or of a syllable that ends in its vowel and a last
consonant. -/
def syllable? (a b : Char) : Option Char :=
  let m := a.toNat
  let n := b.toNat
  if 0x1100 ≤ m ∧ m ≤ 0x1112 ∧ 0x1161 ≤ n ∧ n ≤ 0x1175 then
    some (Char.ofNat
      (0xAC00 + (m - 0x1100) * syllablesPerLead + (n - 0x1161) * syllablesPerVowel))
  else if 0xAC00 ≤ m ∧ m ≤ 0xD7A3 ∧ (m - 0xAC00) % syllablesPerVowel = 0 ∧
      0x11A8 ≤ n ∧ n ≤ 0x11C2 then
    some (Char.ofNat (m + (n - 0x11A7)))
  else none

/-! ## Taking apart -/

/-- The characters that a character is made of. -/
def decomposeChar (c : Char) : List Char :=
  if c.toNat < 0x80 then [c]
  else (((jamo? c).or (composites.image? c)).or (others.image? c)).getD [c]

/-- The text with every character taken apart. -/
def decompose (s : List Char) : List Char :=
  s.flatMap decomposeChar

/-- Puts one more character after a text, the last one first: a mark goes before the marks of
higher classes. -/
def place (c : Char) : List Char → List Char
  | [] => [c]
  | d :: s =>
    if combiningClass c ≠ 0 ∧ combiningClass c < combiningClass d then d :: place c s
    else c :: d :: s

/-- The text with the marks after each letter in the order of their classes. -/
def arrange (s : List Char) : List Char :=
  (s.foldl (fun done c => place c done) []).reverse

/-! ## Putting together -/

/-- The character that stands for two. -/
def composite? (a b : Char) : Option Char :=
  if b.toNat < leastMark then none
  else (syllable? a b).or
    (composites.origins ((decomposeChar a ++ [b]).map Char.toNat)).head?

/-- The text from `start` on put together, where `marks` stand between `start` and the rest, the
last one first. -/
def composeFrom (start : Char) (marks : List Char) : List Char → List Char
  | [] => start :: marks.reverse
  | c :: s =>
    let isBlocked := marks.head?.any fun m => combiningClass c ≤ combiningClass m
    match if isBlocked then none else composite? start c with
    | some d => composeFrom d marks s
    | none =>
      if combiningClass c = 0 then start :: marks.reverse ++ composeFrom c [] s
      else composeFrom start (c :: marks) s

/-- The text with letters and marks put together. -/
def compose : List Char → List Char
  | [] => []
  | c :: s => composeFrom c [] s

/-- The composed normal form of a text. -/
def composed (s : List Char) : List Char :=
  compose (arrange (decompose s))

end LiteralRows.Text.Normal
