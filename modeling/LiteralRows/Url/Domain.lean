import LiteralRows.Text.Normal
import LiteralRows.Url.DomainTable
import LiteralRows.Url.LabelTable
import LiteralRows.Url.Punycode

/-!
# International domain names

A domain name as it is sent over the network, in ASCII.  A name is read as follows:

* every character is mapped, so that letter case and compatible forms do not count, and the name is
  brought into its composed normal form (`normal?`);
* it is cut into labels at its points, and each label is read on its own (`Label.ofText?`): one that
  begins with `xn--` is the encoding of another, which has to be in normal form already; one with
  characters outside ASCII is encoded;
* every label that is not plain ASCII has to be well formed, and if any character of the name is
  written from right to left, every label has to run in one direction.
-/

namespace LiteralRows.Url.Domain

open Text (Normal.composed Normal.combiningClass)

/-- The character is an ASCII character. -/
def isAscii (c : Char) : Bool :=
  c.toNat < 0x80

/-! ## Mapping -/

/-- What a character is replaced by, if a name may hold it. -/
def imageOf? (c : Char) : Option (List Char) :=
  if isAscii c then some [c.toLower]
  else if DomainTable.disallowed.holds c then none
  else some ((DomainTable.mapping.image? c).getD [c])

/-- The form in which names are compared. -/
def normal? (s : List Char) : Option (List Char) :=
  if s.all isAscii then some (s.map Char.toLower)
  else (s.mapM imageOf?).map fun images => Normal.composed images.flatten

/-- The ASCII character may not stand in a domain name. -/
def isForbidden (c : Char) : Bool :=
  c.toNat ≤ 0x20 || c.toNat = 0x7F || "%#/:<>?@[\\]^|".toList.contains c

/-! ## Joining -/

/-- The character ends a consonant without its vowel. -/
def isVirama (c : Char) : Bool :=
  Normal.combiningClass c == 9

/-- A character that joins what stands between them would do so: the nearest characters that are
not passed through join towards it. -/
def isJoined (before after : List Char) : Bool :=
  let nearest (s : List Char) : Option Char := (s.dropWhile LabelTable.transparent.holds).head?
  (nearest before).any LabelTable.joiningNext.holds &&
    (nearest after).any LabelTable.joiningPrevious.holds

/-- Every joiner and non-joiner of a label has something to act upon, where `before` is what stands
before the rest, the last one first. -/
def joinersFit (before : List Char) : List Char → Bool
  | [] => true
  | c :: s =>
    (match c with
      | '\u200C' => before.head?.any isVirama || isJoined before s
      | '\u200D' => before.head?.any isVirama
      | _ => true) && joinersFit (c :: before) s

/-- The label does not begin with a mark, and its joiners fit. -/
def isWellFormed (s : List Char) : Bool :=
  !s.head?.any LabelTable.marks.holds && joinersFit [] s

/-! ## Direction -/

/-- Which way a character is written. -/
inductive Direction where
  | left
  | right
  | arabicNumber
  | europeanNumber
  | neutral
  | nonspacing
  deriving DecidableEq, Repr

/-- The direction of a character. -/
def Direction.of (c : Char) : Direction :=
  if LabelTable.rightToLeft.holds c then .right
  else if LabelTable.arabicNumber.holds c then .arabicNumber
  else if LabelTable.europeanNumber.holds c then .europeanNumber
  else if LabelTable.neutral.holds c then .neutral
  else if LabelTable.nonspacing.holds c then .nonspacing
  else .left

/-- The characters of a label run in the direction of its first one, which has to be a letter.  At
its end stands a letter or a digit, marks apart, and its digits are of one kind. -/
def runsOneWay (s : List Char) : Bool :=
  let directions := s.map Direction.of
  let ending := (directions.reverse.dropWhile (· == .nonspacing)).head?
  let all (allowed : List Direction) : Bool := directions.all allowed.contains
  let endsIn (allowed : List Direction) : Bool := ending.all allowed.contains
  match directions with
  | [] => true
  | .left :: _ =>
    all [.left, .europeanNumber, .neutral, .nonspacing] && endsIn [.left, .europeanNumber]
  | .right :: _ =>
    all [.right, .arabicNumber, .europeanNumber, .neutral, .nonspacing] &&
      endsIn [.right, .arabicNumber, .europeanNumber] &&
      !(directions.contains .arabicNumber && directions.contains .europeanNumber)
  | _ => false

/-- Some character is written from right to left. -/
def runsLeftwards (s : List Char) : Bool :=
  !s.all isAscii && (s.map Direction.of).any [.right, .arabicNumber].contains

/-! ## Labels -/

/-- A part of a domain name between points. -/
structure Label where
  /-- The label in ASCII. -/
  written : List Char
  /-- What it stands for. -/
  meaning : List Char
  deriving DecidableEq, Repr

/-- What stands before the encoding of a label. -/
def encodedMark : List Char := "xn--".toList

/-- Nothing in the text would be replaced. -/
def isNormal (s : List Char) : Bool :=
  (s.all fun c => imageOf? c == some [c]) && Normal.composed s == s

/-- The length up to which a label is encoded. -/
def encodedLimit : Nat := 1000

/-- The length up to which the encoding of a label is read. -/
def decodedLimit : Nat := 2000

/-- Reads a label in the form in which names are compared. -/
def Label.ofText? (s : List Char) : Option Label :=
  match Text.after? encodedMark s with
  | some code => do
    let meaning ← Punycode.decode? code
    if meaning.all isAscii || decodedLimit < code.length ||
        !isNormal meaning || !isWellFormed meaning then none
    else some { written := s, meaning }
  | none =>
    if s.all isAscii then some { written := s, meaning := s }
    else if encodedLimit < s.length || !isWellFormed s then none
    else some { written := encodedMark ++ Punycode.encode s, meaning := s }

/-! ## Names -/

/-- A domain name in ASCII, if it is one. -/
def ascii? (s : List Char) : Option (List Char) := do
  let s ← normal? s
  if s.any isForbidden then none
  let labels ← (Text.splitOn '.' s).mapM Label.ofText?
  if labels.any (fun label => runsLeftwards label.meaning) &&
      !labels.all (fun label => runsOneWay label.meaning) then none
  some (['.'].intercalate (labels.map Label.written))

end LiteralRows.Url.Domain
