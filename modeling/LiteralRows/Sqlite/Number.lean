import LiteralRows.Decimal.Nearest
import LiteralRows.Text.Digits

/-!
# Text as a number

What a text counts as where SQLite needs a number: the longest decimal at its front, after blanks,
and zero if there is none.  The digits that no longer fit into a word of sixty-four bits do not
count, except for the places that they take before the point.
-/

namespace LiteralRows.Sqlite.Number

/-- The character is blank to the database. -/
def isSpace (c : Char) : Bool :=
  c == ' ' || (0x09 ≤ c.toNat && c.toNat ≤ 0x0D)

/-- A number that reaches this bound takes no more digits. -/
def significandBound : Nat := (Nat.pow 2 64 - 10) / 10

/-- The number `m · 10^p`. -/
structure Scaled where
  m : Nat := 0
  p : Int := 0
  deriving DecidableEq, Repr

/-- Takes a digit before the point. -/
def Scaled.takeWhole (n : Scaled) (c : Char) : Scaled :=
  if n.m < significandBound then { n with m := n.m * 10 + (c.toNat - '0'.toNat) }
  else { n with p := n.p + 1 }

/-- Takes a digit after the point. -/
def Scaled.takeFraction (n : Scaled) (c : Char) : Scaled :=
  if n.m < significandBound then { m := n.m * 10 + (c.toNat - '0'.toNat), p := n.p - 1 } else n

/-- Whether a minus sign stands at the front, and the text after a sign. -/
def cutSign : List Char → Bool × List Char
  | '-' :: s => (true, s)
  | '+' :: s => (false, s)
  | s => (false, s)

/-- An exponent above this bound is as good as any other. -/
def exponentBound : Nat := 10000

/-- The exponent at the front of a text. -/
def exponentOf : List Char → Int
  | 'e' :: s | 'E' :: s =>
    let (negative, s) := cutSign s
    let n := min (Text.numberOf 10 (s.takeWhile Char.isDigit)) exponentBound
    if negative then -n else n
  | _ => 0

/-- The bits of the double with a sign. -/
def signed (negative : Bool) (bits : UInt64) : UInt64 :=
  if negative then bits ||| 0x8000000000000000 else bits

/-- The bits of the double that a text counts as. -/
def bitsOf (s : List Char) : UInt64 :=
  let (negative, s) := cutSign (s.dropWhile isSpace)
  let n := (s.takeWhile Char.isDigit).foldl Scaled.takeWhole {}
  let s := s.dropWhile Char.isDigit
  let (fraction, s) := match s with
    | '.' :: s => (s.takeWhile Char.isDigit, s.dropWhile Char.isDigit)
    | s => ([], s)
  let n := fraction.foldl Scaled.takeFraction n
  signed negative (if n.m = 0 then 0 else Decimal.nearestBits n.m (n.p + exponentOf s))

/-- The bits of a double without its sign, except that a negative zero keeps it. -/
def magnitude (bits : UInt64) : UInt64 :=
  if bits = 0x8000000000000000 then bits else bits &&& 0x7FFFFFFFFFFFFFFF

end LiteralRows.Sqlite.Number
