/-!
# Numeric texts

The lexical test that decides which texts may stand bare in SQL:

    [+-]? (digits ('.' digits*)? | '.' digits) ([eE] [+-]? digits)?

with ASCII digits only.  There is no range check, no surrounding white space, and no word such as
`inf`.  `isNumeric` reads the five parts from left to right, each part taking all the digits it
can get.
-/

namespace LiteralRows.Token

/-- The text without a leading sign. -/
def afterSign : List Char → List Char
  | '+' :: s => s
  | '-' :: s => s
  | s => s

/-- The digits at the front of a text, and what follows them. -/
def cutDigits (s : List Char) : List Char × List Char :=
  (s.takeWhile Char.isDigit, s.dropWhile Char.isDigit)

/-- The text is empty, or an exponent mark, an optional sign and at least one digit. -/
def isExponent : List Char → Bool
  | [] => true
  | c :: s =>
    let digits := afterSign s
    (c == 'e' || c == 'E') && !digits.isEmpty && digits.all Char.isDigit

/-- The digits after a leading point, if there is one, and what follows them. -/
def cutFraction : List Char → List Char × List Char
  | '.' :: s => cutDigits s
  | s => ([], s)

/-- The text has the form of a number. -/
def isNumeric (s : List Char) : Bool :=
  let (whole, s) := cutDigits (afterSign s)
  let (fraction, s) := cutFraction s
  !(whole.isEmpty && fraction.isEmpty) && isExponent s

end LiteralRows.Token
