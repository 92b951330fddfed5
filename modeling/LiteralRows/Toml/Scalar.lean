import LiteralRows.Text.Digits
import LiteralRows.Text.Pieces
import LiteralRows.Toml

/-!
# Words and numbers in TOML

A value that is not quoted is a run of letters, digits and a few signs.  `ofWord?` says which value
a run stands for, if it stands for one:

* the words `true` and `false`;
* an integer in decimal, or after `0x`, `0o` or `0b` to another base, within sixty-four bits;
* a float, which must not be too large for a double;
* a date, a time, or a date and a time with an offset.

Underscores may stand between two digits of a number.
-/

namespace LiteralRows.Toml

/-- The character may stand in a value that is not quoted. -/
def isWordChar (c : Char) : Bool :=
  c.isAlphanum || c == '+' || c == '-' || c == '_' || c == '.' || c == ':'

/-! ## Numbers -/

/-- The digits of a run in which underscores stand between digits. -/
def digitsOf? (base : Nat) (run : List Char) : Option (List Char) :=
  let groups := Text.splitOn '_' run
  if groups.all fun g => !g.isEmpty && g.all (Text.isDigitOf base) then some groups.flatten
  else none

/-- The digits of a decimal number without a leading zero. -/
def decimal? (run : List Char) : Option (List Char) :=
  (digitsOf? 10 run).bind fun digits =>
    if 1 < digits.length && digits.head? == some '0' then none else some digits

/-- A sign, as the factor it stands for, and the text after it. -/
def cutSign : List Char → Int × List Char
  | '-' :: s => (-1, s)
  | '+' :: s => (1, s)
  | s => (1, s)

/-- The integer fits in sixty-four bits. -/
def fits (n : Int) : Bool :=
  -Int.pow 2 63 ≤ n && n < Int.pow 2 63

/-- The integer that a run stands for, whatever its size. -/
def anyInteger? : List Char → Option Int
  | '0' :: 'x' :: run => (digitsOf? 16 run).map fun digits => Text.numberOf 16 digits
  | '0' :: 'o' :: run => (digitsOf? 8 run).map fun digits => Text.numberOf 8 digits
  | '0' :: 'b' :: run => (digitsOf? 2 run).map fun digits => Text.numberOf 2 digits
  | run =>
    let (sign, run) := cutSign run
    (decimal? run).map fun digits => sign * Text.numberOf 10 digits

/-- The integer that a run stands for. -/
def integer? (run : List Char) : Option Int :=
  (anyInteger? run).bind fun n => if fits n then some n else none

/-- The least magnitude that a double does not hold. -/
def tooLarge : Nat := Nat.pow 2 1024 - Nat.pow 2 970

/-- The number `m · 10 ^ e` is too large for a double. -/
def overflows (m : Nat) (e : Int) : Bool :=
  let size := (Nat.toDigits 10 m).length + e
  if m = 0 ∨ size < 300 then false
  else if 320 < size then true
  else match e with
    | .ofNat n => tooLarge ≤ m * Nat.pow 10 n
    | .negSucc n => tooLarge * Nat.pow 10 (n + 1) ≤ m

/-- The exponent that a run after the exponent mark stands for. -/
def exponent? (run : List Char) : Option Int :=
  let (sign, run) := cutSign run
  (digitsOf? 10 run).map fun digits => sign * Text.numberOf 10 digits

/-- The run is a float: an infinity or no number, or decimal digits with a fraction, an exponent
or both. -/
def isFloat (run : List Char) : Bool :=
  let (sign, run) := cutSign run
  if run = "inf".toList ∨ run = "nan".toList then true
  else
    let (mantissa, exponent) := match Text.cutWhere (fun c => c == 'e' || c == 'E') run with
      | some (mantissa, exponent) => (mantissa, exponent? exponent)
      | none => (run, if run.contains '.' then some 0 else none)
    let (whole, fraction) := match Text.cutAt '.' mantissa with
      | some (whole, fraction) => (whole, digitsOf? 10 fraction)
      | none => (mantissa, some [])
    match decimal? whole, fraction, exponent with
    | some whole, some fraction, some exponent =>
      let size := exponent - fraction.length
      !(sign = 1 && overflows (Text.numberOf 10 (whole ++ fraction)) size)
    | _, _, _ => false

/-! ## Dates and times -/

/-- The number of days of a month. -/
def daysIn (year month : Nat) : Nat :=
  if month = 2 then
    if year % 4 = 0 ∧ (year % 100 ≠ 0 ∨ year % 400 = 0) then 29 else 28
  else if month = 4 ∨ month = 6 ∨ month = 9 ∨ month = 11 then 30
  else 31

/-- The text after a date at its front. -/
def afterDate? : List Char → Option (List Char)
  | a :: b :: c :: d :: '-' :: e :: f :: '-' :: g :: h :: rest => do
    let year ← Text.number? 10 [a, b, c, d]
    let month ← Text.number? 10 [e, f]
    let day ← Text.number? 10 [g, h]
    if 1 ≤ month ∧ month ≤ 12 ∧ 1 ≤ day ∧ day ≤ daysIn year month then some rest else none
  | _ => none

/-- The text after an hour and a minute at its front. -/
def afterMinute? : List Char → Option (List Char)
  | a :: b :: ':' :: c :: d :: rest => do
    let hour ← Text.number? 10 [a, b]
    let minute ← Text.number? 10 [c, d]
    if hour < 24 ∧ minute < 60 then some rest else none
  | _ => none

/-- The text after a time at its front.  A second may be a leap second. -/
def afterTime? (s : List Char) : Option (List Char) := do
  match ← afterMinute? s with
  | ':' :: a :: b :: rest =>
    let second ← Text.number? 10 [a, b]
    if 60 < second then none
    else match rest with
      | '.' :: c :: fraction => if c.isDigit then some (fraction.dropWhile Char.isDigit) else none
      | rest => some rest
  | _ => none

/-- The run is a time. -/
def isTime (run : List Char) : Bool :=
  afterTime? run == some []

/-- The run is an offset, or nothing. -/
def isOffset : List Char → Bool
  | [] | ['Z'] | ['z'] => true
  | '+' :: run | '-' :: run => afterMinute? run == some []
  | _ => false

/-- The run is a time that may have an offset. -/
def isOffsetTime (run : List Char) : Bool :=
  match afterTime? run with
  | some rest => isOffset rest
  | none => false

/-- The run is a date alone. -/
def isDate (run : List Char) : Bool :=
  afterDate? run == some []

/-- The run is a date, a time or both. -/
def isDatetime (run : List Char) : Bool :=
  isDate run || isTime run ||
    match afterDate? run with
    | some (mark :: time) => (mark == 'T' || mark == 't') && isOffsetTime time
    | _ => false

/-! ## Values -/

/-- The value that a run stands for. -/
def ofWord? (run : List Char) : Option Toml :=
  if run = "true".toList then some (.bool true)
  else if run = "false".toList then some (.bool false)
  else if isDatetime run then some .datetime
  else if isFloat run then some .float
  else (integer? run).map .integer

end LiteralRows.Toml
