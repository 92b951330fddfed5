/-!
# Shortest decimals

The fewest decimal digits that read back as a given binary floating-point number, and of those the
nearest to it.

A finite double is `m · 2^e`.  The numbers that are read as it form an interval around it, which
reaches half way to each neighbour and holds its ends exactly when `m` is even.  For one digit,
two digits and so on up to seventeen, the two decimals next to the number with so many digits are
tried; the first number of digits for which one of them lies in the interval wins, and of two the
nearer.  Everything is exact arithmetic on natural numbers.
-/

namespace LiteralRows.Decimal

/-- A double taken apart. -/
inductive Double where
  | nan
  | infinite (negative : Bool)
  /-- The number `m · 2^e`, where `narrow` says that the neighbour towards zero is only half as far
  away as the other one. -/
  | finite (negative : Bool) (m : Nat) (e : Int) (narrow : Bool)
  deriving DecidableEq, Repr

/-- The double with these bits. -/
def Double.ofBits (bits : UInt64) : Double :=
  let n := bits.toNat
  let negative := Nat.pow 2 63 ≤ n
  let exponent : Nat := n / Nat.pow 2 52 % Nat.pow 2 11
  let fraction : Nat := n % Nat.pow 2 52
  if exponent = 2047 then (if fraction = 0 then .infinite negative else .nan)
  else if exponent = 0 then .finite negative fraction (-1074) false
  else
    .finite negative (Nat.pow 2 52 + fraction) ((exponent : Int) - 1075)
      (fraction = 0 && 1 < exponent)

/-- A positive decimal: the digits with a point after the first, times a power of ten. -/
structure Scientific where
  digits : List Char
  exponent : Int
  deriving DecidableEq, Repr

/-- The decimal `n · 10^p`, without zeros at its end. -/
def Scientific.ofScaled (n : Nat) (p : Int) : Scientific :=
  let all := Nat.toDigits 10 n
  let digits := (all.reverse.dropWhile (· == '0')).reverse
  { digits, exponent := p + all.length - 1 }

/-- The exponent of the first digit of `m · 2^e`, for a positive number in the range of doubles. -/
def leadingExponent (m : Nat) (e : Int) : Int :=
  let scaled := m * Nat.pow 2 e.toNat * Nat.pow 10 400 / Nat.pow 2 (-e).toNat
  (Nat.toDigits 10 scaled).length - 401

/-- The decimal on the grid of multiples of `10^p` that is read as `m · 2^e`, if there is one; the
nearer one, if there are two. -/
def onGrid? (m : Nat) (e : Int) (narrow : Bool) (p : Int) : Option Nat :=
  let scale := Nat.pow 2 e.toNat * Nat.pow 10 (-p).toNat
  let step := 4 * (Nat.pow 10 p.toNat * Nat.pow 2 (-e).toNat)
  let value := 4 * m * scale
  let low := (4 * m - (if narrow then 1 else 2)) * scale
  let high := (4 * m + 2) * scale
  let below := value / step
  let above := below + 1
  let inside (n : Nat) : Bool :=
    if m % 2 = 0 then low ≤ n * step && n * step ≤ high else low < n * step && n * step < high
  match 0 < below && inside below, inside above with
  | true, true => if value - below * step < above * step - value then some below else some above
  | true, false => some below
  | false, true => some above
  | false, false => none

/-- The first hit on the grids with `digits`, `digits + 1`, … digits. -/
def search (m : Nat) (e : Int) (narrow : Bool) (leading : Int) : (more digits : Nat) → Scientific
  | 0, digits =>
    let p := leading + 1 - digits
    Scientific.ofScaled ((onGrid? m e narrow p).getD 0) p
  | more + 1, digits =>
    let p := leading + 1 - digits
    match onGrid? m e narrow p with
    | some n => Scientific.ofScaled n p
    | none => search m e narrow leading more (digits + 1)

/-- The shortest decimal of the positive number `m · 2^e`. -/
def shortest (m : Nat) (e : Int) (narrow : Bool) : Scientific :=
  search m e narrow (leadingExponent m e) 16 1

/-- Digits around a point that stands after the digit with exponent zero; there is at least one
digit on each side. -/
def Scientific.positional (s : Scientific) : List Char :=
  if s.exponent < 0 then
    '0' :: '.' :: (List.replicate (-s.exponent - 1).toNat '0' ++ s.digits)
  else
    let before := s.exponent.toNat + 1
    let padded := s.digits ++ List.replicate (before - s.digits.length) '0'
    let after := padded.drop before
    padded.take before ++ '.' :: (if after.isEmpty then ['0'] else after)

/-- One digit, a point and the other digits if there are any, and the power of ten. -/
def Scientific.withExponent (s : Scientific) : List Char :=
  let mantissa := match s.digits with
    | [] => ['0']
    | [d] => [d]
    | d :: more => d :: '.' :: more
  mantissa ++ 'e' :: (toString s.exponent).toList

/-- The text of a double: positional from `10^-4` up to below `10^16` and for zero, with a power of
ten elsewhere.  A positional text has a fraction. -/
def Double.text : Double → List Char
  | .nan => "NaN".toList
  | .infinite negative => (if negative then ['-'] else []) ++ "inf".toList
  | .finite negative m e narrow =>
    (if negative then ['-'] else []) ++
      if m = 0 then "0.0".toList
      else
        let s := shortest m e narrow
        if -4 ≤ s.exponent ∧ s.exponent < 16 then s.positional else s.withExponent

end LiteralRows.Decimal
