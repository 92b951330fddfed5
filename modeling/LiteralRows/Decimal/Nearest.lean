/-!
# The nearest double

The bits of the double nearest to a decimal `m · 10^p`; of two that are equally near, the one with
an even fraction.  Everything is exact arithmetic on natural numbers: the decimal is a quotient,
which is scaled by a power of two until it has the fifty-three bits of a double, or fewer if it is
too small for that, and then rounded.
-/

namespace LiteralRows.Decimal

/-- The quotient rounded to the nearest number, to the even one of two. -/
def roundedQuotient (num den : Nat) : Nat :=
  let whole := num / den
  let twice := 2 * (num % den)
  if twice < den ∨ twice = den ∧ whole % 2 = 0 then whole else whole + 1

/-- The quotient divided by `2^k`, as a numerator and a denominator. -/
def shifted (num den : Nat) (k : Int) : Nat × Nat :=
  (num * Nat.pow 2 (-k).toNat, den * Nat.pow 2 k.toNat)

/-- The power of two by which a quotient is divided to have fifty-three bits before its point. -/
def binaryExponent (num den : Nat) : Int :=
  let k : Int := (num.log2 : Int) - den.log2 - 52
  let (n, d) := shifted num den k
  if n / d < Nat.pow 2 52 then k - 1 else k

/-- The least power of two of which a double is a multiple. -/
def leastExponent : Int := -1074

/-- The bits of the positive infinite double. -/
def infinityBits : UInt64 := 0x7FF0000000000000

/-- The bits of the double nearest to a quotient. -/
def bitsOfQuotient (num den : Nat) : UInt64 :=
  if num = 0 then 0
  else
    let k := max leastExponent (binaryExponent num den)
    let (n, d) := shifted num den k
    let steps := (k - leastExponent).toNat
    -- Rounding up to the next power of two carries into the exponent by itself.
    let bits := steps * Nat.pow 2 52 + roundedQuotient n d
    if infinityBits.toNat ≤ bits then infinityBits else UInt64.ofNat bits

/-- The bits of the double nearest to `m · 10^p`. -/
def nearestBits (m : Nat) (p : Int) : UInt64 :=
  bitsOfQuotient (m * Nat.pow 10 p.toNat) (Nat.pow 10 (-p).toNat)

end LiteralRows.Decimal
