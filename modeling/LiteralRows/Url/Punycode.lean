import LiteralRows.Text.Pieces
import LiteralRows.Text.Reading

/-!
# Punycode

A label of a domain name that holds characters outside ASCII is written with ASCII alone: first
its ASCII characters, then, after a hyphen, where the others are to be inserted.  They come in the
order of their numbers; each insertion is a distance from the one before, written as a number of
variable length whose digits adapt to the distances seen so far.

`encode` writes a label, and `decode?` reads one.
-/

namespace LiteralRows.Url.Punycode

/-- The digit with a value below thirty-six: a letter, then a decimal digit. -/
def digit (n : Nat) : Char :=
  Char.ofNat (if n < 26 then 'a'.toNat + n else '0'.toNat + (n - 26))

/-- The least value that is not the last digit of a number, at a distance from its first digit. -/
def threshold (bias distance : Nat) : Nat :=
  if distance ≤ bias then 1 else if bias + 26 ≤ distance then 26 else distance - bias

theorem threshold_pos (bias distance : Nat) : 1 ≤ threshold bias distance := by
  unfold threshold
  split
  · omega
  · split <;> omega

/-- The digits of a number, where `distance` grows by thirty-six with each digit. -/
def digits (bias distance n : Nat) : List Char :=
  let t := threshold bias distance
  if n < t then [digit n]
  else digit (t + (n - t) % (36 - t)) :: digits bias (distance + 36) ((n - t) / (36 - t))
termination_by n
decreasing_by
  have := threshold_pos bias distance
  have := Nat.div_le_self (n - threshold bias distance) (36 - threshold bias distance)
  omega

/-- How often a distance has to be divided to become small, and what is left of it. -/
def shrink (delta : Nat) : Nat × Nat :=
  if delta ≤ 455 then (0, delta) else
    let (times, rest) := shrink (delta / 35)
    (times + 1, rest)
termination_by delta
decreasing_by exact Nat.div_lt_self (by omega) (by omega)

/-- The bias after a distance, when `points` characters have been placed. -/
def adapt (delta points : Nat) (isFirst : Bool) : Nat :=
  let delta := if isFirst then delta / 700 else delta / 2
  let (times, rest) := shrink (delta + delta / points)
  36 * times + 36 * rest / (rest + 38)

/-- What is known between two insertions. -/
structure State where
  written : List Char := []
  /-- The distance from the last insertion. -/
  delta : Nat := 0
  bias : Nat := 72
  /-- The characters placed so far. -/
  points : Nat

/-- Passes one character of the label while the characters numbered `n` are inserted. -/
def State.pass (basic n : Nat) (st : State) (c : Char) : State :=
  if c.toNat < n then { st with delta := st.delta + 1 }
  else if c.toNat = n then
    { written := st.written ++ digits st.bias 36 st.delta
      delta := 0
      bias := adapt st.delta (st.points + 1) (st.points == basic)
      points := st.points + 1 }
  else st

/-- Inserts the characters with the given numbers, in ascending order, where `n` is the least
number that may still come. -/
def insertions (label : List Char) (basic : Nat) : List Nat → Nat → State → List Char
  | [], _, st => st.written
  | m :: numbers, n, st =>
    let st := { st with delta := st.delta + (m - n) * (st.points + 1) }
    let st := label.foldl (State.pass basic m) st
    insertions label basic numbers (m + 1) { st with delta := st.delta + 1 }

/-- The encoding of a label. -/
def encode (label : List Char) : List Char :=
  let (basic, others) := label.partition (·.toNat < 0x80)
  let numbers := ((others.map Char.toNat).mergeSort (fun a b => a ≤ b)).eraseDups
  basic ++ (if basic.isEmpty then [] else ['-']) ++
    insertions label basic.length numbers 0x80 { points := basic.length }

/-! ## Reading -/

open Text (Taken)

/-- The value of a digit. -/
def value? (c : Char) : Option Nat :=
  if 'a' ≤ c ∧ c ≤ 'z' then some (c.toNat - 'a'.toNat)
  else if '0' ≤ c ∧ c ≤ '9' then some (c.toNat - '0'.toNat + 26)
  else none

/-- Reads a number, where `weight` is what its first digit counts. -/
def number? (bias distance weight : Nat) : (s : List Char) → Option (Taken Nat s)
  | [] => none
  | c :: s =>
    let t := threshold bias distance
    match value? c with
    | none => none
    | some d =>
      if d < t then some ⟨d * weight, s, by simp⟩
      else (number? bias (distance + 36) (weight * (36 - t)) s).map fun more =>
        (more.map (d * weight + ·)).widen (by simp)

/-- The character with a number, if there is one. -/
def charOf? (n : Nat) : Option Char :=
  if n.isValidChar then some (Char.ofNat n) else none

/-- Makes the insertions that are left, where `done` is the label so far, and `n` and `i` are the
number of the last character inserted and the place after it. -/
def inserted? (done : List Char) (n i bias : Nat) (s : List Char) : Option (List Char) :=
  if s.isEmpty then some done
  else match number? bias 36 1 s with
    | none => none
    | some ⟨delta, rest, _⟩ =>
      let points := done.length + 1
      let n := n + (i + delta) / points
      match charOf? n with
      | none => none
      | some c =>
        let place := (i + delta) % points
        inserted? (done.take place ++ c :: done.drop place) n (place + 1)
          (adapt delta points (i == 0)) rest
termination_by s.length

/-- The label with an encoding, if it is one. -/
def decode? (s : List Char) : Option (List Char) :=
  let (basic, rest) := match Text.cutAtLast '-' s with
    | some ([], _) | none => ([], s)
    | some cut => cut
  if basic.all (·.toNat < 0x80) then inserted? basic 0x80 0 72 rest else none

end LiteralRows.Url.Punycode
