/-!
# UTF-8

Reading bytes as characters.  A byte string is cut from the left into whole characters and
maximal ill-formed parts: a part is the longest beginning of some encoded character that the
input offers, or a single byte that can begin none.

* `decodeLossy` writes U+FFFD for each ill-formed part and never fails.
* `firstFault` finds the first ill-formed part, or says that there is none.
* `encode` is the other direction.
-/

namespace LiteralRows.Text.Utf8

/-- The ranges in which the bytes after a leading byte must lie, in order: none for an ASCII
byte, and no list at all for a byte that can lead no character. -/
def continuations (lead : UInt8) : Option (List (UInt8 × UInt8)) :=
  let any := ((0x80 : UInt8), (0xBF : UInt8))
  if lead < 0x80 then some []
  else if lead < 0xC2 then none
  else if lead < 0xE0 then some [any]
  else if lead = 0xE0 then some [(0xA0, 0xBF), any]
  else if lead = 0xED then some [(0x80, 0x9F), any]
  else if lead < 0xF0 then some [any, any]
  else if lead = 0xF0 then some [(0x90, 0xBF), any, any]
  else if lead < 0xF4 then some [any, any, any]
  else if lead = 0xF4 then some [(0x80, 0x8F), any, any]
  else none

/-- How many bytes at the front of the input lie in the ranges, one after the other. -/
def matching : List (UInt8 × UInt8) → List UInt8 → Nat
  | (lo, hi) :: ranges, b :: bs => if lo ≤ b ∧ b ≤ hi then matching ranges bs + 1 else 0
  | _, _ => 0

/-- The payload bits of a leading byte that is followed by `n` bytes. -/
def leadBits (lead : UInt8) : Nat → Nat
  | 0 => lead.toNat
  | 1 => lead.toNat % 0x20
  | 2 => lead.toNat % 0x10
  | _ => lead.toNat % 0x08

/-- The character whose encoding is `lead` and the bytes `tail`. -/
def assemble (lead : UInt8) (tail : List UInt8) : Char :=
  Char.ofNat (tail.foldl (fun n b => n * 0x40 + b.toNat % 0x40) (leadBits lead tail.length))

/-- What stands at the front of a byte string. -/
inductive Front where
  /-- A whole character, with the number of bytes after its first. -/
  | whole (c : Char) (more : Nat)
  /-- An ill-formed part, with the number of bytes after its first. -/
  | broken (more : Nat)
  /-- The input ends inside a character that is well formed so far. -/
  | cut
  deriving DecidableEq, Repr

/-- Reads the front of the byte string `lead :: rest`. -/
def front (lead : UInt8) (rest : List UInt8) : Front :=
  match continuations lead with
  | none => .broken 0
  | some ranges =>
    let n := matching ranges rest
    if n = ranges.length then .whole (assemble lead (rest.take n)) n
    else if n = rest.length then .cut
    else .broken n

/-- The characters of a byte string, with U+FFFD for each ill-formed part. -/
def decodeLossy : List UInt8 → List Char
  | [] => []
  | lead :: rest =>
    match front lead rest with
    | .whole c more => c :: decodeLossy (rest.drop more)
    | .broken more => '\uFFFD' :: decodeLossy (rest.drop more)
    | .cut => ['\uFFFD']
termination_by bytes => bytes.length
decreasing_by all_goals simp only [List.length_drop, List.length_cons]; omega

/-- Where and why a byte string stops being UTF-8. -/
inductive Fault where
  /-- `count` bytes from `index` on are an ill-formed part. -/
  | invalid (count index : Nat)
  /-- The input ends inside the character that begins at `index`. -/
  | incomplete (index : Nat)
  deriving DecidableEq, Repr

/-- The first fault of a byte string of which `index` bytes have been read already. -/
def faultFrom (index : Nat) : List UInt8 → Option Fault
  | [] => none
  | lead :: rest =>
    match front lead rest with
    | .whole _ more => faultFrom (index + 1 + more) (rest.drop more)
    | .broken more => some (.invalid (more + 1) index)
    | .cut => some (.incomplete index)
termination_by bytes => bytes.length
decreasing_by simp only [List.length_drop, List.length_cons]; omega

/-- The first fault of a byte string. -/
def firstFault (bytes : List UInt8) : Option Fault :=
  faultFrom 0 bytes

/-- The sentence that reports a fault. -/
def Fault.message : Fault → String
  | .invalid count index =>
    "invalid utf-8 sequence of " ++ toString count ++ " bytes from index " ++ toString index
  | .incomplete index => "incomplete utf-8 byte sequence from index " ++ toString index

/-- The characters of a well-formed byte string. -/
def decode? (bytes : List UInt8) : Option (List Char) :=
  match firstFault bytes with
  | none => some (decodeLossy bytes)
  | some _ => none

/-- The encoding of one character. -/
def encodeChar (c : Char) : List UInt8 :=
  let n := c.toNat
  let tail (k : Nat) : UInt8 := UInt8.ofNat (0x80 + n / Nat.pow 0x40 k % 0x40)
  if n < 0x80 then [UInt8.ofNat n]
  else if n < 0x800 then [UInt8.ofNat (0xC0 + n / 0x40), tail 0]
  else if n < 0x10000 then [UInt8.ofNat (0xE0 + n / 0x1000), tail 1, tail 0]
  else [UInt8.ofNat (0xF0 + n / 0x40000), tail 2, tail 1, tail 0]

/-- The encoding of a text. -/
def encode (s : List Char) : List UInt8 :=
  s.flatMap encodeChar

@[simp] theorem decodeLossy_nil : decodeLossy [] = [] := by
  simp [decodeLossy]

@[simp] theorem encode_nil : encode [] = [] := rfl

theorem encode_cons (c : Char) (s : List Char) : encode (c :: s) = encodeChar c ++ encode s := rfl

end LiteralRows.Text.Utf8
