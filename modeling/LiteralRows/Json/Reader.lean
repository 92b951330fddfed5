import LiteralRows.Json
import LiteralRows.Text.Digits
import LiteralRows.Text.Reading

/-!
# Reading JSON

`Json.parse?` reads a text that is one JSON value between white space.  A string is read in two
steps: first its escapes, which may name halves of surrogate pairs, then the pairs.  A string
with an unpaired half is read as `Json.unpaired`, and so is an object with such a key.
-/

namespace LiteralRows.Json

open Text (Rest Taken)

/-- The four characters that may stand between the parts of a JSON text. -/
def isSpace (c : Char) : Bool :=
  c == ' ' || c == '\n' || c == '\r' || c == '\t'

/-- The text after leading white space. -/
def skip (s : List Char) : List Char :=
  s.dropWhile isSpace

/-! ## Strings -/

/-- A part of a string: a character, or a UTF-16 unit named by an escape. -/
inductive Piece where
  | char (c : Char)
  | unit (n : Nat)
  deriving DecidableEq, Repr

/-- The character that a backslash followed by this one stands for. -/
def escaped? (c : Char) : Option Char :=
  ([('"', '"'), ('\\', '\\'), ('/', '/'), ('b', '\x08'), ('f', '\x0C'), ('n', '\n'),
    ('r', '\r'), ('t', '\t')]).lookup c

/-- The parts of a string up to its closing quote. -/
def pieces : (s : List Char) → Option (Taken (List Piece) s)
  | [] => none
  | '"' :: rest => some (.ofFirst '"' rest [])
  | '\\' :: 'u' :: a :: b :: c :: d :: rest => do
    let n ← Text.number? 16 [a, b, c, d]
    let more ← pieces rest
    some ((more.map (.unit n :: ·)).widen (by simp only [List.length_cons]; omega))
  | '\\' :: e :: rest => do
    let c ← escaped? e
    let more ← pieces rest
    some (((more.map (.char c :: ·)).behind e).behind '\\')
  | c :: rest =>
    if c = '\\' ∨ c.toNat < 0x20 then none
    else do
      let more ← pieces rest
      some ((more.map (.char c :: ·)).behind c)

/-- The text of a string, if every half of a surrogate pair stands beside its other half. -/
def assemble? : List Piece → Option (List Char)
  | [] => some []
  | .char c :: rest => (assemble? rest).map (c :: ·)
  | .unit n :: rest =>
    if n < 0xD800 ∨ 0xDFFF < n then (assemble? rest).map (Char.ofNat n :: ·)
    else match rest with
      | .unit m :: rest =>
        if n < 0xDC00 ∧ 0xDC00 ≤ m ∧ m ≤ 0xDFFF then
          (assemble? rest).map (Char.ofNat (0x10000 + (n - 0xD800) * 0x400 + (m - 0xDC00)) :: ·)
        else none
      | _ => none

/-- The value of a string with these parts. -/
def ofPieces (parts : List Piece) : Json :=
  match assemble? parts with
  | some text => .string (String.ofList text)
  | none => .unpaired

/-- The object with these fields, if every key stands for a text. -/
def ofFields (fields : List (Option (List Char) × Json)) : Json :=
  match fields.mapM fun (key, item) => key.map fun name => (String.ofList name, item) with
  | some fields => .object fields
  | none => .unpaired

/-! ## Numbers and words -/

/-- Reads at least one digit. -/
def digits? (s : List Char) : Option (Taken (List Char) s) :=
  match h : s with
  | [] => none
  | c :: rest =>
    if c.isDigit then
      some ⟨c :: rest.takeWhile Char.isDigit, rest.dropWhile Char.isDigit, by
        have := Text.length_dropWhile_le Char.isDigit rest
        simp only [List.length_cons]; omega⟩
    else none

/-- Reads the digits before the point: a zero on its own, or digits that begin with another. -/
def whole? : (s : List Char) → Option (Taken (List Char) s)
  | '0' :: rest => some (.ofFirst '0' rest ['0'])
  | s => digits? s

/-- Reads a point and the digits after it, if there is a point. -/
def fraction? : (s : List Char) → Option (Option (List Char) × Rest s)
  | '.' :: s => do
    let t ← digits? s
    some (some t.value, t.left.behind '.')
  | s => some (none, .whole s)

/-- Reads an exponent mark, an optional sign and digits, if there is an exponent mark. -/
def exponent? : (s : List Char) → Option (Option (List Char) × Rest s)
  | [] => some (none, .whole [])
  | c :: s =>
    if c = 'e' ∨ c = 'E' then
      match s with
      | '+' :: s => do
        let t ← digits? s
        some (some ('+' :: t.value), (t.left.behind '+').behind c)
      | '-' :: s => do
        let t ← digits? s
        some (some ('-' :: t.value), (t.left.behind '-').behind c)
      | s => do
        let t ← digits? s
        some (some t.value, t.left.behind c)
    else some (none, .whole (c :: s))

/-- Reads a number without its sign. -/
def magnitude? (s : List Char) : Option (Taken Number s) := do
  let w ← whole? s
  let (fraction, afterFraction) ← fraction? w.rest
  let (exponent, rest) ← exponent? afterFraction.val
  some ⟨{ whole := w.value, fraction, exponent }, rest.val, by
    have := w.shorter
    have := afterFraction.property
    have := rest.property
    omega⟩

/-- Reads a number. -/
def readNumber? : (s : List Char) → Option (Taken Number s)
  | '-' :: s =>
    (magnitude? s).map fun t =>
      (t.map fun n => { n with negative := true }).behind '-'
  | s => magnitude? s

/-- Reads one of the three words, or a number. -/
def scalar? (s : List Char) : Option (Taken Json s) :=
  match s with
  | 'n' :: 'u' :: 'l' :: 'l' :: rest => some ⟨.null, rest, by simp only [List.length_cons]; omega⟩
  | 't' :: 'r' :: 'u' :: 'e' :: rest =>
    some ⟨.bool true, rest, by simp only [List.length_cons]; omega⟩
  | 'f' :: 'a' :: 'l' :: 's' :: 'e' :: rest =>
    some ⟨.bool false, rest, by simp only [List.length_cons]; omega⟩
  | s => (readNumber? s).map (·.map .number)

/-! ## Values -/

/-- What follows the first character after white space is shorter than the whole text. -/
theorem length_lt_of_skip {s t : List Char} {c : Char} (h : skip s = c :: t) :
    t.length < s.length :=
  Text.length_lt_of_dropWhile_eq_cons h

mutual

/-- Reads a value, after white space. -/
def value? (s : List Char) : Option (Taken Json s) :=
  match h : skip s with
  | [] => none
  | '"' :: t =>
    (pieces t).map fun parts => (parts.map ofPieces).widen (Nat.le_of_lt (length_lt_of_skip h))
  | '[' :: t =>
    match ht : skip t with
    | ']' :: rest => some ⟨.array [], rest, by
        have := length_lt_of_skip h
        have := length_lt_of_skip ht
        omega⟩
    | _ =>
      (items? t).map fun items => (items.map .array).widen (Nat.le_of_lt (length_lt_of_skip h))
  | '\x7b' :: t =>
    match ht : skip t with
    | '\x7d' :: rest => some ⟨.object [], rest, by
        have := length_lt_of_skip h
        have := length_lt_of_skip ht
        omega⟩
    | _ =>
      (fields? t).map fun fields =>
        (fields.map ofFields).widen (Nat.le_of_lt (length_lt_of_skip h))
  | c :: t =>
    (scalar? (c :: t)).map fun r =>
      r.widen (by have := length_lt_of_skip h; simp only [List.length_cons]; omega)
termination_by 2 * s.length
decreasing_by
  all_goals
    have := length_lt_of_skip h
    omega

/-- Reads the items of a list up to its closing bracket; there is at least one. -/
def items? (s : List Char) : Option (Taken (List Json) s) := do
  let first ← value? s
  match h : skip first.rest with
  | ']' :: rest => some ⟨[first.value], rest, by
      have := length_lt_of_skip h
      have := first.shorter
      omega⟩
  | ',' :: t =>
    let more ← items? t
    some ((more.map (first.value :: ·)).widen (by
      have := length_lt_of_skip h
      have := first.shorter
      omega))
  | _ => none
termination_by 2 * s.length + 1
decreasing_by
  · omega
  · have := length_lt_of_skip h
    have := first.shorter
    omega

/-- Reads the fields of an object up to its closing bracket; there is at least one. -/
def fields? (s : List Char) : Option (Taken (List (Option (List Char) × Json)) s) :=
  match hs : skip s with
  | '"' :: t => do
    let key ← pieces t
    let name := assemble? key.value
    match hk : skip key.rest with
    | ':' :: u =>
      let item ← value? u
      match h : skip item.rest with
      | '\x7d' :: rest => some ⟨[(name, item.value)], rest, by
          have := length_lt_of_skip hs
          have := key.shorter
          have := length_lt_of_skip hk
          have := item.shorter
          have := length_lt_of_skip h
          omega⟩
      | ',' :: w =>
        let more ← fields? w
        some ((more.map ((name, item.value) :: ·)).widen (by
          have := length_lt_of_skip hs
          have := key.shorter
          have := length_lt_of_skip hk
          have := item.shorter
          have := length_lt_of_skip h
          omega))
      | _ => none
    | _ => none
  | _ => none
termination_by 2 * s.length
decreasing_by
  · have := length_lt_of_skip hs
    have := key.shorter
    have := length_lt_of_skip hk
    omega
  · have := length_lt_of_skip hs
    have := key.shorter
    have := length_lt_of_skip hk
    have := item.shorter
    have := length_lt_of_skip h
    omega

end

/-- The value of a text that is one JSON value between white space. -/
def parse? (text : String) : Option Json :=
  match value? text.toList with
  | some t => if (skip t.rest).isEmpty then some t.value else none
  | none => none

end LiteralRows.Json
