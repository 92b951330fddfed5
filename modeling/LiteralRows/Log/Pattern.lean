import LiteralRows.Text.Digits
import LiteralRows.Text.Pieces
import LiteralRows.Token.Numeric

/-!
# Values of fields in filters

A filter may ask for a value of a field.  The value is a number (`isSignedNumber` picks out the ones
that need a word of their own, because they begin with a plus sign) or a pattern, that is, a regular
expression.  No value is ever compared with anything in this program, but a filter with a value that
is neither is malformed, so that `isValue` has to tell the two from the rest.

The expressions have groups, alternatives, repetition and classes of characters.  They know no
properties of characters, hence no classes such as `\w` and no boundaries of words.  Counted
repetition needs a closing brace, which never stands in a value.
-/

namespace LiteralRows.Log.Pattern

/-- The text after its first so many hexadecimal digits, which have to be the number of a
character. -/
def afterNumber? (count : Nat) (s : List Char) : Option (List Char) :=
  match Text.number? 16 (s.take count) with
  | some n => if count ≤ s.length ∧ n.isValidChar then some (s.drop count) else none
  | none => none

/-- The character stands for itself after a backslash. -/
def isEscapable (c : Char) : Bool :=
  c.toNat < 0x80 && !c.isAlphanum && c != '<' && c != '>'

/-- The text after what a backslash escapes. -/
def afterEscape? : List Char → Option (List Char)
  | 'x' :: s => afterNumber? 2 s
  | 'u' :: s => afterNumber? 4 s
  | 'U' :: s => afterNumber? 8 s
  | c :: s => if isEscapable c || "ntrfva".toList.contains c then some s else none
  | [] => none

/-! ## Classes -/

/-- The text after the beginning of a class, where a closing bracket stands for itself. -/
def afterClassOpening (s : List Char) : List Char :=
  let s := match s with
    | '^' :: s => s
    | s => s
  match s with
  | ']' :: s => s
  | s => s.dropWhile (· == '-')

/-- The text after a class, with so many classes open around the present one.  `low` is the
character before a dash, with which a range may begin.  Every step reads at least one character, so
`fuel` that is the length of the text is enough. -/
def afterClass? (fuel depth : Nat) (low : Option Char) (s : List Char) : Option (List Char) :=
  match fuel, s with
  | fuel + 1, ']' :: s => if depth = 0 then some s else afterClass? fuel (depth - 1) none s
  | fuel + 1, '[' :: s => afterClass? fuel (depth + 1) none (afterClassOpening s)
  | fuel + 1, '\\' :: s => do
    let rest ← afterEscape? s
    afterClass? fuel depth (s.head?.filter isEscapable) rest
  | fuel + 1, '-' :: c :: s =>
    match low with
    | none => afterClass? fuel depth (some '-') (c :: s)
    | some a =>
      if "]-\\".toList.contains c then afterClass? fuel depth none (c :: s)
      else if a ≤ c then afterClass? fuel depth none s
      else none
  | fuel + 1, c :: s => afterClass? fuel depth (some c) s
  | _, _ => none

/-! ## Groups -/

/-- The text is a list of flags: each once, and a minus sign before some of them. -/
def isFlags (s : List Char) : Bool :=
  s.all "msUuRx-".toList.contains && s.eraseDups.length == s.length && s.getLast? != some '-'

/-- The text may name a group. -/
def isGroupName : List Char → Bool
  | [] => false
  | c :: s => (c.isAlpha || c == '_') && s.all fun c => c.isAlphanum || "_.[]".toList.contains c

/-- What an opening parenthesis begins. -/
inductive Opening where
  | group (rest : List Char)
  /-- Flags for what follows, with nothing to be closed. -/
  | flags (rest : List Char)
  deriving DecidableEq, Repr

/-- Reads the text after an opening parenthesis and a question mark. -/
def opening? (s : List Char) : Option Opening :=
  match s with
  | 'P' :: '<' :: s | '<' :: s =>
    match s.dropWhile (· != '>') with
    | _ :: rest => if isGroupName (s.takeWhile (· != '>')) then some (.group rest) else none
    | [] => none
  | s =>
    let flags := s.takeWhile fun c => c != ':' && c != ')'
    match s.drop flags.length with
    | ':' :: rest => if isFlags flags then some (.group rest) else none
    | ')' :: rest => if isFlags flags && !flags.isEmpty then some (.flags rest) else none
    | _ => none

/-! ## Patterns -/

/-- The text is the rest of a pattern with so many groups open.  `hasItem` says that something
stands before it which may be repeated.  As for classes, the length of the text is fuel enough. -/
def continues (fuel depth : Nat) (hasItem : Bool) (s : List Char) : Bool :=
  match fuel, s with
  | _, [] => depth == 0
  | 0, _ => false
  | fuel + 1, c :: s =>
    match c with
    | '(' =>
      match s with
      | '?' :: s =>
        match opening? s with
        | some (.group rest) => continues fuel (depth + 1) false rest
        | some (.flags rest) => continues fuel depth false rest
        | none => false
      | s => continues fuel (depth + 1) false s
    | ')' => depth != 0 && continues fuel (depth - 1) true s
    | '|' => continues fuel depth false s
    | '*' | '+' | '?' => hasItem && continues fuel depth true s
    | '\x7b' => false
    | '[' =>
      match afterClass? s.length 0 none (afterClassOpening s) with
      | some rest => continues fuel depth true rest
      | none => false
    | '\\' =>
      match s with
      | 'A' :: s | 'z' :: s => continues fuel depth true s
      | s =>
        match afterEscape? s with
        | some rest => continues fuel depth true rest
        | none => false
    | _ => continues fuel depth true s

/-- The text is a pattern. -/
def isPattern (s : List Char) : Bool :=
  continues s.length 0 false s

/-- The text is a number with a plus sign, or one of the words for what is no finite number. -/
def isSignedNumber : List Char → Bool
  | '+' :: s =>
    let words := ["inf", "infinity", "nan"]
    Token.isNumeric ('+' :: s) || words.contains (Text.lowerAscii (String.ofList s))
  | _ => false

/-- The text is a value of a field. -/
def isValue (s : List Char) : Bool :=
  isSignedNumber s || isPattern s

end LiteralRows.Log.Pattern
