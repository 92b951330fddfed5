import LiteralRows.Log
import LiteralRows.Log.Pattern
import LiteralRows.Text.Alphanumeric
import LiteralRows.Text.Blank
import LiteralRows.Text.Digits

/-!
# Log filters

A filter is a text of directives with commas between them.  A directive may name a part of the
program, the inside of a span and fields of it in brackets, and a verbosity after an equals sign:

    part[span{field=value}]=verbosity

Every record is judged by the most specific directive that covers it (`Filter.admits`).  What a
directive says about spans, or about the values of their fields, concerns no record of this
program, for it opens no span; a directive that names a field and nothing else of a span covers the
records that have this field.

Blanks around a directive do not count when its marks are looked for, but what stands between the
marks is taken from the text with its blanks, at the places where the marks would stand without
them.  So leading blanks shift every part of a directive, by as many bytes as they have; a part
that would then begin or end inside a character cannot be taken at all.
-/

namespace LiteralRows.Log

/-- The records of one part of a program and of all parts below it, or of all parts, are written up
to a verbosity. -/
structure Directive where
  /-- The part of the program; without it, every part. -/
  target : Option String := none
  /-- The field that a record must have, if there is one. -/
  field : Option String := none
  verbosity : Nat
  deriving DecidableEq, Repr, Inhabited

/-- The directives of a filter. -/
abbrev Filter := List Directive

/-! ## Judging records -/

namespace Directive

/-- The directive says something about a record. -/
def covers (d : Directive) (r : Record) : Bool :=
  d.target.all (·.toList.isPrefixOf r.target.toList) && d.field.all r.fieldNames.contains

/-- How much of the name of a part a directive gives. -/
def reach (d : Directive) : Nat :=
  (d.target.map (·.length + 1)).getD 0

/-- The second of two directives is at least as specific as the first: it names a smaller part, or
the same part and more of a record. -/
def yields (a b : Directive) : Bool :=
  a.reach < b.reach || a.reach == b.reach && match a.field, b.field with
    | none, _ => true
    | some _, none => false
    | some x, some y => x ≤ y

/-- The better of two directives, the later one if they are equal. -/
def better (best : Option Directive) (d : Directive) : Option Directive :=
  match best with
  | some b => if b.yields d then some d else some b
  | none => some d

end Directive

namespace Filter

/-- The directive that judges a record. -/
def judge? (f : Filter) (r : Record) : Option Directive :=
  (f.filter (·.covers r)).foldl Directive.better none

/-- The record is written. -/
def admits (f : Filter) (r : Record) : Bool :=
  (f.judge? r).any (r.level.verbosity ≤ ·.verbosity)

/-- The filter of those who ask for none. -/
def standard : Filter :=
  [{ verbosity := Level.info.verbosity }]

end Filter

/-! ## Reading directives -/

/-- Why a text is no filter. -/
inductive Fault where
  | malformed
  /-- A part of a directive would begin or end inside a character. -/
  | brokenCharacter
  deriving DecidableEq, Repr

/-- The verbosities by their names. -/
def verbosities : List (String × Nat) :=
  [("off", 0), ("error", 1), ("warn", 2), ("info", 3), ("debug", 4), ("trace", 5)]

/-- The verbosity of a directive that names none. -/
def fullVerbosity : Nat := 5

/-- The verbosity with a name, letter case apart, or with a number. -/
def verbosity? (name : List Char) : Option Nat :=
  match Text.readBounded (fullVerbosity + 1) name with
  | .ok n => some n
  | .error _ => verbosities.lookup (Text.lowerAscii (String.ofList name))

/-- The character may begin a directive that does not begin with a bracket. -/
def beginsDirective (c : Char) : Bool :=
  Text.isAlphanumeric c || ['-', ':', '_'].contains c

/-- The number of bytes of a text. -/
def width (s : List Char) : Nat :=
  s.foldr (fun c n => c.utf8Size + n) 0

/-- The text after its first so many bytes, unless they end inside a character. -/
def afterBytes : Nat → List Char → Except Fault (List Char)
  | 0, s => .ok s
  | n, c :: s => if c.utf8Size ≤ n then afterBytes (n - c.utf8Size) s else .error .brokenCharacter
  | _, [] => .error .brokenCharacter

/-- The text between two places, which are given in bytes. -/
def slice (text : List Char) (start stop : Nat) : Except Fault (List Char) := do
  let inside ← afterBytes start text
  let after ← afterBytes stop text
  .ok (inside.take (inside.length - after.length))

/-- What is read of a directive up to the equals sign before its verbosity. -/
structure Subject where
  target : Option String := none
  /-- The directive is about the inside of a span. -/
  isSpan : Bool := false
  field : Option String := none
  deriving DecidableEq, Repr

/-- The directive about a subject, unless it concerns spans alone. -/
def Subject.directive? (s : Subject) (verbosity : Nat) : Option Directive :=
  if s.isSpan then none else some { target := s.target, field := s.field, verbosity }

/-- Reads the verbosity after the equals sign that ends at a place. -/
def verbosityFrom (text : List Char) (place : Nat) : Except Fault Nat := do
  let name ← afterBytes place text
  if name.isEmpty then .ok fullVerbosity
  else match verbosity? name with
    | some verbosity => .ok verbosity
    | none => .error .malformed

/-- The subject with a field that may have a value, for which only spans are asked.  What stands
after a second equals sign does not count. -/
def Subject.withField (s : Subject) (field : List Char) : Except Fault Subject :=
  if field.isEmpty then .error .malformed
  else match Text.splitOn '=' field with
    | _ :: value :: _ =>
      if Pattern.isValue value then .ok { s with isSpan := true } else .error .malformed
    | _ => .ok { s with field := some (String.ofList field) }

/-- Reads what stands in brackets, which have been opened at a place.  The result is the subject,
what remains of the directive, and its place. -/
def Subject.readSpan (s : Subject) (text rest : List Char) (place : Nat) :
    Except Fault (Subject × List Char × Nat) := do
  match Text.cutWhere (fun c => c == ']' || c == '\x7b') rest with
  | none => .error .malformed
  | some (name, after) =>
    let stop := place + width name
    let span ← slice text place stop
    if (rest.drop name.length).head? == some ']' then
      .ok ({ s with isSpan := true }, after, stop + 1)
    else match Text.cutAt '\x7d' after with
      | none => .error .malformed
      | some (field, after) =>
        let close := stop + 1 + width field
        let s ← { s with isSpan := !span.isEmpty }.withField (← slice text (stop + 1) close)
        match after with
        | ']' :: after => .ok (s, after, close + 2)
        | _ => .error .malformed

/-- Reads one directive.  There is none if it concerns spans alone. -/
def Directive.parse (text : List Char) : Except Fault (Option Directive) := do
  let marks := Text.trim text
  unless marks.head?.any fun c => c == '[' || beginsDirective c do .error .malformed
  match Text.cutWhere (fun c => c == '=' || c == '[') marks with
  | none =>
    match verbosity? text with
    | some verbosity => .ok (some { verbosity })
    | none => .ok (some { target := some (String.ofList text), verbosity := fullVerbosity })
  | some (head, rest) =>
    let stop := width head
    let target ← if head.isEmpty then pure none
      else (slice text 0 stop).map fun name => some (String.ofList name)
    if (marks.drop head.length).head? == some '=' then
      let verbosity ← verbosityFrom text (stop + 1)
      .ok (some { target, verbosity })
    else
      let (subject, rest, place) ← Subject.readSpan { target } text rest (stop + 1)
      match rest with
      | [] => .ok (subject.directive? fullVerbosity)
      | '=' :: _ => .ok (subject.directive? (← verbosityFrom text (place + 1)))
      | _ => .error .malformed

/-! ## Reading filters -/

/-- Reads a filter. -/
def Filter.parse (text : String) : Except Fault Filter := do
  let pieces := (Text.splitOn ',' text.toList).filter (!·.isEmpty)
  .ok ((← pieces.mapM Directive.parse).filterMap id)

/-- The environment variable that holds a filter. -/
def filterVariable : String := "RUST_LOG"

/-- The filter that an environment asks for: the standard one if it asks for none, or for one that
is malformed; no filter at all if the text breaks a character. -/
def Filter.ofEnvironment : Option String → Option Filter
  | none => some standard
  | some text =>
    match parse text with
    | .ok filter => some filter
    | .error .malformed => some standard
    | .error .brokenCharacter => none

end LiteralRows.Log
