import LiteralRows.Json
import LiteralRows.Text.Digits

/-!
# Writing JSON

Two layouts of the same text: `compact` without any white space, and `pretty` with one item to a
line, indented by two spaces a level.  In strings only the quote, the backslash and the control
characters below U+0020 are escaped.
-/

namespace LiteralRows.Json

/-- The escape of a character inside a string, or the character itself. -/
def escapeChar (c : Char) : List Char :=
  if c = '"' then ['\\', '"']
  else if c = '\\' then ['\\', '\\']
  else if c = '\x08' then ['\\', 'b']
  else if c = '\x0C' then ['\\', 'f']
  else if c = '\n' then ['\\', 'n']
  else if c = '\r' then ['\\', 'r']
  else if c = '\t' then ['\\', 't']
  else if c.toNat < 0x20 then
    ['\\', 'u', '0', '0', Text.hexDigit (c.toNat / 16), Text.hexDigit (c.toNat % 16)]
  else [c]

/-- A string between quotes. -/
def renderString (s : String) : List Char :=
  '"' :: (s.toList.flatMap escapeChar ++ ['"'])

/-- A number, as it was written. -/
def Number.render (n : Number) : List Char :=
  (if n.negative then ['-'] else []) ++ n.whole ++
    (match n.fraction with | some digits => '.' :: digits | none => []) ++
    (match n.exponent with | some text => 'e' :: text | none => [])

/-- A break of the line, followed by `depth` levels of indentation. -/
def lineBreak (depth : Nat) : List Char :=
  '\n' :: List.replicate (2 * depth) ' '

mutual

/-- The text of a value.  With `depth` given, each item of a list or an object stands on a line
of its own. -/
def render (depth : Option Nat) : Json → List Char
  | .null => "null".toList
  | .bool true => "true".toList
  | .bool false => "false".toList
  | .number n => n.render
  | .string s => renderString s
  | .unpaired => renderString "\uFFFD"
  | .array [] => ['[', ']']
  | .array (item :: items) =>
    '[' :: (renderItems (depth.map (· + 1)) (item :: items) ++ (closing depth ++ [']']))
  | .object [] => ['\x7b', '\x7d']
  | .object (field :: fields) =>
    '\x7b' :: (renderFields (depth.map (· + 1)) (field :: fields) ++ (closing depth ++ ['\x7d']))

/-- Items of a list, each after its break, with commas between them. -/
def renderItems (depth : Option Nat) : List Json → List Char
  | [] => []
  | [item] => closing depth ++ render depth item
  | item :: items => closing depth ++ render depth item ++ ',' :: renderItems depth items

/-- Fields of an object, each after its break, with commas between them. -/
def renderFields (depth : Option Nat) : List (String × Json) → List Char
  | [] => []
  | [(key, item)] => closing depth ++ renderString key ++ colon depth ++ render depth item
  | (key, item) :: fields =>
    closing depth ++ renderString key ++ colon depth ++ render depth item ++
      ',' :: renderFields depth fields

/-- The break before an item or a closing bracket, where lines are broken. -/
def closing : Option Nat → List Char
  | some depth => lineBreak depth
  | none => []

/-- The mark between a key and its value. -/
def colon : Option Nat → List Char
  | some _ => [':', ' ']
  | none => [':']

end

/-- The text of a value without white space. -/
def compact (j : Json) : String :=
  String.ofList (j.render none)

/-- The text of a value with one item to a line. -/
def pretty (j : Json) : String :=
  String.ofList (j.render (some 0))

end LiteralRows.Json
