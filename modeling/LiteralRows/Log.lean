import LiteralRows.Text.Digits

/-!
# Log records

What a program reports about its own work: a record has a level, the part of the program it comes
from, a message and fields.  Which records are written is decided by a `Filter`.

A message may hold text from outside.  The control characters with which a terminal can be steered
are therefore never written as they are (`shown`); all others are, line feeds among them.
-/

namespace LiteralRows.Log

/-- How grave a record is. -/
inductive Level where
  | error
  | warn
  | info
  deriving DecidableEq, Repr, Inhabited

/-- The name of a level. -/
def Level.name : Level → String
  | .error => "ERROR"
  | .warn => "WARN"
  | .info => "INFO"

/-- The least verbosity at which records of a level are written. -/
def Level.verbosity : Level → Nat
  | .error => 1
  | .warn => 2
  | .info => 3

/-- A record. -/
structure Record where
  level : Level
  /-- The part of the program that it comes from. -/
  target : String
  message : String
  fields : List (String × String) := []
  deriving DecidableEq, Repr, Inhabited

/-- The numbers of the control characters of one byte that a terminal may obey. -/
def steering : List Nat := [0x07, 0x08, 0x0C, 0x1B, 0x7F]

/-- A character of a message as it is written. -/
def shownChar (c : Char) : List Char :=
  let n := c.toNat
  let digits : List Char := [Text.hexDigit (n / 16), Text.hexDigit (n % 16)]
  if steering.contains n then '\\' :: 'x' :: digits
  else if 0x80 ≤ n ∧ n < 0xA0 then '\\' :: 'u' :: '\x7b' :: digits ++ ['\x7d']
  else [c]

/-- A message as it is written. -/
def shown (message : String) : String :=
  String.ofList (message.toList.flatMap shownChar)

namespace Record

/-- The name of the field that holds the message. -/
def messageField : String := "message"

/-- The names of all fields, the message among them. -/
def fieldNames (r : Record) : List String :=
  messageField :: r.fields.map Prod.fst

/-- A record as it is written, without the time. -/
def text (r : Record) : String :=
  r.level.name ++ " " ++ r.target ++ ": " ++ shown r.message ++
    String.join (r.fields.map fun (name, value) => " " ++ name ++ "=" ++ value)

end Record

end LiteralRows.Log
