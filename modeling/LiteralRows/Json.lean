/-!
# JSON values

A JSON text as data.  Numbers keep the digits with which they were written, because a reader of a
record tells `1` from `1.0`; objects keep their fields in order, repeated ones included, because
a reader of a record refuses a repeated field.
-/

namespace LiteralRows

/-- A number as it is written. -/
structure Json.Number where
  negative : Bool := false
  /-- The digits before the point. -/
  whole : List Char
  /-- The digits after the point, if there is one. -/
  fraction : Option (List Char) := none
  /-- The text after the exponent mark, if there is one. -/
  exponent : Option (List Char) := none
  deriving DecidableEq, Repr, Inhabited

/-- A JSON value. -/
inductive Json where
  | null
  | bool (b : Bool)
  | number (n : Json.Number)
  | string (s : String)
  /-- A string with an escape for one half of a surrogate pair and no other half beside it, or an
  object with such a key.  It is well formed, but stands for no value. -/
  | unpaired
  | array (items : List Json)
  | object (fields : List (String × Json))
  deriving Repr, Inhabited

namespace Json

/-- A natural number. -/
def ofNat (n : Nat) : Json :=
  .number { whole := Nat.toDigits 10 n }

/-- The text, or null. -/
def ofString? : Option String → Json
  | some s => .string s
  | none => .null

/-- A list of texts. -/
def ofStrings (texts : List String) : Json :=
  .array (texts.map .string)

end Json

end LiteralRows
