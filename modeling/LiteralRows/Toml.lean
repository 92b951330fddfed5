import LiteralRows.Datum

/-!
# TOML values

A TOML document as data.  Of numbers only the integers are kept; a float or a date has no use here
beyond being well formed.  A table has each of its keys once.
-/

namespace LiteralRows

/-- A TOML value. -/
inductive Toml where
  | string (s : String)
  | integer (n : Int)
  | float
  | bool (b : Bool)
  | datetime
  | array (items : List Toml)
  | table (entries : List (String × Toml))
  deriving Repr, Inhabited

namespace Toml

mutual

/-- A value as data.  A list may hold more items than its reader asks for.  A date is read like a
table with one key that no record knows. -/
def datum : Toml → Datum
  | .string s => .string s
  | .integer (.ofNat n) => .natural n
  | .integer (.negSucc _) => .misfit
  | .float => .misfit
  | .bool b => .bool b
  | .datetime => .record []
  | .array items => .sequence false (data items)
  | .table entries => .record (namedData entries)

/-- The items of a list as data. -/
def data : List Toml → List Datum
  | [] => []
  | item :: items => item.datum :: data items

/-- The entries of a table as data. -/
def namedData : List (String × Toml) → List (String × Datum)
  | [] => []
  | (key, item) :: entries => (key, item.datum) :: namedData entries

end

end Toml

end LiteralRows
