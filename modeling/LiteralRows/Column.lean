/-!
# Columns, rows and results

What a query delivers: columns with a name, a driver type name and a class, and rows of tokens.
The class of a column is decided once, from its type name, and it alone decides whether numeric
texts of the column may stand bare.
-/

namespace LiteralRows

/-- The coarse class of a column. -/
inductive ColumnClass where
  /-- Integers, floating-point numbers and decimals. -/
  | numeric
  /-- Character columns: texts that look like numbers stay quoted. -/
  | text
  /-- Everything else: dates, truth values, binary data. -/
  | other
  deriving DecidableEq, Repr, Inhabited

/-- The column holds characters. -/
def ColumnClass.isText (c : ColumnClass) : Bool :=
  c == .text

/-- A raw cell as a driver delivers it: none for a database NULL, else the bytes of the value's
text. -/
abbrev RawCell := Option (List UInt8)

/-- A column of a result. -/
structure Column where
  name : String
  /-- The type name as the driver reports it. -/
  typeName : String
  /-- The class that decides about quotes. -/
  cls : ColumnClass
  deriving DecidableEq, Repr, Inhabited

/-- The rows of a query, each cell written as one token. -/
structure ResultSet where
  columns : List Column := []
  rows : List (List String) := []
  deriving DecidableEq, Repr, Inhabited

namespace ResultSet

/-- The names of the columns, in order. -/
def columnNames (r : ResultSet) : List String :=
  r.columns.map Column.name

/-- The number of rows. -/
def rowCount (r : ResultSet) : Nat :=
  r.rows.length

/-- There is no row. -/
def isEmpty (r : ResultSet) : Bool :=
  r.rows.isEmpty

end ResultSet

end LiteralRows
