import LiteralRows.Column
import LiteralRows.Text.Case
import LiteralRows.Text.Pieces

/-!
# Backends

The two kinds of source database.  A backend is chosen by the scheme of a descriptor; it decides
how unquoted identifiers are folded and to which class a driver type name belongs.
-/

namespace LiteralRows

/-- A kind of source database. -/
inductive Backend where
  | postgres
  | sqlite
  deriving DecidableEq, Repr, Inhabited

namespace Backend

/-- The name of the backend. -/
def name : Backend → String
  | postgres => "postgres"
  | sqlite => "sqlite"

/-- The backend of a scheme, letter case apart. -/
def ofScheme? (scheme : String) : Option Backend :=
  let scheme := Text.lower scheme
  if scheme = "postgres" ∨ scheme = "postgresql" then some postgres
  else if scheme = "sqlite" then some sqlite
  else none

/-- The backend of a descriptor, chosen by the text before its first colon. -/
def ofDescriptor? (descriptor : String) : Option Backend :=
  (Text.cutAt ':' descriptor.toList).bind fun (scheme, _) => ofScheme? (String.ofList scheme)

/-- An unquoted identifier in the form in which the backend stores it. -/
def fold : Backend → String → String
  | postgres, ident => Text.lower ident
  | sqlite, ident => ident

/-- Type names of numeric columns, in upper case. -/
def numericTypes : Backend → List String
  | postgres => ["INT2", "SMALLINT", "INT4", "INT", "INTEGER", "INT8", "BIGINT", "FLOAT4", "REAL",
      "FLOAT8", "DOUBLE PRECISION", "NUMERIC", "DECIMAL", "OID"]
  | sqlite => ["INTEGER", "INT", "BIGINT", "REAL", "FLOAT", "DOUBLE", "NUMERIC", "DECIMAL",
      "BOOLEAN"]

/-- Type names of character columns, in upper case. -/
def textTypes : Backend → List String
  | postgres => ["TEXT", "VARCHAR", "CHARACTER VARYING", "CHAR", "BPCHAR", "CHARACTER", "NAME",
      "CITEXT", "UNKNOWN", "\"CHAR\""]
  | sqlite => ["TEXT", "VARCHAR", "CHAR", "CLOB"]

/-- The class of a driver type name.  Letter case does not matter; parentheses and array marks
do, and a name that is in neither list is of the class `other`. -/
def classify (b : Backend) (typeName : String) : ColumnClass :=
  match Text.upperAscii? typeName with
  | none => .other
  | some name =>
    if name ∈ b.numericTypes then .numeric
    else if name ∈ b.textTypes then .text
    else .other

end Backend

end LiteralRows
