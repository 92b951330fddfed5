import LiteralRows.Materialize

/-!
# Catalog checks

Which schemas and tables a source has, and whether the ones that a transfer needs are among them.
The checks run before a transfer, so that a missing table is reported up front and not as a failed
query halfway through.

Every lookup is an ordinary materialized query: the observer sees it, and a lookup that fails at
any stage fails the check with its own failure.  Names are compared in the form in which the
backend stores them.
-/

namespace LiteralRows.Catalog

/-- A lookup in the catalog of a source. -/
inductive Lookup where
  | schemas
  /-- The base tables of a schema, whose name is given as it is stored. -/
  | tables (schema : String)
  deriving DecidableEq, Repr

/-- A text as an SQL string literal. -/
def literal (text : String) : String :=
  String.ofList ('\'' :: (Text.doubling '\'' text.toList ++ ['\'']))

/-- A text as a quoted SQL identifier. -/
def identifier (text : String) : String :=
  String.ofList ('"' :: (Text.doubling '"' text.toList ++ ['"']))

/-- The text before the schema name in a lookup of tables. -/
def tablesBefore : Backend → String
  | .postgres => "SELECT table_name FROM information_schema.tables WHERE table_schema = "
  | .sqlite => "SELECT name FROM "

/-- The text after the schema name in a lookup of tables. -/
def tablesAfter : Backend → String
  | .postgres => " AND table_type = 'BASE TABLE' ORDER BY table_name"
  | .sqlite => ".sqlite_master WHERE type = 'table' ORDER BY name"

/-- The schema name as it is written in a lookup of tables: a value to compare with, or a name. -/
def schemaSlot : Backend → String → String
  | .postgres, schema => literal schema
  | .sqlite, schema => identifier schema

/-- The query of a lookup. -/
def Lookup.sql (b : Backend) : Lookup → String
  | .schemas =>
    match b with
    | .postgres => "SELECT schema_name FROM information_schema.schemata ORDER BY schema_name"
    | .sqlite => "SELECT name FROM pragma_database_list ORDER BY seq"
  | .tables schema => tablesBefore b ++ schemaSlot b schema ++ tablesAfter b

/-- The texts behind the first tokens of all rows, without the `NULL` ones. -/
def firstTexts (r : ResultSet) : List String :=
  r.rows.filterMap fun row => row.head?.bind Token.literalText

variable {σ κ : Type}

/-- Runs a lookup. -/
def names (src : Source σ κ) (lookup : Lookup) (w : Watched σ) :
    Except Failure (List String) × Watched σ :=
  let (m, w) := src.materialize {} (lookup.sql src.backend) w
  (m.toExcept.map firstTexts, w)

/-- The schemas of a source. -/
def schemas (src : Source σ κ) (w : Watched σ) : Except Failure (List String) × Watched σ :=
  names src .schemas w

/-- The base tables of a schema. -/
def tables (src : Source σ κ) (schema : String) (w : Watched σ) :
    Except Failure (List String) × Watched σ :=
  names src (.tables (src.backend.fold schema)) w

/-- What a check found missing. -/
inductive Missing where
  | noSchema (name : String) (backend : Backend)
  /-- Tables of a schema, in the order in which they were asked for. -/
  | noTables (name : String) (wanted : List String)
  deriving DecidableEq, Repr

/-- The sentence that reports what is missing. -/
def Missing.message : Missing → String
  | .noSchema name backend =>
    "schema \"" ++ name ++ "\" does not exist in " ++ backend.name ++ " source"
  | .noTables name wanted =>
    "missing tables in schema \"" ++ name ++ "\": " ++ Text.joined ", " wanted

/-- The failure of a check. -/
def Missing.failure (m : Missing) : Failure :=
  .schema m.message

/-- Checks that a schema exists. -/
def ensureSchema (src : Source σ κ) (schema : String) (w : Watched σ) :
    Except Failure Unit × Watched σ :=
  let wanted := src.backend.fold schema
  match schemas src w with
  | (.error failure, w) => (.error failure, w)
  | (.ok found, w) =>
    if wanted ∈ found then (.ok (), w)
    else (.error (Missing.noSchema wanted src.backend).failure, w)

/-- Checks that a schema exists and holds every one of the tables. -/
def ensureTables (src : Source σ κ) (schema : String) (wanted : List String) (w : Watched σ) :
    Except Failure Unit × Watched σ :=
  match ensureSchema src schema w with
  | (.error failure, w) => (.error failure, w)
  | (.ok (), w) =>
    match tables src schema w with
    | (.error failure, w) => (.error failure, w)
    | (.ok found, w) =>
      match (wanted.map src.backend.fold).filter (· ∉ found) with
      | [] => (.ok (), w)
      | missing => (.error (Missing.noTables (src.backend.fold schema) missing).failure, w)

end LiteralRows.Catalog
