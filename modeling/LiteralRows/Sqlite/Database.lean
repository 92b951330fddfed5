import LiteralRows.Catalog
import LiteralRows.Sqlite.Value

/-!
# SQLite databases

A connection sees an ordered list of schemas: `main`, then `temp` once a statement has named it,
then the attached ones.  A schema holds tables and views.  A name without a schema is looked for
in `temp` first, then in `main`, then in the attached schemas in order.

Letter case does not tell names apart; they are shown as they were given.
-/

namespace LiteralRows.Sqlite

/-- A table: its columns with their declared types, and its rows in the order of insertion. -/
structure Table where
  name : String
  columns : List (String × String)
  rows : List (List Value) := []
  deriving DecidableEq, Repr, Inhabited

/-- What a name in a schema can stand for. -/
inductive Object where
  | table (t : Table)
  | view (name : String)
  deriving DecidableEq, Repr, Inhabited

/-- A schema. -/
structure Schema where
  name : String
  tables : List Table := []
  views : List String := []
  deriving DecidableEq, Repr, Inhabited

/-- What a connection sees. -/
structure Database where
  main : Schema := { name := "main" }
  /-- The temporary schema, once a statement has named it. -/
  temp : Option Schema := none
  attached : List Schema := []
  /-- What the database was opened from is a database. -/
  isReadable : Bool := true
  deriving DecidableEq, Repr, Inhabited

/-- Why a statement fails. -/
inductive Error where
  | noSuchTable (name : String)
  | tableExists (name : String)
  | viewExists (name : String)
  /-- A view is dropped as if it were a table. -/
  | isView (name : String)
  /-- Rows are inserted into a view. -/
  | readOnlyView (name : String)
  /-- A table of the database itself is dropped. -/
  | undroppable (name : String)
  /-- Rows are inserted into a table of the database itself. -/
  | readOnlyTable (name : String)
  /-- A row has more or fewer values than its table has columns. -/
  | wrongWidth (table : String) (columns values : Nat)
  /-- The rows that one statement inserts differ in their widths. -/
  | unevenRows
  | schemaInUse (name : String)
  | unknownSchema (name : String)
  | tooManySchemas
  /-- The name is kept for the database itself. -/
  | reservedName (name : String)
  | repeatedColumn (name : String)
  | integerOverflow
  | nearWord (word : String)
  | notDatabase
  deriving DecidableEq, Repr

/-- The sentence of the database that reports an error.  Some show a name as it was written in the
statement, as a quoted identifier, and some the name itself. -/
def Error.message : Error → String
  | noSuchTable name => "no such table: " ++ name
  | tableExists name => "table " ++ Catalog.identifier name ++ " already exists"
  | viewExists name => "view " ++ Catalog.identifier name ++ " already exists"
  | isView name => "use DROP VIEW to delete view " ++ name
  | readOnlyView name => "cannot modify " ++ name ++ " because it is a view"
  | undroppable name => "table " ++ name ++ " may not be dropped"
  | readOnlyTable name => "table " ++ name ++ " may not be modified"
  | wrongWidth table columns values =>
    "table " ++ table ++ " has " ++ toString columns ++ " columns but " ++ toString values ++
      " values were supplied"
  | unevenRows => "all VALUES must have the same number of terms"
  | schemaInUse name => "database " ++ name ++ " is already in use"
  | unknownSchema name => "unknown database " ++ Catalog.identifier name
  | tooManySchemas => "too many attached databases - max 10"
  | reservedName name => "object name reserved for internal use: " ++ name
  | repeatedColumn name => "duplicate column name: " ++ name
  | integerOverflow => "integer overflow"
  | nearWord word => "near \"" ++ word ++ "\": syntax error"
  | notDatabase => "file is not a database"

/-- The number by which the database knows a kind of errors. -/
def Error.code : Error → Nat
  | notDatabase => 26
  | _ => 1

/-- The sentence of the driver that reports an error of the database. -/
def Error.driverMessage (e : Error) : String :=
  "error returned from database: (code: " ++ toString e.code ++ ") " ++ e.message

/-- Two names are the same, letter case of ASCII apart. -/
def sameName (a b : String) : Bool :=
  Text.lowerAscii a == Text.lowerAscii b

namespace Schema

/-- The table with a name. -/
def table? (s : Schema) (name : String) : Option Table :=
  s.tables.find? (sameName ·.name name)

/-- What stands under a name. -/
def object? (s : Schema) (name : String) : Option Object :=
  ((s.table? name).map .table).or ((s.views.find? (sameName · name)).map .view)

/-- The names of the tables, in the order of their bytes. -/
def tableNames (s : Schema) : List String :=
  (s.tables.map Table.name).mergeSort (fun a b => a ≤ b)

/-- The table of the database itself, in or outside the temporary schema, that a name stands
for. -/
def masterTable? (isTemporary : Bool) (name : String) : Option String :=
  let name := Text.lowerAscii name
  if isTemporary then
    if name ∈ ["sqlite_temp_master", "sqlite_temp_schema", "sqlite_master", "sqlite_schema"] then
      some "sqlite_temp_master"
    else none
  else if name ∈ ["sqlite_master", "sqlite_schema"] then some "sqlite_master"
  else none

/-- What the names begin with that the database keeps for itself. -/
def reservedStart : String := "sqlite_"

/-- Checks that a name is free for a new table or view. -/
def checkFree (s : Schema) (name : String) : Except Error Unit :=
  if (Text.lowerAscii name).startsWith reservedStart then .error (.reservedName name)
  else match s.object? name with
    | some (.table _) => .error (.tableExists name)
    | some (.view _) => .error (.viewExists name)
    | none => .ok ()

/-- The schema with rows added to a table. -/
def insert (s : Schema) (name : String) (rows : List (List Value)) : Schema :=
  { s with
    tables := s.tables.map fun t =>
      if sameName t.name name then { t with rows := t.rows ++ rows } else t }

/-- The schema without a table. -/
def drop (s : Schema) (name : String) : Schema :=
  { s with tables := s.tables.filter (!sameName ·.name name) }

end Schema

namespace Database

/-- All schemas, in the order in which a list shows them. -/
def schemas (db : Database) : List Schema :=
  db.main :: (db.temp.toList ++ db.attached)

/-- The temporary schema, which can be named before it is there. -/
def temporary (db : Database) : Schema :=
  db.temp.getD { name := "temp" }

/-- The schema with a name. -/
def schema? (db : Database) (name : String) : Option Schema :=
  (db.main :: db.temporary :: db.attached).find? (sameName ·.name name)

/-- The database with one schema changed, which is there from now on. -/
def modify (db : Database) (name : String) (f : Schema → Schema) : Database :=
  let change s := if sameName s.name name then f s else s
  { db with
    main := change db.main
    temp := if sameName db.temporary.name name then some (f db.temporary) else db.temp
    attached := db.attached.map change }

/-- The schemas in the order in which a bare name is looked for. -/
def searchOrder (db : Database) : List Schema :=
  db.temp.toList ++ db.main :: db.attached

/-- The table of the database itself that a bare name stands for. -/
def masterTable? (name : String) : Option String :=
  (Schema.masterTable? false name).or (Schema.masterTable? true name)

/-- The schema and the object that a bare name stands for. -/
def object? (db : Database) (name : String) : Option (Schema × Object) :=
  db.searchOrder.findSome? fun s => (s.object? name).map fun o => (s, o)

end Database

end LiteralRows.Sqlite
