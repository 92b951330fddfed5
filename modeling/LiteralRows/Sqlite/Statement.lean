import LiteralRows.Sqlite.Database
import LiteralRows.Sqlite.Number
import LiteralRows.Text.Blank

/-!
# SQLite statements

The statements that the database understands, as data, and what each does: `run` gives the rows it
delivers and the database after it, `prepare` gives its columns without running it.

Of SQL text only a little is read, by `Statement.ofText`: the empty text, the two catalog lookups,
a whole table, the number one.  The name of a schema in a lookup is read as a quoted identifier,
which ends at the first closing mark that is not doubled.
-/

namespace LiteralRows.Sqlite

/-- One column of a query over a table. -/
inductive Output where
  /-- A column under its own name. -/
  | column (name : String)
  /-- A column under another name. -/
  | renamed (name as : String)
  /-- The absolute value of a column. -/
  | absolute (name as : String)
  deriving DecidableEq, Repr, Inhabited

/-- Where the rows of an inserting statement go. -/
inductive Place where
  /-- Wherever the bare name is found; a new table goes to `main`. -/
  | anywhere
  | schema (name : String)
  deriving DecidableEq, Repr, Inhabited

/-- A statement. -/
inductive Statement where
  /-- Rows of a table, or only its columns. -/
  | select (table : String) (outputs : List Output) (noRows : Bool)
  /-- Every column and every row of a table. -/
  | everything (table : String)
  /-- Rows of literal values. -/
  | literals (names : List String) (rows : List (List Value))
  /-- The names of the schemas. -/
  | listSchemas
  /-- The names of the tables of a schema. -/
  | listTables (schema : String)
  | create (place : Place) (name : String) (columns : List (String × String))
  | insert (place : Place) (name : String) (rows : List (List Value))
  | drop (name : String)
  | createView (name : String)
  | attach (name : String)
  /-- A text that is no statement, with the word at which it stops being one. -/
  | malformed (word : String)
  deriving DecidableEq, Repr, Inhabited

/-- A column as a row carries it: with the type name of its declaration, if that is known. -/
structure Header where
  name : String
  declared : Option String
  deriving DecidableEq, Repr, Inhabited

/-- A row with its own columns. -/
structure Row where
  headers : List Header
  values : List Value
  deriving DecidableEq, Repr, Inhabited

/-- The name and the type of each column of a row.  A column without a known declaration takes the
storage class of the value in this row. -/
def Row.columns (r : Row) : List (String × String) :=
  r.headers.zipWith (fun h v => (h.name, h.declared.getD v.storageClass)) r.values

/-- The raw cells of a row. -/
def Row.cells (r : Row) : Except String (List RawCell) :=
  decodedCells (r.values.map Value.cell)

/-! ## Reading text -/

/-- Reads a quoted identifier after its opening mark, and hands on the text after it. -/
def readIdentifier : List Char → Option (List Char × List Char)
  | [] => none
  | '"' :: '"' :: s => (readIdentifier s).map fun (name, rest) => ('"' :: name, rest)
  | '"' :: s => some ([], s)
  | c :: s => (readIdentifier s).map fun (name, rest) => (c :: name, rest)

/-- The schema whose tables a text asks for, if it is such a lookup. -/
def lookupOfTables? (sql : List Char) : Option String := do
  let rest ← Text.after? ((Catalog.tablesBefore .sqlite).toList ++ ['"']) sql
  let (name, rest) ← readIdentifier rest
  if rest = (Catalog.tablesAfter .sqlite).toList then some (String.ofList name) else none

/-- The statements of a text: none if it is blank. -/
def Statement.ofText (sql : String) : List Statement :=
  let text := sql.toList
  if Text.isAllBlank text then []
  else if sql = Catalog.Lookup.schemas.sql .sqlite then [.listSchemas]
  else if sql = "SELECT 1" then [.literals ["1"] [[.integer 1]]]
  else match lookupOfTables? text with
    | some schema => [.listTables schema]
    | none =>
      match Text.after? "SELECT * FROM ".toList text with
      | some name => [.everything (String.ofList name)]
      | none =>
        [.malformed (String.ofList
          ((text.dropWhile Text.isBlank).takeWhile (!Text.isBlank ·)))]

/-! ## Running -/

/-- The absolute value of a value. -/
def absoluteOf : Value → Except Error Value
  | .null => .ok .null
  | .integer n => if n = -Int.pow 2 63 then .error .integerOverflow else .ok (.integer n.natAbs)
  | .real bits => .ok (.real (Number.magnitude bits))
  | .text bytes | .blob bytes =>
    .ok (.real (Number.magnitude (Number.bitsOf (bytes.map fun b => Char.ofNat b.toNat))))

/-- A text value. -/
def Value.ofString (s : String) : Value :=
  .text (Text.Utf8.encode s.toList)

/-- The value under a name in a row of a table.  A quoted name that is no column stands for itself
as a text. -/
def cellOf (columns : List (String × String)) (row : List Value) (name : String) : Value :=
  match columns.findIdx? (sameName ·.1 name) with
  | some i => (row[i]?).getD .null
  | none => .ofString name

/-- The header of the values under a name in a table. -/
def headerOf (columns : List (String × String)) (name : String) : Header :=
  match columns.find? (sameName ·.1 name) with
  | some (name, declared) => { name, declared := declaredType? declared }
  | none => { name := Catalog.identifier name, declared := none }

/-- The value of an output column in a row of a table. -/
def Output.value (columns : List (String × String)) (row : List Value) : Output →
    Except Error Value
  | .column name | .renamed name _ => .ok (cellOf columns row name)
  | .absolute name _ => absoluteOf (cellOf columns row name)

/-- The header of an output column of a table. -/
def Output.header (columns : List (String × String)) : Output → Header
  | .column name => headerOf columns name
  | .renamed name as => { headerOf columns name with name := as }
  | .absolute _ as => { name := as, declared := none }

/-- The header of a column that holds names of the catalog. -/
def nameHeader (declared : Option String) : Header :=
  { name := "name", declared }

/-- The table that a query reads. -/
def Database.read (db : Database) (name : String) : Except Error Table :=
  match db.object? name with
  | some (_, .table t) => .ok t
  | _ => .error (.noSuchTable name)

/-- The schema that holds the table that a statement drops. -/
def Database.holder (db : Database) (name : String) : Except Error Schema :=
  match db.object? name, Database.masterTable? name with
  | some (schema, .table _), _ => .ok schema
  | some (_, .view name), _ => .error (.isView name)
  | none, some name => .error (.undroppable name)
  | none, none => .error (.noSuchTable name)

/-- The object into which a statement inserts, and the schema that holds it. -/
def Database.inserted? (db : Database) (name : String) : Place → Option (Schema × Object)
  | .anywhere => db.object? name
  | .schema s => do
    let schema ← db.schema? s
    let object ← schema.object? name
    some (schema, object)

/-- A name as a statement writes it, after the name of its schema if there is one. -/
def Place.write (name : String) : Place → String
  | .anywhere => name
  | .schema s => s ++ "." ++ name

/-- The table of the database itself into which a statement would insert. -/
def Database.insertedMaster? (db : Database) (name : String) : Place → Option String
  | .anywhere => Database.masterTable? name
  | .schema s => (db.schema? s).bind fun schema =>
      Schema.masterTable? (sameName schema.name db.temporary.name) name

/-- The number of values in each row, if it is the same in all. -/
def widthOf (rows : List (List Value)) : Except Error (Option Nat) :=
  match rows with
  | [] => .ok none
  | row :: rows =>
    if rows.all (·.length == row.length) then .ok (some row.length) else .error .unevenRows

/-- The schema that holds the table into which a statement inserts rows. -/
def Database.target (db : Database) (name : String) (rows : List (List Value)) (place : Place) :
    Except Error Schema := do
  let width? ← widthOf rows
  match db.inserted? name place, db.insertedMaster? name place with
  | some (schema, .table t), _ =>
    match width?.filter (· != t.columns.length) with
    | some width => .error (.wrongWidth (place.write name) t.columns.length width)
    | none => .ok schema
  | some (_, .view name), _ => .error (.readOnlyView name)
  | none, some name => .error (.readOnlyTable name)
  | none, none => .error (.noSuchTable (place.write name))

/-- The schema in which a statement creates a table. -/
def Database.home (db : Database) : Place → Except Error Schema
  | .anywhere => .ok db.main
  | .schema s =>
    match db.schema? s with
    | some schema => .ok schema
    | none => .error (.unknownSchema s)

/-- The schema whose tables are listed. -/
def Database.listed (db : Database) (name : String) : Except Error Schema :=
  match db.schema? name with
  | some schema => .ok schema
  | none => .error (.noSuchTable (name ++ ".sqlite_master"))

/-- The headers of all columns of a table. -/
def Table.headers (t : Table) : List Header :=
  t.columns.map fun (name, declared) => { name, declared := declaredType? declared }

namespace Statement

/-- Checks the names of the columns of a new table. -/
def checkColumns : List String → Except Error Unit
  | [] => .error (.nearWord ")")
  | names =>
    match repeated? [] names with
    | some name => .error (.repeatedColumn name)
    | none => .ok ()
where
  repeated? (before : List String) : List String → Option String
    | [] => none
    | name :: names =>
      if before.any (sameName name) then some name else repeated? (name :: before) names

/-- The statement can be understood without a look at the schemas. -/
def standsAlone : Statement → Bool
  | .literals _ _ | .malformed _ => true
  | _ => false

/-- The columns of a statement on a database whose schemas can be read. -/
def columns (db : Database) : Statement → Except Error (List Header)
  | .select table outputs _ => (db.read table).map fun t => outputs.map (·.header t.columns)
  | .everything table => (db.read table).map Table.headers
  | .literals names _ => .ok (names.map fun name => { name, declared := none })
  | .listSchemas => .ok [nameHeader none]
  | .listTables schema => (db.listed schema).map fun _ => [nameHeader (some "TEXT")]
  | .create place name columns => do
    (← db.home place).checkFree name
    checkColumns (columns.map (·.1))
    .ok []
  | .insert place name rows => (db.target name rows place).map fun _ => []
  | .drop name => (db.holder name).map fun _ => []
  | .createView name => (db.main.checkFree name).map fun _ => []
  | .attach _ => .ok []
  | .malformed word => .error (.nearWord word)

/-- The columns of a statement, found without running it. -/
def headers (db : Database) (s : Statement) : Except Error (List Header) :=
  if db.isReadable || s.standsAlone then s.columns db else .error .notDatabase

/-- The values of each row that a statement delivers, or the errors in their places. -/
def rows (db : Database) : Statement → List (Except Error (List Value))
  | .select table outputs noRows =>
    match noRows, db.read table with
    | false, .ok t => t.rows.map fun row => outputs.mapM (·.value t.columns row)
    | _, _ => []
  | .everything table =>
    match db.read table with
    | .ok t => t.rows.map .ok
    | .error _ => []
  | .literals _ rows => rows.map .ok
  | .listSchemas => db.schemas.map fun s => .ok [Value.ofString s.name]
  | .listTables schema =>
    match db.listed schema with
    | .ok s => s.tableNames.map fun name => .ok [Value.ofString name]
    | .error _ => []
  | _ => []

/-- The schema in which a statement would work, as far as this is found out before anything else
can be wrong with the statement. -/
def place? (db : Database) : Statement → Except Error Schema
  | .listTables name => db.listed name
  | .create place name _ => do
    let schema ← db.home place
    schema.checkFree name
    .ok schema
  | _ => .ok db.main

/-- The database after it has looked at a statement: the schema in which the statement would work is
there. -/
def noticed (db : Database) (s : Statement) : Database :=
  match s.place? db with
  | .ok schema => db.modify schema.name id
  | .error _ => db

/-- The change that a statement makes. -/
def change (db : Database) : Statement → Except Error Database
  | .create place name columns => do
    let schema ← db.home place
    .ok (db.modify schema.name fun s => { s with tables := s.tables ++ [{ name, columns }] })
  | .insert place name rows => do
    let schema ← db.target name rows place
    .ok (db.modify schema.name (·.insert name rows))
  | .drop name => do
    let schema ← db.holder name
    .ok (db.modify schema.name (·.drop name))
  | .createView name =>
    .ok (db.modify "main" fun s => { s with views := s.views ++ [name] })
  | .attach name =>
    if 10 ≤ db.attached.length then .error .tooManySchemas
    else if (db.schema? name).isSome then .error (.schemaInUse name)
    else .ok { db with attached := db.attached ++ [{ name }] }
  | _ => .ok db

/-- The rows of a statement up to its first error. -/
def deliver (headers : List Header) : List (Except Error (List Value)) →
    List (Except Error Row) × Bool
  | [] => ([], true)
  | .error e :: _ => ([.error e], false)
  | .ok values :: rows =>
    let (more, whole) := deliver headers rows
    (.ok { headers, values } :: more, whole)

/-- Runs statements one after the other, up to the first error.  Their rows form one stream. -/
def runAll (db : Database) : List Statement → List (Except Error Row) × Database
  | [] => ([], db)
  | s :: statements =>
    let db := s.noticed db
    match s.headers db with
    | .error e => ([.error e], db)
    | .ok headers =>
      match s.change db with
      | .error e => ([.error e], db)
      | .ok after =>
        match deliver headers (s.rows db) with
        | (items, false) => (items, after)
        | (items, true) =>
          let (more, final) := runAll after statements
          (items ++ more, final)

/-- The columns of all statements, found without running them. -/
def headersOfAll (db : Database) (statements : List Statement) : Except Error (List Header) :=
  (statements.mapM (headers db)).map List.flatten

end Statement

end LiteralRows.Sqlite
