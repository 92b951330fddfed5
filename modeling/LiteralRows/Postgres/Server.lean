import LiteralRows.Source.Decoding
import LiteralRows.Source.Pooled
import LiteralRows.Text.Pieces

/-!
# PostgreSQL servers

A server that answers each query text with a reply from a script: rows in one stream, each with the
columns of the result it belongs to, and then the end of the results, an error, or the loss of the
connection.  Every value arrives as the server's text for it.

An error that rejects a query is shown with the details that the server sent along; one that ends
a stream is shown by its message alone.
-/

namespace LiteralRows.Postgres

/-- An error as a server reports it. -/
structure ServerError where
  code : String := ""
  message : String := ""
  detail : Option String := none
  hint : Option String := none
  table : Option String := none
  column : Option String := none
  deriving DecidableEq, Repr, Inhabited

/-- The details that a server sent along, each under its title. -/
def ServerError.details (e : ServerError) : List (String × String) :=
  [("DETAIL", e.detail), ("HINT", e.hint), ("TABLE", e.table), ("COLUMN", e.column)].filterMap
    fun (title, text) => text.map fun text => (title, text)

/-- The error with its details, one line each. -/
def ServerError.report (e : ServerError) : String :=
  "ERROR: " ++ e.message ++
    String.join (e.details.map fun (title, text) => "\n  " ++ title ++ ": " ++ text)

/-- The sentence of the driver that reports an error of the server. -/
def ServerError.driverMessage (e : ServerError) : String :=
  "error returned from database: " ++ e.message

/-- Why a query or its stream fails. -/
inductive Error where
  | server (e : ServerError)
  /-- The connection was lost. -/
  | disconnected
  deriving DecidableEq, Repr

/-- The text that reports a lost connection. -/
def disconnection : String :=
  "error communicating with database: expected to read 5 bytes, got 0 bytes at EOF"

/-- The text of an error that rejects a query. -/
def Error.rejection : Error → String
  | .server e => e.report
  | .disconnected => disconnection

/-- The text of an error that ends a stream. -/
def Error.breakdown : Error → String
  | .server e => e.driverMessage
  | .disconnected => disconnection

/-- The type names by the numbers that a server sends for them. -/
def typeNames : List (Nat × String) := [
  (16, "BOOL"), (17, "BYTEA"), (18, "\"CHAR\""), (19, "NAME"), (20, "INT8"), (21, "INT2"),
  (23, "INT4"), (25, "TEXT"), (26, "OID"), (114, "JSON"), (199, "JSON[]"), (600, "POINT"),
  (650, "CIDR"), (700, "FLOAT4"), (701, "FLOAT8"), (705, "UNKNOWN"), (790, "MONEY"),
  (829, "MACADDR"), (869, "INET"), (1000, "BOOL[]"), (1005, "INT2[]"), (1007, "INT4[]"),
  (1009, "TEXT[]"), (1015, "VARCHAR[]"), (1016, "INT8[]"), (1022, "FLOAT8[]"), (1042, "CHAR"),
  (1043, "VARCHAR"), (1082, "DATE"), (1083, "TIME"), (1114, "TIMESTAMP"), (1184, "TIMESTAMPTZ"),
  (1186, "INTERVAL"), (1231, "NUMERIC[]"), (1266, "TIMETZ"), (1560, "BIT"), (1562, "VARBIT"),
  (1700, "NUMERIC"), (2278, "VOID"), (2950, "UUID"), (2951, "UUID[]"), (3802, "JSONB"),
  (3904, "INT4RANGE")]

/-- The name of the type with a number. -/
def typeName (number : Nat) : String :=
  (typeNames.lookup number).getD "?"

/-- A column as a server describes it: its name and the number of its type. -/
abbrev Header := String × Nat

/-- The name and the type of each column. -/
def columnsOf (headers : List Header) : List (String × String) :=
  headers.map fun (name, number) => (name, typeName number)

/-- A row with its own columns. -/
structure Row where
  headers : List Header
  values : List RawCell
  deriving DecidableEq, Repr, Inhabited

/-- A value as a raw cell, if its text is well formed. -/
def cellOf : RawCell → Except Text.Utf8.Fault RawCell
  | none => .ok none
  | some bytes => textCell bytes

/-- The raw cells of a row. -/
def Row.cells (r : Row) : Except String (List RawCell) :=
  decodedCells (r.values.map cellOf)

/-- What a server sends for a query. -/
structure Reply where
  /-- A query is answered by this reply if it mentions this text. -/
  fragment : String := ""
  rows : List Row := []
  /-- What comes instead of the end of the results, if it is not that. -/
  ending : Option Error := none
  /-- The columns of the query, when the server is asked for them alone. -/
  description : Except ServerError (List Header) := .ok []
  deriving Repr

/-- A server, by its script. -/
structure Server where
  replies : List Reply := []
  deriving Repr, Inhabited

/-- The error for a query that the script does not know. -/
def unscripted : ServerError :=
  { message := "no reply is scripted for this query" }

/-- The reply to a query: the first one whose text the query mentions. -/
def Server.reply (s : Server) (sql : String) : Except ServerError Reply :=
  match s.replies.find? fun r => Text.occursIn r.fragment.toList sql.toList with
  | some reply => .ok reply
  | none => .error unscripted

/-- Everything that a server sends for a query. -/
def Server.answer (s : Server) (sql : String) : List (Except Error Row) :=
  match s.reply sql with
  | .error e => [.error (.server e)]
  | .ok reply => reply.rows.map .ok ++ (reply.ending.map .error).toList

/-- The columns of a query, found without running it. -/
def Server.describe (s : Server) (sql : String) : Except Error (List (String × String)) :=
  (((s.reply sql).bind Reply.description).map columnsOf).mapError .server

/-- PostgreSQL behind a pool. -/
def engine : Pooled.Engine Server Row Error where
  backend := .postgres
  run sql server := (server.answer sql, server)
  prepare sql server := server.describe sql
  columns row := columnsOf row.headers
  cells := Row.cells
  rejection := Error.rejection
  breakdown := Error.breakdown

/-- PostgreSQL as a source. -/
def source : Source (Pooled.State Server) (Pooled.Cursor Row Error) :=
  engine.source

/-- A server just connected to, behind a pool with so many connections. -/
def opened (server : Server) (connections : Nat) : Pooled.State Server :=
  { database := server, pool := { capacity := connections } }

end LiteralRows.Postgres
