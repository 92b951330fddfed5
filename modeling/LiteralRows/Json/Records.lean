import LiteralRows.Json
import LiteralRows.Settings
import LiteralRows.Text.Digits

/-!
# Records in JSON

The written forms of the library's records, and how a JSON value is read as one of them.  A record
is written with all its fields in declaration order.
-/

namespace LiteralRows

namespace Json

/-- The natural number that is written without sign, fraction and exponent. -/
def Number.natural? (n : Number) : Option Nat :=
  if n.negative || n.fraction.isSome || n.exponent.isSome then none
  else some (Text.numberOf 10 n.whole)

mutual

/-- A JSON value as data.  Lists have to be used up by their readers. -/
def datum : Json → Datum
  | .null => .null
  | .bool b => .bool b
  | .number n =>
    match n.natural? with
    | some n => .natural n
    | none => .misfit
  | .string s => .string s
  | .unpaired => .misfit
  | .array items => .sequence true (data items)
  | .object fields => .record (namedData fields)

/-- The items of a list as data. -/
def data : List Json → List Datum
  | [] => []
  | item :: items => item.datum :: data items

/-- The fields of an object as data. -/
def namedData : List (String × Json) → List (String × Datum)
  | [] => []
  | (key, item) :: fields => (key, item.datum) :: namedData fields

end

end Json

/-- The word for a column class. -/
def ColumnClass.word : ColumnClass → String
  | .numeric => "numeric"
  | .text => "text"
  | .other => "other"

/-- Reads a column class. -/
def ColumnClass.ofDatum? : Datum → Option ColumnClass :=
  Datum.asWord? [("numeric", .numeric), ("text", .text), ("other", .other)]

/-- The written form of a column class. -/
def ColumnClass.json (c : ColumnClass) : Json :=
  .string c.word

/-- Reads a backend. -/
def Backend.ofDatum? : Datum → Option Backend :=
  Datum.asWord? [("postgres", .postgres), ("sqlite", .sqlite)]

/-- The written form of a backend. -/
def Backend.json (b : Backend) : Json :=
  .string b.name

/-- The written form of a column. -/
def Column.json (c : Column) : Json :=
  .object [("name", .string c.name), ("type_name", .string c.typeName), ("class", c.cls.json)]

/-- Reads a column. -/
def Column.ofDatum? (d : Datum) : Option Column := do
  match ← d.slots? ["name", "type_name", "class"] with
  | [name, typeName, cls] =>
    let name ← name.required Datum.asString?
    let typeName ← typeName.required Datum.asString?
    let cls ← cls.required ColumnClass.ofDatum?
    some { name, typeName, cls }
  | _ => none

/-- The written form of a result. -/
def ResultSet.json (r : ResultSet) : Json :=
  .object [("columns", .array (r.columns.map Column.json)),
    ("rows", .array (r.rows.map Json.ofStrings))]

/-- Reads a result. -/
def ResultSet.ofDatum? (d : Datum) : Option ResultSet := do
  match ← d.slots? ["columns", "rows"] with
  | [columns, rows] =>
    let columns ← columns.required (Datum.asList? Column.ofDatum?)
    let rows ← rows.required (Datum.asList? (Datum.asList? Datum.asString?))
    some { columns, rows }
  | _ => none

/-- The written form of the shape of a pool. -/
def PoolSettings.json (p : PoolSettings) : Json :=
  .object [("max_idle", .ofNat p.maxIdle), ("max_open", .ofNat p.maxOpen),
    ("max_lifetime_secs", .ofNat p.maxLifetime),
    ("acquire_timeout_secs", .ofNat p.acquireTimeout)]

/-- The written form of how tokens are quoted. -/
def Quoting.json (q : Quoting) : Json :=
  .object [("escape_quotes", .bool q.escapeQuotes)]

/-- The written form of where the source is. -/
def SourceSettings.json (s : SourceSettings) : Json :=
  .object [("url", Json.ofString? s.url)]

/-- The written form of a configuration. -/
def Config.json (c : Config) : Json :=
  .object [("source", c.source.json), ("pool", c.pool.json), ("normalize", c.quoting.json)]

end LiteralRows
