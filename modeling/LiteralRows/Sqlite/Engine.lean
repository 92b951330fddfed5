import LiteralRows.Source.Pooled
import LiteralRows.Sqlite.Statement

/-!
# SQLite as an engine

A database together with the meanings of the texts that it is given.  A text without a meaning of
its own is read by `Statement.ofText`.
-/

namespace LiteralRows.Sqlite

/-- A database and the meanings of query texts. -/
structure Store where
  database : Database := {}
  /-- Texts that stand for statements given as data; later entries win. -/
  meanings : List (String × List Statement) := []
  deriving Repr, Inhabited

namespace Store

/-- The store with one more meaning. -/
def define (s : Store) (sql : String) (statements : List Statement) : Store :=
  { s with meanings := (sql, statements) :: s.meanings }

/-- The statements that a text stands for. -/
def statements (s : Store) (sql : String) : List Statement :=
  (s.meanings.lookup sql).getD (Statement.ofText sql)

end Store

/-- SQLite behind a pool. -/
def engine : Pooled.Engine Store Row Error where
  backend := .sqlite
  run sql store :=
    let (items, database) := Statement.runAll store.database (store.statements sql)
    (items, { store with database })
  prepare sql store :=
    (Statement.headersOfAll store.database (store.statements sql)).map fun headers =>
      headers.map fun h => (h.name, h.declared.getD "NULL")
  columns := Row.columns
  cells := Row.cells
  rejection := Error.driverMessage
  breakdown := Error.driverMessage

/-- SQLite as a source. -/
def source : Source (Pooled.State Store) (Pooled.Cursor Row Error) :=
  engine.source

/-- A store just opened, behind a pool with so many connections. -/
def opened (store : Store) (connections : Nat) : Pooled.State Store :=
  { database := store, pool := { capacity := connections } }

end LiteralRows.Sqlite
