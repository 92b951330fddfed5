import LiteralRows.Source
import LiteralRows.Source.RowStream

/-!
# Pooled sources

A database behind a pool of connections.  An `Engine` says what the database does with a query
text; `Engine.source` adds what holds for every pooled database:

* a query takes a connection, and its stream keeps it until the stream ends, fails or is given
  back;
* the columns of a result are those of its first row, and only a result without rows is described
  by asking the database again, over a connection of its own;
* when no connection is free, or the pool is closed, asking for one fails.
-/

namespace LiteralRows.Pooled

/-- A database with states `δ`, rows `ρ` and errors `ε`. -/
structure Engine (δ ρ ε : Type) where
  backend : Backend
  /-- Everything that a query text delivers, and the database after it. -/
  run : String → δ → List (Except ε ρ) × δ
  /-- The columns of a query text, found without running it. -/
  prepare : String → δ → Except ε (List (String × String))
  /-- The columns that a row carries. -/
  columns : ρ → List (String × String)
  /-- The cells of a row. -/
  cells : ρ → Except String (List RawCell)
  /-- The text of an error that rejects a query. -/
  rejection : ε → String
  /-- The text of an error that ends a stream. -/
  breakdown : ε → String

/-- The connections of a pool. -/
structure Pool where
  /-- How many connections there may be. -/
  capacity : Nat
  /-- How many are in use. -/
  held : Nat := 0
  closed : Bool := false
  deriving DecidableEq, Repr, Inhabited

/-- Why a pool hands out no connection. -/
inductive Pool.Fault where
  | closed
  | timedOut
  deriving DecidableEq, Repr

/-- The sentence that reports it. -/
def Pool.Fault.message : Pool.Fault → String
  | .closed => "attempted to acquire a connection on a closed pool"
  | .timedOut => "pool timed out while waiting for an open connection"

/-- Why the pool would hand out no connection now, if it would not. -/
def Pool.fault? (p : Pool) : Option Pool.Fault :=
  if p.closed then some .closed
  else if p.capacity ≤ p.held then some .timedOut
  else none

/-- One more connection in use. -/
def Pool.take (p : Pool) : Pool :=
  { p with held := p.held + 1 }

/-- One connection handed back. -/
def Pool.putBack (p : Pool) : Pool :=
  { p with held := p.held - 1 }

/-- A database and the pool in front of it. -/
structure State (δ : Type) where
  database : δ
  pool : Pool
  deriving Repr

/-- A cursor over the rows of a query. -/
structure Cursor (ρ ε : Type) where
  sql : String
  rows : RowStream ε ρ
  deriving Repr

namespace Engine

variable {δ ρ ε : Type}

/-- Executes a query over a connection of its own, which a stream with rows keeps. -/
def openCursor (engine : Engine δ ρ ε) (sql : String) (state : State δ) :
    Except String (Cursor ρ ε) × State δ :=
  match state.pool.fault? with
  | some fault => (.error fault.message, state)
  | none =>
    let (items, database) := engine.run sql state.database
    match RowStream.start items with
    | .error e => (.error (engine.rejection e), { state with database })
    | .ok rows =>
      (.ok { sql, rows },
        { database, pool := if rows.isOpen then state.pool.take else state.pool })

/-- The columns of the first row, or those of the query text if there is no row to ask. -/
def describe (engine : Engine δ ρ ε) (cursor : Cursor ρ ε) (state : State δ) :
    Except String (List (String × String)) × State δ :=
  match cursor.rows.pending with
  | some row => (.ok (engine.columns row), state)
  | none =>
    match state.pool.fault? with
    | some fault => (.error fault.message, state)
    | none => ((engine.prepare cursor.sql state.database).mapError engine.rejection, state)

/-- Moves to the next row; a stream that ends hands its connection back. -/
def advance (engine : Engine δ ρ ε) (cursor : Cursor ρ ε) (state : State δ) :
    Except String Bool × Cursor ρ ε × State δ :=
  let (outcome, rows) := cursor.rows.advance
  let ended := cursor.rows.isOpen && !rows.isOpen
  (outcome.mapError engine.breakdown, { cursor with rows },
    if ended then { state with pool := state.pool.putBack } else state)

/-- The cells of the current row. -/
def scan (engine : Engine δ ρ ε) (cursor : Cursor ρ ε) : Except String (List RawCell) :=
  match cursor.rows.current with
  | some row => engine.cells row
  | none => .error "no current row to scan"

/-- Gives a cursor back, with the connection that its stream still holds. -/
def release (cursor : Cursor ρ ε) (state : State δ) : State δ :=
  if cursor.rows.isOpen then { state with pool := state.pool.putBack } else state

/-- The database as a source. -/
def source (engine : Engine δ ρ ε) : Source (State δ) (Cursor ρ ε) where
  backend := engine.backend
  openCursor := engine.openCursor
  describe := engine.describe
  classify _ := engine.backend.classify
  advance := engine.advance
  scan := engine.scan
  release := release
  close state := { state with pool := { state.pool with closed := true } }
  remaining cursor := cursor.rows.remaining
  remaining_advance cursor state h := by
    apply RowStream.remaining_advance
    simp only [advance] at h
    cases hr : cursor.rows.advance.1 with
    | error e =>
      rw [hr] at h
      cases h
    | ok b =>
      rw [hr] at h
      cases h
      rfl

end Engine

end LiteralRows.Pooled
