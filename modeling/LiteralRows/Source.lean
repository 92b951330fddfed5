import LiteralRows.Backend
import LiteralRows.Column

/-!
# Sources and cursors

What a source database offers.  `Source σ κ` is a machine: `σ` is the state of the source and `κ`
the state of one cursor over the rows of an executed query.  Every operation takes the states it
may change and hands them back, so that what a run leaves behind can be stated and compared.

A failing operation gives the driver's own text; which stage of a transfer the failure belongs to
is decided by the caller.

A result is finite.  `remaining` bounds the rows that a cursor can still reach, and an advance
that reaches a row makes it smaller; nothing else is asked of a source.
-/

namespace LiteralRows

/-- A source database with states `σ`, whose cursors have states `κ`. -/
structure Source (σ κ : Type) where
  /-- The kind of the source. -/
  backend : Backend
  /-- Executes a query text; the query has reached the source when this returns. -/
  openCursor : String → σ → Except String κ × σ
  /-- The name and the type name of each column, in order. -/
  describe : κ → σ → Except String (List (String × String)) × σ
  /-- The class of a type name. -/
  classify : κ → String → ColumnClass
  /-- Moves to the next row: false at the end, an error where the cursor breaks down. -/
  advance : κ → σ → Except String Bool × κ × σ
  /-- The cells of the row that was reached last. -/
  scan : κ → Except String (List RawCell)
  /-- Gives a cursor back. -/
  release : κ → σ → σ
  /-- Ends the use of the source. -/
  close : σ → σ
  /-- A bound on the rows that a cursor can still reach. -/
  remaining : κ → Nat
  /-- Reaching a row uses up the bound. -/
  remaining_advance : ∀ k s, (advance k s).1 = .ok true → remaining (advance k s).2.1 < remaining k

namespace Source

variable {σ κ : Type}

/-- Executes a query without looking at its rows. -/
def execute (src : Source σ κ) (sql : String) (state : σ) : Except String Unit × σ :=
  match src.openCursor sql state with
  | (.error cause, state) => (.error cause, state)
  | (.ok cursor, state) => (.ok (), src.release cursor state)

end Source

end LiteralRows
