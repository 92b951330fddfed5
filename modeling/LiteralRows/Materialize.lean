import LiteralRows.Failure
import LiteralRows.Source
import LiteralRows.Token

/-!
# Materialization

Runs one query to its end and writes every cell as a token.  The stages follow one another without
return: the observer sees the query, the query is executed, its columns are described, its rows
are drained, and the cursor is given back whatever happened.

`Materialization` says how far a run came.  Only a run that came to drain rows has a result; if it
broke off there, the result is partial and holds exactly the rows before the break.
-/

namespace LiteralRows

/-- How the draining of a cursor ended. -/
inductive Ending where
  /-- Every row was read. -/
  | exhausted
  /-- The cursor broke down instead of reaching a row. -/
  | faulted (cause : String)
  /-- A row was reached that could not be scanned. -/
  | unreadable (cause : String)
  /-- A row was reached with another number of cells than there are columns. -/
  | misfit (expected got : Nat)
  deriving DecidableEq, Repr

/-- The failure with which draining ended after this many rows, if it did not reach the end. -/
def Ending.failure? (rows : Nat) : Ending → Option Failure
  | .exhausted => none
  | .faulted cause => some (.cursorTerminal rows cause)
  | .unreadable cause => some (.rowScan (rows + 1) cause)
  | .misfit expected got =>
    some (.rowScan (rows + 1)
      ("expected " ++ toString expected ++ " cells, got " ++ toString got))

/-- What the materializer warns of. -/
inductive Warning where
  | cursorFailed (cause : String) (rows : Nat)
  | rowUnreadable (cause : String) (row : Nat)
  deriving DecidableEq, Repr

/-- The warning with which draining ended after this many rows.  A row of the wrong width is
reported by its failure alone. -/
def Ending.warning? (rows : Nat) : Ending → Option Warning
  | .exhausted => none
  | .faulted cause => some (.cursorFailed cause rows)
  | .unreadable cause => some (.rowUnreadable cause (rows + 1))
  | .misfit _ _ => none

/-- How far the run of a query came. -/
inductive Materialization where
  /-- The query was not executed. -/
  | rejected (cause : String)
  /-- The query was executed, but its columns are not known. -/
  | undescribed (cause : String)
  /-- Rows were drained. -/
  | drained (result : ResultSet) (ending : Ending)
  deriving DecidableEq, Repr

namespace Materialization

/-- The rows that were read, complete or not. -/
def result : Materialization → ResultSet
  | .drained result _ => result
  | _ => {}

/-- Why the run did not come to its end, if it did not. -/
def failure? : Materialization → Option Failure
  | .rejected cause => some (.execution cause)
  | .undescribed cause => some (.describe cause)
  | .drained result ending => ending.failure? result.rowCount

/-- What was warned of during the run. -/
def warnings : Materialization → List Warning
  | .drained result ending => (ending.warning? result.rowCount).toList
  | _ => []

/-- The complete result, or the failure. -/
def toExcept (m : Materialization) : Except Failure ResultSet :=
  match m.failure? with
  | some failure => .error failure
  | none => .ok m.result

end Materialization

/-! ## Watching a source -/

/-- What is noted while a source is used. -/
inductive Note where
  /-- The observer was shown a query. -/
  | shown (sql : String)
  /-- The source was given a query. -/
  | sent (sql : String)
  | warned (warning : Warning)
  /-- The source was closed. -/
  | closed
  deriving DecidableEq, Repr

namespace Note

/-- The query that the observer was shown. -/
def shown? : Note → Option String
  | shown sql => some sql
  | _ => none

/-- The query that the source was given. -/
def sent? : Note → Option String
  | sent sql => some sql
  | _ => none

/-- The warning. -/
def warning? : Note → Option Warning
  | warned warning => some warning
  | _ => none

end Note

/-- The state of a source, with what has been noted while it was used. -/
structure Watched (σ : Type) where
  state : σ
  /-- The notes so far, the latest last. -/
  notes : List Note := []
  deriving Repr

namespace Watched

variable {σ : Type}

/-- The queries that the observer has seen, the latest last. -/
def shown (w : Watched σ) : List String :=
  w.notes.filterMap Note.shown?

/-- The queries that the source was given, the latest last. -/
def sent (w : Watched σ) : List String :=
  w.notes.filterMap Note.sent?

/-- The warnings so far, the latest last. -/
def warnings (w : Watched σ) : List Warning :=
  w.notes.filterMap Note.warning?

/-- One more note. -/
def note (w : Watched σ) (n : Note) : Watched σ :=
  { w with notes := w.notes ++ [n] }

end Watched

/-! ## Running a query -/

/-- What draining a cursor gave, and what it left behind. -/
structure Drained (σ κ : Type) where
  rows : List (List String)
  ending : Ending
  cursor : κ
  state : σ

namespace Source

variable {σ κ : Type}

/-- Reads the rows of a cursor until it ends, breaks down or delivers a row that does not fit. -/
def drain (src : Source σ κ) (q : Quoting) (columns : List Column) (cursor : κ) (state : σ) :
    Drained σ κ :=
  match _h : src.advance cursor state with
  | (.error cause, cursor, state) => { rows := [], ending := .faulted cause, cursor, state }
  | (.ok false, cursor, state) => { rows := [], ending := .exhausted, cursor, state }
  | (.ok true, next, state') =>
    match src.scan next with
    | .error cause => { rows := [], ending := .unreadable cause, cursor := next, state := state' }
    | .ok cells =>
      if cells.length = columns.length then
        let more := drain src q columns next state'
        { more with rows := Token.ofRow q columns cells :: more.rows }
      else
        { rows := [], ending := .misfit columns.length cells.length, cursor := next,
          state := state' }
termination_by src.remaining cursor
decreasing_by
  have := src.remaining_advance cursor state (by rw [_h])
  rwa [_h] at this

/-- The columns of a described result, each with the class of its type. -/
def columnsOf (src : Source σ κ) (cursor : κ) (described : List (String × String)) : List Column :=
  described.map fun (name, typeName) => { name, typeName, cls := src.classify cursor typeName }

/-- Runs a query on a source in the given state. -/
def run (src : Source σ κ) (q : Quoting) (sql : String) (state : σ) : Materialization × σ :=
  match src.openCursor sql state with
  | (.error cause, state) => (.rejected cause, state)
  | (.ok cursor, state) =>
    match src.describe cursor state with
    | (.error cause, state) => (.undescribed cause, src.release cursor state)
    | (.ok described, state) =>
      let columns := src.columnsOf cursor described
      let drained := src.drain q columns cursor state
      (.drained { columns, rows := drained.rows } drained.ending,
        src.release drained.cursor drained.state)

/-- Runs a query that nobody is shown. -/
def runUnseen (src : Source σ κ) (q : Quoting) (sql : String) (w : Watched σ) :
    Materialization × Watched σ :=
  let (m, state) := src.run q sql w.state
  (m, { state, notes := w.notes ++ .sent sql :: m.warnings.map .warned })

/-- Shows a query to the observer and runs it. -/
def materialize (src : Source σ κ) (q : Quoting) (sql : String) (w : Watched σ) :
    Materialization × Watched σ :=
  src.runUnseen q sql (w.note (.shown sql))

/-- Closes a watched source. -/
def shutDown (src : Source σ κ) (w : Watched σ) : Watched σ :=
  { w with state := src.close w.state }.note .closed

end Source

end LiteralRows
