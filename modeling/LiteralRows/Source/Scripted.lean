import LiteralRows.Source
import LiteralRows.Text.Pieces

/-!
# Scripted sources

A source that answers from scripts.  A script names the columns and the rows of a result and may
make any stage of a cursor's life fail: the execution, the description, the scan of one row, or
the advance past a number of rows.  Tests of a transfer run against it, and so do statements about
transfers, because a script is plain data.

The first script whose fragment occurs in a query answers it; a query without such a script gets
the fallback.
-/

namespace LiteralRows.Scripted

/-- What one query delivers. -/
structure Script where
  columns : List (String × String) := []
  rows : List (List RawCell) := []
  /-- Execution fails with this text. -/
  failExecute : Option String := none
  /-- The description fails with this text. -/
  failDescribe : Option String := none
  /-- The row with this number, counted from one, cannot be scanned. -/
  failScanAt : Option Nat := none
  /-- The cursor breaks down when it is moved past this many rows. -/
  failAfter : Option Nat := none
  deriving DecidableEq, Repr, Inhabited

/-- The scripts of a source. -/
structure Book where
  /-- The kind of source that is played, which decides about column classes. -/
  backend : Backend := .postgres
  fallback : Script := {}
  /-- Query fragments with their scripts; earlier entries win. -/
  entries : List (String × Script) := []
  deriving Repr, Inhabited

/-- The script that answers a query. -/
def Book.scriptFor (book : Book) (sql : String) : Script :=
  match book.entries.find? fun (fragment, _) => Text.occursIn fragment.toList sql.toList with
  | some (_, script) => script
  | none => book.fallback

/-- What a scripted source remembers. -/
structure State where
  /-- The queries executed so far, the latest last. -/
  executed : List String := []
  /-- The cursors that were opened and not given back. -/
  openCursors : Nat := 0
  deriving DecidableEq, Repr, Inhabited

/-- A cursor over the rows of a script. -/
structure Cursor where
  script : Script
  /-- The number of rows reached. -/
  position : Nat := 0
  /-- The cursor has broken down. -/
  faulted : Bool := false
  deriving DecidableEq, Repr, Inhabited

/-- Moves to the next row of the script, or breaks down where the script says so. -/
def Cursor.advance (c : Cursor) : Except String Bool × Cursor :=
  if c.faulted then (.ok false, c)
  else if c.script.failAfter = some c.position then
    (.error ("connection lost after row " ++ toString c.position), { c with faulted := true })
  else if c.position < c.script.rows.length then (.ok true, { c with position := c.position + 1 })
  else (.ok false, c)

/-- The row reached last.  The position stays where it is at the end and at a breakdown, so the
last row reached can still be scanned there. -/
def Cursor.scan (c : Cursor) : Except String (List RawCell) :=
  if c.position = 0 then .error "no current row to scan"
  else if c.script.failScanAt = some c.position then
    .error ("cannot decode row " ++ toString c.position)
  else .ok ((c.script.rows[c.position - 1]?).getD [])

/-- The rows of the script that are still to come. -/
def Cursor.remaining (c : Cursor) : Nat :=
  c.script.rows.length - c.position

theorem Cursor.remaining_advance (c : Cursor) (h : c.advance.1 = .ok true) :
    c.advance.2.remaining < c.remaining := by
  unfold Cursor.advance at h ⊢
  split at h
  · simp at h
  · split at h
    · simp at h
    · split at h
      · simp_all only [Cursor.remaining, if_true, if_false, Bool.false_eq_true]
        omega
      · simp at h

/-- The source that answers from a book of scripts. -/
def Book.source (book : Book) : Source State Cursor where
  backend := book.backend
  openCursor sql state :=
    let state := { state with executed := state.executed ++ [sql] }
    let script := book.scriptFor sql
    match script.failExecute with
    | some cause => (.error cause, state)
    | none => (.ok { script }, { state with openCursors := state.openCursors + 1 })
  describe cursor state :=
    match cursor.script.failDescribe with
    | some cause => (.error cause, state)
    | none => (.ok cursor.script.columns, state)
  classify _ := book.backend.classify
  advance cursor state :=
    let (outcome, cursor) := cursor.advance
    (outcome, cursor, state)
  scan := Cursor.scan
  release _ state := { state with openCursors := state.openCursors - 1 }
  close := id
  remaining := Cursor.remaining
  remaining_advance cursor _ h := cursor.remaining_advance h

end LiteralRows.Scripted
