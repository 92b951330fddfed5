import LiteralRows.Catalog

/-!
# Sessions

A sequence of steps on one source: queries are materialized, the catalog is consulted, and any
number of cursors are opened, moved, read and given back in any order.  Cursors are numbered by
their successful openings, from zero, and a number is never used twice.
-/

namespace LiteralRows

/-- A source in use. -/
structure Session (σ κ : Type) where
  source : Watched σ
  /-- The cursors by number; those that were given back are gone. -/
  cursors : List (Option κ) := []

namespace Session

/-- One step of a session. -/
inductive Step where
  /-- Materializes a query.  Without an observer nobody sees the query. -/
  | materialize (q : Quoting) (observed : Bool) (sql : String)
  | listSchemas
  | listTables (schema : String)
  | ensureSchema (schema : String)
  | ensureTables (schema : String) (tables : List String)
  | openCursor (sql : String)
  | describe (cursor : Nat)
  | classify (cursor : Nat) (typeName : String)
  | advance (cursor : Nat)
  | scan (cursor : Nat)
  | drop (cursor : Nat)
  | execute (sql : String)
  | close
  deriving Repr

/-- What a step answers. -/
inductive Answer where
  | materialized (m : Materialization)
  | names (outcome : Except Failure (List String))
  | checked (outcome : Except Failure Unit)
  | opened (outcome : Except String Nat)
  | described (outcome : Except String (List (String × String)))
  | classified (cls : ColumnClass)
  | advanced (outcome : Except String Bool)
  | scanned (outcome : Except String (List RawCell))
  | executed (outcome : Except String Unit)
  | done
  /-- There is no cursor with the number. -/
  | noCursor

variable {σ κ : Type}

/-- The cursor with a number, unless it was given back or never opened. -/
def cursor? (s : Session σ κ) (number : Nat) : Option κ :=
  (s.cursors[number]?).join

/-- The session with another state of the source behind it. -/
def withState (s : Session σ κ) (state : σ) : Session σ κ :=
  { s with source := { s.source with state } }

/-- Gives every cursor back. -/
def releaseAll (src : Source σ κ) (s : Session σ κ) : Session σ κ :=
  let state := (s.cursors.filterMap id).foldl (fun state k => src.release k state) s.source.state
  { s.withState state with cursors := s.cursors.map fun _ => none }

/-- Takes one step. -/
def step (src : Source σ κ) : Step → Session σ κ → Answer × Session σ κ
  | .materialize q observed sql, s =>
    let (m, source) :=
      if observed then src.materialize q sql s.source else src.runUnseen q sql s.source
    (.materialized m, { s with source })
  | .listSchemas, s =>
    let (outcome, source) := Catalog.schemas src s.source
    (.names outcome, { s with source })
  | .listTables schema, s =>
    let (outcome, source) := Catalog.tables src schema s.source
    (.names outcome, { s with source })
  | .ensureSchema schema, s =>
    let (outcome, source) := Catalog.ensureSchema src schema s.source
    (.checked outcome, { s with source })
  | .ensureTables schema tables, s =>
    let (outcome, source) := Catalog.ensureTables src schema tables s.source
    (.checked outcome, { s with source })
  | .openCursor sql, s =>
    match src.openCursor sql s.source.state with
    | (.error cause, state) => (.opened (.error cause), s.withState state)
    | (.ok k, state) =>
      (.opened (.ok s.cursors.length),
        { s.withState state with cursors := s.cursors ++ [some k] })
  | .describe number, s =>
    match s.cursor? number with
    | none => (.noCursor, s)
    | some k =>
      let (outcome, state) := src.describe k s.source.state
      (.described outcome, s.withState state)
  | .classify number typeName, s =>
    match s.cursor? number with
    | none => (.noCursor, s)
    | some k => (.classified (src.classify k typeName), s)
  | .advance number, s =>
    match s.cursor? number with
    | none => (.noCursor, s)
    | some k =>
      let (outcome, k, state) := src.advance k s.source.state
      (.advanced outcome, { s.withState state with cursors := s.cursors.set number (some k) })
  | .scan number, s =>
    match s.cursor? number with
    | none => (.noCursor, s)
    | some k => (.scanned (src.scan k), s)
  | .drop number, s =>
    match s.cursor? number with
    | none => (.noCursor, s)
    | some k =>
      let state := src.release k s.source.state
      (.done, { s.withState state with cursors := s.cursors.set number none })
  | .execute sql, s =>
    let (outcome, state) := src.execute sql s.source.state
    (.executed outcome, s.withState state)
  | .close, s =>
    let s := s.releaseAll src
    (.done, { s with source := src.shutDown s.source })

end Session

end LiteralRows
