import LiteralRows.Proofs.Materialization
import LiteralRows.Proofs.Source.Streaming
import LiteralRows.Proofs.Token.Reading
import LiteralRows.Sqlite.Engine

/-!
# The first row describes all rows

In a stream every row carries its own columns.  They can differ from row to row: a text with several
statements gives the rows of all of them in one stream, and a column without a declared type takes
the type of the value in the row.  A result has one list of columns, which is that of the first row,
and of a later row only the number of its cells is compared with it.

* `materialize_described_by_first_row`: each cell is written by the class of the first row's column
  at its place.  That is how its own column would have it written, unless exactly one of the two
  classes is that of texts and the cell looks like a number (`KeptUnder`).  A row that is reached is
  kept if it has the right number of cells, and else ends the run.
* `rows_of_second_statement`: a text of a second statement that is kept as a number of the first.
-/

namespace LiteralRows

/-! ## One cell under two classes -/

/-- The cell has a value whose text could stand bare. -/
def RawCell.LooksNumeric (cell : RawCell) : Prop :=
  ∃ text, Token.HasText cell text ∧ Token.isNumeric text = true

namespace Token

theorem ofCell_eq_of_isText_eq (cls own : ColumnClass) (cell : RawCell)
    (h : cls.isText = own.isText) : Literal.ofCell cls cell = Literal.ofCell own cell := by
  match cell with
  | none => rfl
  | some [] => rfl
  | some (b :: bytes) =>
    rw [Literal.ofCell.eq_3 cls _ (List.cons_ne_nil _ _),
      Literal.ofCell.eq_3 own _ (List.cons_ne_nil _ _), h]

/-- Unless a cell looks like a number, its class does not matter. -/
theorem ofCell_eq_of_not_looksNumeric (cls own : ColumnClass) (cell : RawCell)
    (h : ¬ cell.LooksNumeric) : Literal.ofCell cls cell = Literal.ofCell own cell := by
  match cell with
  | none => rfl
  | some [] => rfl
  | some (b :: bytes) =>
    have hnumeric : isNumeric (Text.Utf8.decodeLossy (b :: bytes)) = false := by
      rw [← Bool.not_eq_true]
      exact fun hnumeric => h ⟨_, ⟨_, List.cons_ne_nil _ _, rfl, rfl⟩, hnumeric⟩
    rw [Literal.ofCell.eq_3 cls _ (List.cons_ne_nil _ _),
      Literal.ofCell.eq_3 own _ (List.cons_ne_nil _ _), hnumeric, Bool.and_false, Bool.and_false]

/-- A bare number is no quoted text. -/
theorem ofCell_ne_of_looksNumeric (q : Quoting) {cls own : ColumnClass} {cell : RawCell}
    (hcls : cls.isText = false) (hown : own.isText = true) (h : cell.LooksNumeric) :
    ofCell q cls cell ≠ ofCell q own cell := by
  obtain ⟨_, ⟨bytes, hne, rfl, rfl⟩, hnumeric⟩ := h
  have hbare : Literal.ofCell cls (some bytes) = .bare (Text.Utf8.decodeLossy bytes) := by
    rw [Literal.ofCell.eq_3 cls bytes hne, hcls, hnumeric]
    rfl
  have hquoted : Literal.ofCell own (some bytes) = .quoted (Text.Utf8.decodeLossy bytes) := by
    rw [Literal.ofCell.eq_3 own bytes hne, hown]
    rfl
  intro heq
  rw [ofCell, ofCell, hbare, hquoted, String.ofList_inj] at heq
  refine absurd ((numeral_of_isNumeric hnumeric).forall_mem '\'' ?_) (by decide)
  rw [show Text.Utf8.decodeLossy bytes = _ from heq]
  exact List.mem_cons_self

/-- **Two classes write a cell alike** unless exactly one of them is that of texts and the cell
looks like a number. -/
theorem ofCell_eq_ofCell_iff (q : Quoting) (cls own : ColumnClass) (cell : RawCell) :
    ofCell q cls cell = ofCell q own cell ↔ cls.isText = own.isText ∨ ¬ cell.LooksNumeric := by
  constructor
  · intro heq
    cases hcls : cls.isText <;> cases hown : own.isText
    · exact .inl rfl
    · exact .inr fun h => ofCell_ne_of_looksNumeric q hcls hown h heq
    · exact .inr fun h => ofCell_ne_of_looksNumeric q hown hcls h heq.symm
    · exact .inl rfl
  · intro h
    have hform : Literal.ofCell cls cell = Literal.ofCell own cell :=
      h.elim (ofCell_eq_of_isText_eq cls own cell) (ofCell_eq_of_not_looksNumeric cls own cell)
    rw [ofCell, ofCell, hform]

end Token

/-! ## Rows under the columns of another -/

/-- A row is kept under columns that may not be its own.  Each cell is written by the class of the
column at its place, and that is not what its own column would have it exactly if one of the two is
a column of texts, the other is not, and the cell looks like a number. -/
structure KeptUnder (q : Quoting) (columns own : List Column) (cells : List RawCell)
    (row : List String) : Prop where
  writesRow : Token.WritesRow q columns cells row
  own_iff : ∀ (j : Nat) (column ownColumn : Column) (cell : RawCell), columns[j]? = some column →
    own[j]? = some ownColumn → cells[j]? = some cell →
    (row[j]? = some (Token.ofCell q ownColumn.cls cell) ↔
      column.cls.isText = ownColumn.cls.isText ∨ ¬ cell.LooksNumeric)

theorem keptUnder_ofRow (q : Quoting) {columns : List Column} (own : List Column)
    {cells : List RawCell} (h : cells.length = columns.length) :
    KeptUnder q columns own cells (Token.ofRow q columns cells) where
  writesRow := Token.writesRow_ofRow h
  own_iff := by
    intro j column ownColumn cell hcolumn _ hcell
    rw [(Token.writesRow_ofRow h).getElem?_eq j column cell hcolumn hcell, Option.some.injEq]
    exact Token.ofCell_eq_ofCell_iff q column.cls ownColumn.cls cell

section Streams

variable {δ ρ ε : Type} {engine : Pooled.Engine δ ρ ε}

/-- A stream without any row leaves a result without rows, whatever its columns are. -/
theorem rows_materialize_of_nil {sql : String} {w : Watched (Pooled.State δ)} (q : Quoting)
    (hfree : w.state.pool.fault? = none) (hrun : (engine.run sql w.state.database).1 = []) :
    (engine.source.materialize q sql w).1.result.rows = [] := by
  have hopen := openCursor_pooled hfree (congrArg RowStream.start hrun)
  show (engine.source.run q sql w.state).1.result.rows = []
  rcases hdescribe : engine.source.describe { sql, rows := { stream := none } }
    { database := (engine.run sql w.state.database).2, pool := w.state.pool } with
    ⟨cause | described, ready⟩
  · have hundescribed : (engine.source.run q sql w.state).1 = .undescribed cause := by
      simp only [Source.run, hopen]
      rw [show RowStream.isOpen { stream := none } = false from rfl, if_neg Bool.false_ne_true,
        hdescribe]
    rw [hundescribed]
    rfl
  · obtain ⟨rows, ending, hreads⟩ := engine.source.exists_reads described.length
      ({ sql, rows := { stream := none } }, ready)
    rw [hreads.run_eq q hopen hdescribe]
    obtain ⟨hdelivers, -⟩ := delivers_of_reads hreads
    cases rows with
    | nil => rfl
    | cons cells rows =>
      obtain ⟨row, hrow⟩ := hdelivers 0 (Nat.succ_pos _)
      cases hrow.getElem?_eq

/-- **The first row describes all rows.**  The result has the columns of the first row of the
stream.  Each row that is kept is written by these columns; they are its own if it is described like
the first row.  A row that is reached and can be decoded is kept exactly if it has as many cells as
there are columns; else it ends the run with a failure that names it. -/
theorem materialize_described_by_first_row (engine : Pooled.Engine δ ρ ε) (q : Quoting)
    (sql : String) (w : Watched (Pooled.State δ)) (hfree : w.state.pool.fault? = none) :
    let items := (engine.run sql w.state.database).1
    let m := (engine.source.materialize q sql w).1
    match items with
    | .ok first :: _ =>
      m.result.columns = engine.described first ∧
        (∀ i < m.result.rows.length, ∃ row cells tokens, items[i]? = some (.ok row) ∧
          engine.cells row = .ok cells ∧ m.result.rows[i]? = some tokens ∧
          KeptUnder q m.result.columns (engine.described row) cells tokens ∧
          (engine.columns row = engine.columns first →
            engine.described row = m.result.columns ∧
              Token.WritesRow q (engine.described row) cells tokens)) ∧
        ∀ i row cells, i ≤ m.result.rows.length → items[i]? = some (.ok row) →
          engine.cells row = .ok cells →
          if cells.length = m.result.columns.length then i < m.result.rows.length
          else
            i = m.result.rows.length ∧
              m.failure? = some (.rowScan (i + 1)
                ("expected " ++ toString m.result.columns.length ++ " cells, got " ++
                  toString cells.length))
    | _ => m.result.rows = [] := by
  intro items m
  rcases hrun : items with _ | ⟨cause | first, later⟩
  · exact rows_materialize_of_nil q hfree hrun
  · have hrejected : m = .rejected (engine.rejection cause) :=
      run_pooled_of_first_error q hfree hrun
    show m.result.rows = []
    rw [hrejected]
    rfl
  · obtain ⟨p, rows, ending, hdue, hreads, hdrained⟩ := exists_reads_materialize q hfree hrun
    have hm : m = .drained
      { columns := engine.described first,
        rows := rows.map (Token.ofRow q (engine.described first)) } ending := hdrained
    have hwidth : (engine.described first).length = (engine.columns first).length :=
      List.length_map _
    clear_value m
    subst hm
    simp only [Materialization.result, Materialization.failure?, ResultSet.rowCount,
      List.length_map]
    refine ⟨trivial, fun i hi => ?_, fun i row cells hi hitem hcells => ?_⟩
    · obtain ⟨row, hrow⟩ := (delivers_of_reads hreads).1 i hi
      rw [hdue] at hrow
      have hkept := keptUnder_ofRow q (engine.described row) (hrow.length_eq.trans hwidth.symm)
      refine ⟨row, rows[i], _, hrow.getElem?_eq, hrow.cells_eq, ?_, hkept, fun hcolumns => ?_⟩
      · rw [List.getElem?_map, List.getElem?_eq_getElem hi, Option.map_some]
      · have hsame : engine.described row = engine.described first :=
          congrArg (List.map _) hcolumns
        rw [hsame]
        exact ⟨rfl, hkept.writesRow⟩
    · have hreached := fits_of_reads hreads hi (hdue ▸ hitem) hcells
      rw [← hwidth] at hreached
      split at hreached
      · rename_i hfits
        rw [if_pos hfits]
        exact hreached
      · rename_i hfits
        rw [if_neg hfits, hreached.1, hreached.2]
        exact ⟨rfl, rfl⟩

end Streams

namespace Sqlite

/-- A text with three statements: a number, then a text, then two numbers. -/
theorem materialize_described_by_first_row_of_three_statements :
    let row (names : List String) (values : List Value) : Row :=
      { headers := names.map fun name => { name, declared := none }, values }
    let store := ({} : Store).define "SELECT n; SELECT s; SELECT a, b"
      [.literals ["n"] [[.integer 1]], .literals ["s"] [[.text [0x61]]],
        .literals ["a", "b"] [[.integer 2, .integer 3]]]
    let m := (source.materialize {} "SELECT n; SELECT s; SELECT a, b" { state := opened store 1 }).1
    (opened store 1).pool.fault? = none ∧
      (engine.run "SELECT n; SELECT s; SELECT a, b" store).1 =
        [.ok (row ["n"] [.integer 1]), .ok (row ["s"] [.text [0x61]]),
          .ok (row ["a", "b"] [.integer 2, .integer 3])] ∧
      m.result.columns = [{ name := "n", typeName := "INTEGER", cls := .numeric }] ∧
      m.result.rows.length = 2 ∧
      m.failure? = some (.rowScan 3 "expected 1 cells, got 2") := by
  intro row store m
  have hrun : (engine.run "SELECT n; SELECT s; SELECT a, b" store).1 =
      [.ok (row ["n"] [.integer 1]), .ok (row ["s"] [.text [0x61]]),
        .ok (row ["a", "b"] [.integer 2, .integer 3])] := rfl
  obtain ⟨hcolumns, -, hreached⟩ := materialize_described_by_first_row engine {}
    "SELECT n; SELECT s; SELECT a, b" { state := opened store 1 } rfl
  have hfirst : m.result.columns = [{ name := "n", typeName := "INTEGER", cls := .numeric }] :=
    hcolumns.trans (by decide +kernel)
  have hlength : m.result.rows.length = 2 := by decide +kernel
  have hlast := hreached 2 (row ["a", "b"] [.integer 2, .integer 3]) [some [0x32], some [0x33]]
    (Nat.le_of_eq hlength.symm) rfl rfl
  rw [show (engine.source.materialize {} _ _).1.result.columns = _ from hfirst] at hlast
  exact ⟨rfl, hrun, hfirst, hlength, hlast.2⟩

/-- **A text of a second statement is kept as a number of the first.**  Its own column is one of
texts, under which it would be quoted; the column of the first row has it bare, and the run ends as
if nothing had happened. -/
theorem rows_of_second_statement :
    let row (name : String) (value : Value) : Row :=
      { headers := [{ name, declared := none }], values := [value] }
    let second : Row := row "s" (.text [0x30, 0x30, 0x37])
    let store := ({} : Store).define "SELECT n; SELECT s"
      [.literals ["n"] [[.integer 1]], .literals ["s"] [[.text [0x30, 0x30, 0x37]]]]
    let m := (source.materialize {} "SELECT n; SELECT s" { state := opened store 1 }).1
    (engine.run "SELECT n; SELECT s" store).1 = [.ok (row "n" (.integer 1)), .ok second] ∧
      engine.described second = [{ name := "s", typeName := "TEXT", cls := .text }] ∧
      second.cells.toOption = some [some [0x30, 0x30, 0x37]] ∧
      Token.ofCell {} .text (some [0x30, 0x30, 0x37]) = "'007'" ∧
      m.result.columns = [{ name := "n", typeName := "INTEGER", cls := .numeric }] ∧
      m.result.rows = [["1"], ["007"]] ∧ m.failure? = none := by
  refine ⟨rfl, ?_, ?_, ?_, ?_, ?_, ?_⟩ <;> decide +kernel

end Sqlite
end LiteralRows
