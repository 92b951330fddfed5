import LiteralRows.Proofs.Draining

/-!
# What materializing a query gives

A query can stop at four places, and each leaves its own failure and its own part of the result
behind.  `materialize_stops_at_first_turn` says which, for every source and whatever its cursor
answers:

    execution fails      execution          nothing
    description fails    describe           nothing
    an advance fails     cursorTerminal k   all columns and k rows
    a row does not fit   rowScan (k + 1)    all columns and k rows
    the cursor ends      none               all columns and k rows

Here `k` is the number of turns before the first one that does not deliver a row with as many cells
as there are columns.  There is such a turn, since the result of a source is finite.

* `Source.KeepsRows` is the part about the rows: which turns they come from and how they are
  written.
* `Source.StopsWith` is the part about the failure: what the next turn did.
-/

namespace LiteralRows

/-- A row of tokens writes a row of cells: every cell by the class of the column at its own
place. -/
structure Token.WritesRow (q : Quoting) (columns : List Column) (cells : List RawCell)
    (row : List String) : Prop where
  length_eq : row.length = columns.length
  getElem?_eq : ∀ (j : Nat) (column : Column) (cell : RawCell), columns[j]? = some column →
    cells[j]? = some cell → row[j]? = some (Token.ofCell q column.cls cell)

theorem Token.writesRow_ofRow {q : Quoting} {columns : List Column} {cells : List RawCell}
    (h : cells.length = columns.length) :
    Token.WritesRow q columns cells (Token.ofRow q columns cells) where
  length_eq := by rw [ofRow, List.length_zipWith, h, Nat.min_self]
  getElem?_eq := by
    intro j column cell hcolumn hcell
    rw [ofRow, List.getElem?_zipWith, hcell, hcolumn]

namespace Source

variable {σ κ : Type} (src : Source σ κ)

/-- The result holds the columns and the rows of the first `kept` turns after `p`, in the order of
the turns. -/
structure KeepsRows (q : Quoting) (columns : List Column) (p : κ × σ) (kept : Nat)
    (result : ResultSet) : Prop where
  columns_eq : result.columns = columns
  length_eq : result.rows.length = kept
  row : ∀ i < kept, ∃ cells row, src.answerAt p i = .ok true ∧ src.cellsAt p i = .ok cells ∧
    cells.length = columns.length ∧ result.rows[i]? = some row ∧
    Token.WritesRow q columns cells row

/-- The turn after `kept` others delivers no row that fits, and this is the failure of it; an
advance that finds no further row is none. -/
inductive StopsWith (width : Nat) (p : κ × σ) (kept : Nat) : Option Failure → Prop
  | exhausted (h : src.answerAt p kept = .ok false) : StopsWith width p kept none
  | faulted {cause : String} (h : src.answerAt p kept = .error cause) :
    StopsWith width p kept (some (.cursorTerminal kept cause))
  | unreadable {cause : String} (h : src.answerAt p kept = .ok true)
    (hscan : src.cellsAt p kept = .error cause) :
    StopsWith width p kept (some (.rowScan (kept + 1) cause))
  | misfit {cells : List RawCell} (h : src.answerAt p kept = .ok true)
    (hscan : src.cellsAt p kept = .ok cells) (hwidth : cells.length ≠ width) :
    StopsWith width p kept (some (.rowScan (kept + 1)
      ("expected " ++ toString width ++ " cells, got " ++ toString cells.length)))

variable {src} {width : Nat} {p : κ × σ} {rows : List (List RawCell)} {ending : Ending}

/-- The failure of an ending is that of the turn which brought it. -/
theorem stopsWith_of_turn_eq_error {n : Nat}
    (h : src.turn width (src.next^[n] p) = .error ending) :
    src.StopsWith width p n (ending.failure? n) := by
  rw [turn, ← Function.iterate_succ_apply' src.next] at h
  split at h
  · rename_i cause hadvance
    cases h
    exact .faulted hadvance
  · rename_i hadvance
    cases h
    exact .exhausted hadvance
  · rename_i hadvance
    rcases hscan : src.scan (src.next^[n + 1] p).1 with cause | cells
    · rw [hscan] at h
      cases h
      exact .unreadable hadvance hscan
    · rw [hscan, fitted] at h
      split at h
      · cases h
      · rename_i hwidth
        cases h
        exact .misfit hadvance hscan hwidth

/-- The rows that are read are kept, and nothing else. -/
theorem Reads.keepsRows {columns : List Column} (q : Quoting)
    (h : src.Reads columns.length p rows ending) :
    src.KeepsRows q columns p rows.length
      { columns, rows := rows.map (Token.ofRow q columns) } where
  columns_eq := rfl
  length_eq := List.length_map _
  row := by
    intro i hi
    obtain ⟨hadvance, hscan, hwidth⟩ := src.turn_iterate_eq_ok_iff.mp (h.turn_eq_ok i hi)
    refine ⟨rows[i], Token.ofRow q columns rows[i], hadvance, hscan, hwidth, ?_,
      Token.writesRow_ofRow hwidth⟩
    rw [List.getElem?_map, List.getElem?_eq_getElem hi, Option.map_some]

/-- **A query gives the rows before the first turn that stops it**, and the failure of that turn;
a query that is not executed or not described gives nothing but its failure. -/
theorem materialize_stops_at_first_turn (src : Source σ κ) (q : Quoting) (sql : String)
    (w : Watched σ) :
    let m := (src.materialize q sql w).1
    match src.openCursor sql w.state with
    | (.error cause, _) =>
      m.failure? = some (.execution cause) ∧ m.result = { columns := [], rows := [] }
    | (.ok cursor, opened) =>
      match src.describe cursor opened with
      | (.error cause, _) =>
        m.failure? = some (.describe cause) ∧ m.result = { columns := [], rows := [] }
      | (.ok described, ready) =>
        ∃ kept, src.KeepsRows q
            (described.map fun d =>
              { name := d.1, typeName := d.2, cls := src.classify cursor d.2 })
            (cursor, ready) kept m.result ∧
          src.StopsWith described.length (cursor, ready) kept m.failure? := by
  intro m
  have hm : m = (src.run q sql w.state).1 := rfl
  clear_value m
  rcases hopen : src.openCursor sql w.state with ⟨cause | cursor, opened⟩
  · have hrejected : m = .rejected cause := by simp only [hm, run, hopen]
    subst hrejected
    exact And.intro rfl rfl
  · rcases hdescribe : src.describe cursor opened with ⟨cause | described, ready⟩
    · have hundescribed : m = .undescribed cause := by simp only [hm, run, hopen, hdescribe]
      subst hundescribed
      dsimp only
      rw [hdescribe]
      exact And.intro rfl rfl
    · obtain ⟨rows, ending, hreads⟩ := src.exists_reads described.length (cursor, ready)
      have hdrained := hm.trans (hreads.run_eq q hopen hdescribe)
      dsimp only
      rw [hdescribe]
      refine ⟨rows.length, ?_, ?_⟩
      · rw [hdrained]
        rw [← src.length_columnsOf cursor described] at hreads
        exact hreads.keepsRows q
      · rw [hdrained]
        have hstop := stopsWith_of_turn_eq_error hreads.turn_eq_error
        simpa only [Materialization.failure?, ResultSet.rowCount, List.length_map] using hstop

end Source
end LiteralRows
