import LiteralRows.Proofs.Draining
import LiteralRows.Proofs.Token.Reading
import LiteralRows.Source.Scripted
import Mathlib.Data.List.Forall2

/-!
# Doubled quotes and quotes as they are

A query can be run with embedded quotes doubled or left as they are.  The choice is made where a
literal is written and nowhere else: it decides neither which form a cell takes nor when draining
stops.

* `Token.Escapes`: how the two tokens of one cell are related.  `escapes_ofCell` is one cell,
  `escapes_ofRow` one row.
* `Source.materialize_quoted`: a query gives one and the same run under every way of quoting, up to
  how its rows are written.
* `materialize_escapes`: the two runs of a query, side by side.
-/

namespace LiteralRows

namespace Token

/-! ## Two tokens of one cell -/

/-- The second token is the first one with every embedded quote doubled. -/
inductive Escapes : String → String → Prop
  | null : Escapes "NULL" "NULL"
  | bare {text : List Char} (h : Numeral text) : Escapes (String.ofList text) (String.ofList text)
  | quoted (text : List Char) :
    Escapes (String.ofList (quote text)) (String.ofList (quote (Text.doubling '\'' text)))

/-- The form of a cell is the same either way, and only a quoted text is written differently. -/
theorem escapes_ofCell (cls : ColumnClass) (cell : RawCell) :
    Escapes (ofCell { escapeQuotes := false } cls cell)
      (ofCell { escapeQuotes := true } cls cell) := by
  rcases ofCell_cases cls cell with ⟨-, hform⟩ | ⟨text, -, ⟨hnumeral, hform⟩ | hform⟩
  · rw [ofCell, ofCell, hform]
    exact .null
  · rw [ofCell, ofCell, hform]
    exact .bare hnumeral
  · rw [ofCell, ofCell, hform]
    exact .quoted text

theorem escapes_ofRow (columns : List Column) (cells : List RawCell) :
    List.Forall₂ Escapes (ofRow { escapeQuotes := false } columns cells)
      (ofRow { escapeQuotes := true } columns cells) := by
  induction cells generalizing columns with
  | nil => exact .nil
  | cons cell cells ih =>
    cases columns with
    | nil => exact .nil
    | cons column columns => exact .cons (escapes_ofCell column.cls cell) (ih columns)

/-- Without an embedded quote there is nothing to double. -/
theorem Escapes.eq_of_notMem {plain doubled : String} (h : Escapes plain doubled)
    (hnone : ∀ text, plain = String.ofList (quote text) → '\'' ∉ text) : doubled = plain := by
  cases h with
  | null => rfl
  | bare _ => rfl
  | quoted text => rw [Text.doubling_eq_self (hnone text rfl)]

end Token

/-! ## Two runs of one query -/

/-- Lists of which every member determines its partner are equal. -/
theorem eq_of_forall₂ {α : Type} {R : α → α → Prop} {xs ys : List α} (h : List.Forall₂ R xs ys)
    (hR : ∀ x ∈ xs, ∀ y, R x y → y = x) : ys = xs := by
  induction h with
  | nil => rfl
  | @cons x y xs ys hxy _ ih =>
    rw [hR x List.mem_cons_self y hxy, ih fun x hx => hR x (List.mem_cons_of_mem _ hx)]

namespace Source

variable {σ κ : Type}

/-- **A query gives one run under every way of quoting.**  If it gives rows, their cells, the
columns, the ending and what is left behind are the same, and only the tokens depend on the
quoting. -/
theorem materialize_quoted (src : Source σ κ) (sql : String) (w : Watched σ) :
    (∃ (m : Materialization) (behind : Watched σ),
        m.result = {} ∧ ∀ q, src.materialize q sql w = (m, behind)) ∨
      ∃ (columns : List Column) (rows : List (List RawCell)) (ending : Ending) (behind : Watched σ),
        ∀ q, src.materialize q sql w =
          (.drained { columns, rows := rows.map (Token.ofRow q columns) } ending, behind) := by
  rcases hopen : src.openCursor sql w.state with ⟨cause | cursor, opened⟩
  · refine .inl ⟨.rejected cause, (src.materialize {} sql w).2, rfl, fun q => ?_⟩
    simp only [materialize, runUnseen, Watched.note, run, hopen]
  rcases hdescribe : src.describe cursor opened with ⟨cause | described, ready⟩
  · refine .inl ⟨.undescribed cause, (src.materialize {} sql w).2, rfl, fun q => ?_⟩
    simp only [materialize, runUnseen, Watched.note, run, hopen, hdescribe]
  obtain ⟨rows, ending, hreads⟩ :=
    src.exists_reads (src.columnsOf cursor described).length (cursor, ready)
  have hdrain := fun q => hreads.drain_eq q
  dsimp only at hdrain
  refine .inr ⟨src.columnsOf cursor described, rows, ending, (src.materialize {} sql w).2,
    fun q => ?_⟩
  -- a warning tells the number of rows, which the quoting does not change
  simp only [materialize, runUnseen, Watched.note, run, hopen, hdescribe, hdrain,
    Materialization.warnings, ResultSet.rowCount, List.length_map]

/-- **Doubling embedded quotes changes nothing but embedded quotes.**  The two runs of a query fail
alike or succeed both, leave the same state and the same notes, and have the same columns and as
many rows of the same widths.  Their tokens are the same `NULL` and the same numerals at the same
places, and else the same text between quotes, once as it is and once with its quotes doubled.  So
the runs are equal where no token has an embedded quote. -/
theorem materialize_escapes (src : Source σ κ) (sql : String) (w : Watched σ) :
    let plain := src.materialize { escapeQuotes := false } sql w
    let doubled := src.materialize { escapeQuotes := true } sql w
    doubled.1.failure? = plain.1.failure? ∧ doubled.2 = plain.2 ∧
      doubled.1.result.columns = plain.1.result.columns ∧
      doubled.1.result.rows.map List.length = plain.1.result.rows.map List.length ∧
      List.Forall₂ (List.Forall₂ Token.Escapes) plain.1.result.rows doubled.1.result.rows ∧
      ((∀ row ∈ plain.1.result.rows, ∀ token ∈ row, ∀ text,
        token = String.ofList (Token.quote text) → '\'' ∉ text) → doubled = plain) := by
  intro plain doubled
  rcases src.materialize_quoted sql w with
    ⟨m, behind, hresult, hrun⟩ | ⟨columns, rows, ending, behind, hrun⟩
  · have hplain : plain = (m, behind) := hrun _
    have hdoubled : doubled = (m, behind) := hrun _
    rw [hplain, hdoubled]
    refine ⟨rfl, rfl, rfl, rfl, ?_, fun _ => rfl⟩
    rw [hresult]
    exact .nil
  · have hplain : plain = _ := hrun _
    have hdoubled : doubled = _ := hrun _
    have hrows : List.Forall₂ (List.Forall₂ Token.Escapes) plain.1.result.rows
        doubled.1.result.rows := by
      rw [hplain, hdoubled]
      show List.Forall₂ _ (rows.map _) (rows.map _)
      rw [List.forall₂_map_left_iff, List.forall₂_map_right_iff, List.forall₂_same]
      exact fun cells _ => Token.escapes_ofRow columns cells
    refine ⟨?_, ?_, ?_, ?_, hrows, fun hnone => ?_⟩
    · rw [hplain, hdoubled]
      simp only [Materialization.failure?, ResultSet.rowCount, List.length_map]
    · rw [hplain, hdoubled]
    · rw [hplain, hdoubled]
      rfl
    · rw [hplain, hdoubled]
      simp only [Materialization.result, List.map_map, Function.comp_def, Token.ofRow,
        List.length_zipWith]
    · have hsame : doubled.1.result.rows = plain.1.result.rows :=
        eq_of_forall₂ hrows fun row hrow _ htokens =>
          eq_of_forall₂ htokens fun token htoken _ h => h.eq_of_notMem (hnone row hrow token htoken)
      rw [hplain, hdoubled] at hsame
      have hsame : rows.map (Token.ofRow { escapeQuotes := true } columns) =
          rows.map (Token.ofRow { escapeQuotes := false } columns) := hsame
      rw [hplain, hdoubled, hsame]

/-- A run that breaks off behind a row with a quote at either end of a text. -/
example :
    let script : Scripted.Script :=
      { columns := [("a", "TEXT"), ("b", "INT4")],
        rows := [[some [0x27, 0x61, 0x27], some [0x37]], [none, none]], failAfter := some 1 }
    let book : Scripted.Book := { fallback := script }
    (book.source.materialize { escapeQuotes := true } "" { state := {} }).1.result.rows =
        [["'''a'''", "7"]] ∧
      (book.source.materialize { escapeQuotes := false } "" { state := {} }).1.result.rows =
        [["''a''", "7"]] := by
  decide +kernel

end Source
end LiteralRows
