import LiteralRows.Proofs.Catalog.Check
import LiteralRows.Proofs.Draining
import LiteralRows.Proofs.Token.Recovery

/-!
# The names that a lookup finds

A lookup runs its query like any other, so that a name is first written as a token and then read
back from it.  Embedded quotes are left as they are in a lookup, and the token of a value then gives
the text of the value back, whatever the class of its column is and whatever the text looks like.

* `RawCell.text?`: the text of a cell, without any token.  `literalText_ofCell_eq_text?` says that
  the way through the token leads there.
* `Source.Completes`: a query is executed, described, and gives these rows and nothing after them.
* `names_of_completes` and `names_of_not_completes`: a lookup gives the texts of the first cells if
  its query comes to its end, and no name at all if it does not.

`lookups_give_first_cells` says so of the lookups of schemas and of tables.
-/

namespace LiteralRows

/-- The text of a cell that has a value. -/
def RawCell.text? : RawCell → Option String
  | none => none
  | some [] => none
  | some bytes => some (String.ofList (Text.Utf8.decodeLossy bytes))

namespace Token

theorem text?_of_hasText {cell : RawCell} {text : List Char} (h : HasText cell text) :
    RawCell.text? cell = some (String.ofList text) := by
  obtain ⟨bytes, hne, rfl, rfl⟩ := h
  exact RawCell.text?.eq_3 bytes hne

/-- What is read back from the token of a cell is the text of the cell. -/
theorem literalText_ofCell_eq_text? (cls : ColumnClass) (cell : RawCell) :
    literalText (ofCell { escapeQuotes := false } cls cell) = RawCell.text? cell := by
  rcases absent_or_hasText cell with habsent | ⟨text, htext⟩
  · rw [(literalText_eq_none_iff cls cell).mpr habsent]
    rcases habsent with rfl | rfl <;> rfl
  · rw [literalText_of_hasText cls htext, text?_of_hasText htext]

end Token

namespace Source

variable {σ κ : Type}

/-- The query is executed and described, and draining reads these rows to the end. -/
def Completes (src : Source σ κ) (sql : String) (state : σ) (rows : List (List RawCell)) : Prop :=
  ∃ cursor opened described ready,
    src.openCursor sql state = (.ok cursor, opened) ∧
    src.describe cursor opened = (.ok described, ready) ∧
    src.Reads described.length (cursor, ready) rows .exhausted

variable {src : Source σ κ} {sql : String} {w : Watched σ}

/-- A query that comes to its end has no failure and keeps all of its rows. -/
theorem Completes.materialize_eq {rows : List (List RawCell)} (h : src.Completes sql w.state rows)
    (q : Quoting) :
    ∃ columns : List Column, (∀ cells ∈ rows, cells.length = columns.length) ∧
      (src.materialize q sql w).1 =
        .drained { columns, rows := rows.map (Token.ofRow q columns) } .exhausted := by
  obtain ⟨cursor, opened, described, ready, hopen, hdescribe, hreads⟩ := h
  refine ⟨src.columnsOf cursor described, ?_, hreads.run_eq q hopen hdescribe⟩
  rw [src.length_columnsOf]
  exact hreads.length_eq

/-- A query that does not come to its end has a failure. -/
theorem exists_failure_of_not_completes (h : ∀ rows, ¬ src.Completes sql w.state rows)
    (q : Quoting) : ∃ f, (src.materialize q sql w).1.failure? = some f := by
  show ∃ f, (src.run q sql w.state).1.failure? = some f
  rcases hopen : src.openCursor sql w.state with ⟨cause | cursor, opened⟩
  · exact ⟨.execution cause, by simp only [run, hopen, Materialization.failure?]⟩
  rcases hdescribe : src.describe cursor opened with ⟨cause | described, ready⟩
  · exact ⟨.describe cause, by simp only [run, hopen, hdescribe, Materialization.failure?]⟩
  obtain ⟨rows, ending, hreads⟩ := src.exists_reads described.length (cursor, ready)
  rw [hreads.run_eq q hopen hdescribe]
  cases ending with
  | exhausted => exact absurd ⟨cursor, opened, described, ready, hopen, hdescribe, hreads⟩ (h rows)
  | faulted cause => exact ⟨_, rfl⟩
  | unreadable cause => exact ⟨_, rfl⟩
  | misfit expected got => exact ⟨_, rfl⟩

end Source

namespace Catalog

variable {σ κ : Type} {src : Source σ κ} {w : Watched σ} {lookup : Lookup}

/-- The texts of the first cells of rows that have one. -/
def firstCells (rows : List (List RawCell)) : List String :=
  rows.filterMap fun cells => cells.head?.bind RawCell.text?

/-- The first token of a row that fits is that of its first cell. -/
theorem head?_ofRow_bind_literalText {columns : List Column} {cells : List RawCell}
    (h : cells.length = columns.length) :
    (Token.ofRow { escapeQuotes := false } columns cells).head?.bind Token.literalText =
      cells.head?.bind RawCell.text? := by
  cases cells with
  | nil => rfl
  | cons cell cells =>
    cases columns with
    | nil => cases h
    | cons column columns => exact Token.literalText_ofCell_eq_text? column.cls cell

/-- What is read back from the rows of a result is what their cells hold. -/
theorem firstTexts_ofRows {columns : List Column} {rows : List (List RawCell)}
    (h : ∀ cells ∈ rows, cells.length = columns.length) :
    firstTexts { columns, rows := rows.map (Token.ofRow { escapeQuotes := false } columns) } =
      firstCells rows := by
  rw [firstTexts, List.filterMap_map, firstCells]
  exact List.filterMap_congr fun cells hcells => head?_ofRow_bind_literalText (h cells hcells)

theorem names_of_completes {rows : List (List RawCell)}
    (h : src.Completes (lookup.sql src.backend) w.state rows) :
    (names src lookup w).1 = .ok (firstCells rows) := by
  obtain ⟨columns, hwidth, hrun⟩ := h.materialize_eq { escapeQuotes := false }
  rw [names_of_complete (by rw [hrun]; rfl), hrun, Materialization.result, firstTexts_ofRows hwidth]

theorem names_of_not_completes (h : ∀ rows, ¬ src.Completes (lookup.sql src.backend) w.state rows) :
    ∃ f, f.OfQuery ∧ (names src lookup w).1 = .error f := by
  obtain ⟨f, hf⟩ := Source.exists_failure_of_not_completes h { escapeQuotes := false }
  exact ⟨f, Materialization.ofQuery_of_failure? hf, congrArg Prod.fst (names_of_failure hf)⟩

/-- The answer to a query for names: the texts of the first cells of all rows if the query comes to
its end, and else the failure of the query. -/
structure NamesFirstCells (src : Source σ κ) (sql : String) (state : σ)
    (answer : Except Failure (List String)) : Prop where
  of_completes : ∀ rows, src.Completes sql state rows → answer = .ok (firstCells rows)
  of_not_completes : (∀ rows, ¬ src.Completes sql state rows) →
    ∃ f, f.OfQuery ∧ answer = .error f

/-- **Lookups give the first cells of their rows**, as texts, in the order of the rows and as often
as they come, without those that are null or empty.  Nothing else counts: no further column, no
class of a column, and nothing of a list that breaks off.  A name that is written in UTF-8 is its
own text, also with quotes in it or around it, as a number, or as the word `NULL`. -/
theorem lookups_give_first_cells (src : Source σ κ) (w : Watched σ) :
    NamesFirstCells src (Lookup.schemas.sql src.backend) w.state (schemas src w).1 ∧
      (∀ schema, NamesFirstCells src ((Lookup.tables (src.backend.fold schema)).sql src.backend)
        w.state (tables src schema w).1) ∧
      ∀ name : String, name ≠ "" →
        RawCell.text? (some (Text.Utf8.encode name.toList)) = some name := by
  refine ⟨⟨fun _ => names_of_completes, names_of_not_completes⟩,
    fun _ => ⟨fun _ => names_of_completes, names_of_not_completes⟩, fun name hname => ?_⟩
  have hne : Text.Utf8.encode name.toList ≠ [] := by
    intro hnil
    have hback := Text.Utf8.decodeLossy_encode name.toList
    rw [hnil, Text.Utf8.decodeLossy_nil] at hback
    exact hname (String.toList_eq_nil_iff.mp hback.symm)
  rw [RawCell.text?.eq_3 _ hne, Text.Utf8.decodeLossy_encode, String.ofList_toList]

/-- A quoted name, a number and the word for no value come back, and the last two cells do not. -/
example :
    let script : Scripted.Script :=
      { columns := [("name", "INT4"), ("more", "TEXT")],
        rows := [[some [0x27, 0x27], none], [some [0x30, 0x37], none],
          [some [0x4E, 0x55, 0x4C, 0x4C], none], [none, some [0x61]], [some [], some [0x61]]] }
    let book : Scripted.Book := { fallback := script }
    (schemas book.source { state := {} }).1.toOption = some ["''", "07", "NULL"] := by
  decide +kernel

end Catalog
end LiteralRows
