import LiteralRows.Proofs.Materialization
import LiteralRows.Proofs.Source.Streaming
import LiteralRows.Sqlite.Engine

/-!
# Texts in undeclared columns

A column without a known declared type takes its class from the value that the first row holds in
it, and all rows are written by that class.  So what happens to a text further down is decided at
the top:

* with a text in the first row, every text of the column is quoted, whatever the other rows hold;
* with anything else there, a text that looks like a number stands bare.

`token_of_undeclared_text` says both, for every order of the rows behind the first.  Which row comes
first does matter: `text_bare_after_integer` is a column whose text `007` is quoted in one order of
the rows and bare in the other.
-/

namespace LiteralRows

/-- The token stands between quotes. -/
def Token.IsQuoted (token : String) : Prop :=
  ∃ text, token.toList = Token.quote text

/-! ## Decoded cells -/

/-- Cells are decoded one by one. -/
theorem eq_map_ok_of_decodedFrom {cells : List (Except Text.Utf8.Fault RawCell)} {column : Nat}
    {raw : List RawCell} (h : decodedFrom column cells = .ok raw) : cells = raw.map .ok := by
  induction cells generalizing column raw with
  | nil =>
    cases h
    rfl
  | cons cell cells ih =>
    cases cell with
    | error fault => cases h
    | ok first =>
      rw [decodedFrom] at h
      cases hmore : decodedFrom (column + 1) cells with
      | error fault =>
        rw [hmore] at h
        cases h
      | ok more =>
        rw [hmore] at h
        cases h
        rw [List.map_cons, ← ih hmore]

theorem eq_some_of_textCell {bytes : List UInt8} {cell : RawCell}
    (h : textCell bytes = .ok cell) : cell = some bytes := by
  rw [textCell] at h
  split at h
  · cases h
  · cases h
    rfl

namespace Sqlite

/-- The cells of a row are those of its values. -/
theorem Row.exists_cell_of_cells {row : Row} {raw : List RawCell} {j : Nat} {value : Value}
    (h : row.cells = .ok raw) (hvalue : row.values[j]? = some value) :
    ∃ cell, value.cell = .ok cell ∧ raw[j]? = some cell := by
  rw [Row.cells, decodedCells] at h
  cases hdecoded : decodedFrom 0 (row.values.map Value.cell) with
  | error fault =>
    rw [hdecoded] at h
    cases h
  | ok decoded =>
    rw [hdecoded] at h
    cases h
    have hcells := congrArg (·[j]?) (eq_map_ok_of_decodedFrom hdecoded)
    simp only [List.getElem?_map, hvalue, Option.map_some] at hcells
    obtain ⟨cell, hraw, hcell⟩ := Option.map_eq_some_iff.mp hcells.symm
    exact ⟨cell, hcell.symm, hraw⟩

/-- The cell of a text is the text. -/
theorem Row.getElem?_cells_of_text {row : Row} {raw : List RawCell} {j : Nat}
    {bytes : List UInt8} (h : row.cells = .ok raw) (htext : row.values[j]? = some (.text bytes)) :
    raw[j]? = some (some bytes) := by
  obtain ⟨cell, hcell, hraw⟩ := Row.exists_cell_of_cells h htext
  rw [hraw, eq_some_of_textCell hcell]

/-! ## Undeclared columns -/

/-- An undeclared column has the storage class of the first value for its type. -/
theorem Row.getElem?_columns {row : Row} {j : Nat} {header : Header} {value : Value}
    (hheader : row.headers[j]? = some header) (hvalue : row.values[j]? = some value) :
    row.columns[j]? = some (header.name, header.declared.getD value.storageClass) := by
  rw [Row.columns, List.getElem?_zipWith, hheader, hvalue]

/-- Of the storage classes only that of text is a type of character columns. -/
theorem isText_classify_storageClass (value : Value) :
    (Backend.sqlite.classify value.storageClass).isText = true ↔ value.storageClass = "TEXT" := by
  cases value <;> simp only [Value.storageClass] <;> decide

/-- In a character column every text is quoted, and elsewhere every text that is no number. -/
theorem isQuoted_ofCell (q : Quoting) {cls : ColumnClass} {bytes : List UInt8} (hne : bytes ≠ [])
    (h : cls.isText = true ∨ Token.isNumeric (Text.Utf8.decodeLossy bytes) = false) :
    Token.IsQuoted (Token.ofCell q cls (some bytes)) := by
  have hquote : (!cls.isText && Token.isNumeric (Text.Utf8.decodeLossy bytes)) = false := by
    rw [Bool.and_eq_false_iff, Bool.not_eq_false']
    exact h
  have hform : Token.Literal.ofCell cls (some bytes) = .quoted (Text.Utf8.decodeLossy bytes) := by
    rw [Token.Literal.ofCell.eq_3 cls bytes hne, hquote, if_neg Bool.false_ne_true]
  rw [Token.ofCell, hform]
  exact ⟨_, String.toList_ofList⟩

/-- Outside character columns a text that is a number stands bare. -/
theorem toList_ofCell_of_isNumeric (q : Quoting) {cls : ColumnClass} {bytes : List UInt8}
    (hne : bytes ≠ []) (hcls : cls.isText = false)
    (h : Token.isNumeric (Text.Utf8.decodeLossy bytes) = true) :
    (Token.ofCell q cls (some bytes)).toList = Text.Utf8.decodeLossy bytes := by
  have hform : Token.Literal.ofCell cls (some bytes) = .bare (Text.Utf8.decodeLossy bytes) := by
    rw [Token.Literal.ofCell.eq_3 cls bytes hne, hcls, h, Bool.not_false, Bool.and_self,
      if_pos rfl]
  rw [Token.ofCell, hform, Token.Literal.render, String.toList_ofList]

/-- A text in an undeclared column is written by the storage class of the first value there. -/
theorem getElem?_ofRow_of_text (q : Quoting) {first row : Row} {cells : List RawCell} {j : Nat}
    {header : Header} {value : Value} {bytes : List UInt8}
    (hheader : first.headers[j]? = some header) (hundeclared : header.declared = none)
    (hvalue : first.values[j]? = some value) (hcells : row.cells = .ok cells)
    (hwidth : cells.length = first.columns.length) (htext : row.values[j]? = some (.text bytes)) :
    (Token.ofRow q (first.columns.map fun c =>
        { name := c.1, typeName := c.2, cls := Backend.sqlite.classify c.2 }) cells)[j]? =
      some (Token.ofCell q (Backend.sqlite.classify value.storageClass) (some bytes)) := by
  have htype := Row.getElem?_columns hheader hvalue
  rw [hundeclared, Option.getD_none] at htype
  refine (Token.writesRow_ofRow (hwidth.trans (List.length_map _).symm)).getElem?_eq j
    { name := header.name, typeName := value.storageClass,
      cls := Backend.sqlite.classify value.storageClass } _ ?_
    (Row.getElem?_cells_of_text hcells htext)
  rw [List.getElem?_map, htype, Option.map_some]

/-- The rows of the engine are rows of this database: each carries its own columns, and its values
are decoded by their storage classes.  What a query means is left open. -/
structure OverRows {δ ε : Type} (engine : Pooled.Engine δ Row ε) : Prop where
  backend_eq : engine.backend = .sqlite
  columns_eq : engine.columns = Row.columns
  cells_eq : engine.cells = Row.cells

/-- **Texts in an undeclared column.**  The rows that are kept are those before the first item that
is no row, cannot be decoded or does not fit.  In each of them a text that is not empty is quoted
if the first row holds a text in that column, or if it does not look like a number; it stands bare
if it looks like a number and the first row holds no text there. -/
theorem token_of_undeclared_text {δ ε : Type} {engine : Pooled.Engine δ Row ε}
    (hengine : OverRows engine) (q : Quoting) (sql : String) (w : Watched (Pooled.State δ))
    {first : Row} {later : List (Except ε Row)} {j : Nat} {header : Header} {value : Value}
    (hfree : w.state.pool.fault? = none)
    (hrun : (engine.run sql w.state.database).1 = .ok first :: later)
    (hheader : first.headers[j]? = some header) (hundeclared : header.declared = none)
    (hvalue : first.values[j]? = some value) :
    let result := (engine.source.materialize q sql w).1.result
    (∀ i, i < result.rows.length ↔ ∀ k ≤ i, ∃ row cells,
        engine.Delivers first.columns.length (.ok first :: later) k row cells) ∧
      ∀ (i : Nat) (row : Row) (bytes : List UInt8), i < result.rows.length →
        (Except.ok first :: later)[i]? = some (.ok row) → row.values[j]? = some (.text bytes) →
        bytes ≠ [] →
        ∃ tokens token, result.rows[i]? = some tokens ∧ tokens[j]? = some token ∧
          (value.storageClass = "TEXT" ∨ Token.isNumeric (Text.Utf8.decodeLossy bytes) = false →
            Token.IsQuoted token) ∧
          (value.storageClass ≠ "TEXT" → Token.isNumeric (Text.Utf8.decodeLossy bytes) = true →
            token.toList = Text.Utf8.decodeLossy bytes) := by
  intro result
  obtain ⟨-, hkept, hrows⟩ := materialize_delivers q hfree hrun
  rw [hengine.columns_eq] at hkept hrows
  rw [hengine.backend_eq] at hrows
  refine ⟨hkept, fun i row bytes hi hrow htext hne => ?_⟩
  obtain ⟨row', cells, hdelivered⟩ := (hkept i).mp hi i (Nat.le_refl i)
  have hcells := hdelivered.cells_eq
  have hitem := hdelivered.getElem?_eq.symm.trans hrow
  cases hitem
  rw [hengine.cells_eq] at hcells
  refine ⟨_, _, hrows i row cells hi hdelivered,
    getElem?_ofRow_of_text q hheader hundeclared hvalue hcells hdelivered.length_eq htext, ?_, ?_⟩
  · intro hor
    exact isQuoted_ofCell q hne (hor.imp_left (isText_classify_storageClass value).mpr)
  · intro hclass
    refine toList_ofCell_of_isNumeric q hne ?_
    rw [← Bool.not_eq_true, isText_classify_storageClass]
    exact hclass

/-- A column that begins with a text, goes on with a number and then holds the text `007`. -/
theorem token_of_undeclared_text_under_text :
    let row (value : Value) : Row :=
      { headers := [{ name := "c", declared := none }], values := [value] }
    let first : Value := .text [0x61]
    let number : Value := .integer 7
    let last : Value := .text [0x30, 0x30, 0x37]
    let store := ({} : Store).define "SELECT c FROM t" [.literals ["c"] [[first], [number], [last]]]
    let result := (source.materialize {} "SELECT c FROM t" { state := opened store 1 }).1.result
    OverRows engine ∧ (opened store 1).pool.fault? = none ∧
      (engine.run "SELECT c FROM t" store).1 =
        .ok (row first) :: [.ok (row number), .ok (row last)] ∧
      2 < result.rows.length ∧
      ∃ tokens token, result.rows[2]? = some tokens ∧ tokens[0]? = some token ∧
        Token.IsQuoted token := by
  intro row first number last store result
  have hrows : OverRows engine := ⟨rfl, rfl, rfl⟩
  have hrun : (engine.run "SELECT c FROM t" store).1 =
      .ok (row first) :: [.ok (row number), .ok (row last)] := rfl
  have hheader : (row first).headers[0]? = some { name := "c", declared := none } := rfl
  have hvalue : (row first).values[0]? = some first := rfl
  have hlength : 2 < result.rows.length := by decide +kernel
  obtain ⟨-, htokens⟩ := token_of_undeclared_text hrows {} "SELECT c FROM t"
    { state := opened store 1 } rfl hrun hheader rfl hvalue
  obtain ⟨tokens, token, hrow, htoken, hquoted, -⟩ :=
    htokens 2 (row last) [0x30, 0x30, 0x37] hlength rfl rfl (List.cons_ne_nil _ _)
  exact ⟨hrows, rfl, hrun, hlength, tokens, token, hrow, htoken, hquoted (.inl rfl)⟩

/-- **The first row decides.**  The text `007` of an undeclared column stands bare behind a row with
a number, and is quoted in front of it. -/
theorem text_bare_after_integer :
    let row (value : Value) : Row :=
      { headers := [{ name := "c", declared := none }], values := [value] }
    let store (values : List Value) :=
      ({} : Store).define "SELECT c FROM t" [.literals ["c"] (values.map ([·]))]
    let rows (values : List Value) :=
      (source.materialize {} "SELECT c FROM t" { state := opened (store values) 1 }).1.result.rows
    let number : Value := .integer 1
    let text : Value := .text [0x30, 0x30, 0x37]
    (engine.run "SELECT c FROM t" (store [number, text])).1 = [.ok (row number), .ok (row text)] ∧
      rows [number, text] = [["1"], ["007"]] ∧ ¬ Token.IsQuoted "007" ∧
      (engine.run "SELECT c FROM t" (store [text, number])).1 = [.ok (row text), .ok (row number)] ∧
      rows [text, number] = [["'007'"], ["'1'"]] ∧ Token.IsQuoted "'007'" := by
  refine ⟨rfl, by decide +kernel, ?_, rfl, by decide +kernel, ⟨['0', '0', '7'], rfl⟩⟩
  rintro ⟨text, htext⟩
  cases htext

end Sqlite
end LiteralRows
