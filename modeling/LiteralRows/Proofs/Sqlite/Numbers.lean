import LiteralRows.Proofs.Decimal.Text
import LiteralRows.Proofs.Sqlite.Undeclared
import LiteralRows.Proofs.Text.Utf8

/-!
# Numbers as tokens

A stored number is written as text first, by one of two renderers, and the text is then put through
the lexical test that decides about quotes, which knows neither of them.  Outside of text columns
they agree: every integer and every finite real comes out bare, and an infinity comes out quoted.

`Value.IsNumberToken` says what a token has to be for a number: an integer is read back from it, and
no real has the token of an integer.  `token_of_number` is the main statement, for a single cell and
for the rows of a query.
-/

namespace LiteralRows
namespace Sqlite

open Decimal (Double IsInteger IsReal)

/-- The value is a number: an integer, or a real that is a number or an infinity. -/
def Value.IsNumber : Value → Prop
  | integer _ => True
  | real bits => Double.ofBits bits ≠ .nan
  | _ => False

/-- What a number comes to outside of text columns.  The text of an integer or of a finite real
stands bare, that of an infinity between quotes. -/
def Value.IsNumberToken (value : Value) (token : String) : Prop :=
  match value with
  | integer n => token = toString n ∧ IsInteger token.toList ∧ token.toInt? = some n
  | real bits =>
    match Double.ofBits bits with
    | .finite .. => token.toList = (Double.ofBits bits).text ∧ IsReal token.toList ∧
        ∀ n : Int, token ≠ toString n
    | .infinite _ => token.toList = Token.quote (Double.ofBits bits).text
    | .nan => False
  | _ => False

/-! ## Texts of numbers -/

theorem Value.integerText_eq (n : Int) : integerText n = (toString n).toList := by
  cases n with
  | ofNat n => exact (Decimal.toList_toString_ofNat n).symm
  | negSucc n => exact (Decimal.toList_toString_negSucc n).symm

/-- An infinity is written with letters. -/
theorem isNumeric_text_infinite (negative : Bool) :
    Token.isNumeric (Double.infinite negative).text = false := by
  cases negative <;> decide

/-! ## Single cells -/

theorem encode_ne_nil {text : List Char} (h : text ≠ []) : Text.Utf8.encode text ≠ [] := by
  intro hnil
  have hlossy := Text.Utf8.decodeLossy_encode text
  rw [hnil, Text.Utf8.decodeLossy] at hlossy
  exact h hlossy.symm

/-- Outside of text columns the text of a number is the whole token. -/
theorem toList_ofCell_encode (q : Quoting) {cls : ColumnClass} (hcls : cls.isText = false)
    {text : List Char} (h : Token.Numeral text) :
    (Token.ofCell q cls (some (Text.Utf8.encode text))).toList = text := by
  have hlossy := Text.Utf8.decodeLossy_encode text
  have htoken := toList_ofCell_of_isNumeric q (encode_ne_nil h.ne_nil) hcls
    (by rw [hlossy]; exact h.isNumeric_eq)
  rwa [hlossy] at htoken

/-- Of an infinity the token is its text between quotes, in which there are none to be doubled. -/
theorem toList_ofCell_infinite (q : Quoting) (cls : ColumnClass) (negative : Bool) :
    (Token.ofCell q cls (some (Text.Utf8.encode (Double.infinite negative).text))).toList =
      Token.quote (Double.infinite negative).text := by
  have hform : Token.Literal.ofCell cls
      (some (Text.Utf8.encode (Double.infinite negative).text)) =
        .quoted (Double.infinite negative).text := by
    rw [Token.Literal.ofCell.eq_3 _ _ (encode_ne_nil (by cases negative <;> decide)),
      Text.Utf8.decodeLossy_encode, isNumeric_text_infinite, Bool.and_false,
      if_neg Bool.false_ne_true]
  rw [Token.ofCell, hform, String.toList_ofList]
  obtain ⟨escapeQuotes⟩ := q
  cases negative <;> cases escapeQuotes <;> decide

/-- **The token of a number** outside of text columns. -/
theorem Value.isNumberToken_ofCell (q : Quoting) {cls : ColumnClass} (hcls : cls.isText = false)
    {value : Value} (h : value.IsNumber) :
    ∃ cell, value.cell = .ok cell ∧ value.IsNumberToken (Token.ofCell q cls cell) := by
  cases value with
  | integer n =>
    refine ⟨_, rfl, ?_⟩
    have htoken : Token.ofCell q cls (some (Text.Utf8.encode (integerText n))) = toString n := by
      rw [← String.toList_inj, integerText_eq]
      exact toList_ofCell_encode q hcls (Decimal.isInteger_toString n).numeral
    rw [htoken]
    exact ⟨rfl, Decimal.isInteger_toString n, Decimal.toInt?_toString n⟩
  | real bits =>
    refine ⟨_, rfl, ?_⟩
    rw [IsNumberToken]
    split
    · rename_i hfinite
      have hreal := Decimal.isReal_text hfinite
      have htoken := toList_ofCell_encode q hcls hreal.numeral
      rw [htoken]
      refine ⟨rfl, hreal, fun n hn => ?_⟩
      rw [hn] at htoken
      exact hreal.not_isInteger (htoken ▸ Decimal.isInteger_toString n)
    · rename_i negative hinfinite
      rw [hinfinite]
      exact toList_ofCell_infinite q cls negative
    · exact h ‹_›
  | _ => exact h.elim

/-! ## Rows -/

/-- **Numbers outside of text columns.**  The cell of a number is written bare, as its text stands;
an integer is read back from its token, the token of a finite real has a fraction or an exponent, so
that it is not the token of any integer, and an infinity is quoted.  In the rows that a query keeps
this holds of every value of a column that is no text column by its type in the first row. -/
theorem token_of_number (q : Quoting) :
    (∀ (cls : ColumnClass) (value : Value), cls.isText = false → value.IsNumber →
      ∃ cell, value.cell = .ok cell ∧ value.IsNumberToken (Token.ofCell q cls cell)) ∧
    ∀ {δ ε : Type} (engine : Pooled.Engine δ Row ε), OverRows engine →
      ∀ (sql : String) (w : Watched (Pooled.State δ)) (first : Row) (later : List (Except ε Row)),
        w.state.pool.fault? = none →
        (engine.run sql w.state.database).1 = .ok first :: later →
        ∀ (i j : Nat) (column : String × String) (row : Row) (value : Value),
          let result := (engine.source.materialize q sql w).1.result
          i < result.rows.length → first.columns[j]? = some column →
          (Backend.sqlite.classify column.2).isText = false →
          (Except.ok first :: later)[i]? = some (.ok row) → row.values[j]? = some value →
          value.IsNumber →
          ∃ tokens token, result.rows[i]? = some tokens ∧ tokens[j]? = some token ∧
            value.IsNumberToken token := by
  refine ⟨fun cls value hcls h => value.isNumberToken_ofCell q hcls h, ?_⟩
  intro δ ε engine hengine sql w first later hfree hrun i j column row value result hi hcolumn hcls
    hrow hvalue h
  obtain ⟨-, hkept, hrows⟩ := materialize_delivers q hfree hrun
  rw [hengine.columns_eq] at hkept hrows
  rw [hengine.backend_eq] at hrows
  obtain ⟨row', cells, hdelivered⟩ := (hkept i).mp hi i (Nat.le_refl i)
  have hitem := hdelivered.getElem?_eq.symm.trans hrow
  cases hitem
  have hcells := hdelivered.cells_eq
  rw [hengine.cells_eq] at hcells
  obtain ⟨cell, hcell, hraw⟩ := Row.exists_cell_of_cells hcells hvalue
  obtain ⟨cell', hcell', htoken⟩ := value.isNumberToken_ofCell q hcls h
  have hsame := hcell.symm.trans hcell'
  cases hsame
  refine ⟨_, _, hrows i row cells hi hdelivered, ?_, htoken⟩
  refine (Token.writesRow_ofRow (hdelivered.length_eq.trans (List.length_map _).symm)).getElem?_eq j
    { name := column.1, typeName := column.2, cls := Backend.sqlite.classify column.2 } cell ?_ hraw
  rw [List.getElem?_map, hcolumn, Option.map_some]

/-- The least integer in a column of its own, and the least positive real in a column that begins
with it. -/
theorem token_of_number_at_the_ends :
    let least : Value := .integer (-9223372036854775808)
    let tiny : Value := .real 1
    let row (value : Value) : Row :=
      { headers := [{ name := "n", declared := none }], values := [value] }
    let store := ({} : Store).define "SELECT n FROM t" [.literals ["n"] [[least], [tiny]]]
    let result := (source.materialize {} "SELECT n FROM t" { state := opened store 1 }).1.result
    (∃ cell, least.cell = .ok cell ∧
      Token.ofCell {} .numeric cell = "-9223372036854775808") ∧
    (engine.run "SELECT n FROM t" store).1 = [.ok (row least), .ok (row tiny)] ∧
      ∃ tokens token, result.rows[1]? = some tokens ∧ tokens[0]? = some token ∧
        IsReal token.toList := by
  intro least tiny row store result
  obtain ⟨hcell, hrun⟩ := token_of_number {}
  have hstream : (engine.run "SELECT n FROM t" store).1 = [.ok (row least), .ok (row tiny)] := rfl
  have hnumber : tiny.IsNumber := by
    show Double.ofBits 1 ≠ .nan
    decide
  refine ⟨?_, hstream, ?_⟩
  · obtain ⟨cell, hcell, htoken, -⟩ := hcell .numeric least rfl trivial
    exact ⟨cell, hcell, htoken⟩
  · obtain ⟨tokens, token, hrow, htoken, hnumber⟩ :=
      hrun engine ⟨rfl, rfl, rfl⟩ "SELECT n FROM t" { state := opened store 1 } (row least) _ rfl
        hstream 1 0 ("n", "INTEGER") (row tiny) tiny (by decide +kernel) rfl (by decide) rfl rfl
        hnumber
    exact ⟨tokens, token, hrow, htoken, hnumber.2.1⟩

end Sqlite
end LiteralRows
