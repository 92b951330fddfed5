import LiteralRows.Proofs.Text.Utf8
import LiteralRows.Proofs.Token.Reading

/-!
# Getting a value back from its token

`literalText` looks at a token alone, without the class of its column.  Where embedded quotes stay
as they are, that is enough: the three forms of a token cannot be taken for one another, whatever
the value is.  A bare token is a numeral, so it is neither the word `NULL` nor does it begin with a
quote; and of a quoted token exactly the two outer quotes are taken off, so that a value made of
quotes, or one that has them at its ends, keeps its own.

`literalText_ofCell` says which text comes back, and that tokens of one class are equal only for
values that are the same text.  The text of a value is its bytes wherever these are UTF-8.
-/

namespace LiteralRows.Token

/-! ## Taking off the outer quotes -/

theorem unquote?_quote (text : List Char) : unquote? (quote text) = some text := by
  have hafter : Text.after? ['\''] (quote text) = some (text ++ ['\'']) := rfl
  rw [unquote?, hafter, Option.bind_some, Text.before?, List.reverse_append, List.reverse_singleton]
  show some text.reverse.reverse = some text
  rw [List.reverse_reverse]

/-- Only a text that begins with a quote is taken for a quoted one. -/
theorem unquote?_eq_none {s : List Char} (h : s.head? ≠ some '\'') : unquote? s = none := by
  cases s with
  | nil => rfl
  | cons c s =>
    have hc : ('\'' == c) = false := by
      rw [beq_eq_false_iff_ne]
      rintro rfl
      exact h rfl
    rw [unquote?, Text.after?, List.isPrefixOf?, hc]
    rfl

/-! ## The text behind each form -/

theorem literalText_null : literalText (String.ofList ['N', 'U', 'L', 'L']) = none := rfl

/-- Two texts are equal as strings only if their characters are. -/
theorem ofList_ne {s t : List Char} (h : s ≠ t) : String.ofList s ≠ String.ofList t :=
  fun heq => h (String.ofList_injective heq)

theorem literalText_quote (text : List Char) :
    literalText (String.ofList (quote text)) = some (String.ofList text) := by
  have hnull : String.ofList (quote text) ≠ "NULL" := ofList_ne (t := ['N', 'U', 'L', 'L']) nofun
  rw [literalText, if_neg hnull, String.toList_ofList, unquote?_quote]
  rfl

theorem literalText_numeral {text : List Char} (h : Numeral text) :
    literalText (String.ofList text) = some (String.ofList text) := by
  have hnull : String.ofList text ≠ "NULL" := by
    refine ofList_ne (t := ['N', 'U', 'L', 'L']) ?_
    rintro rfl
    exact absurd (h.forall_mem 'N' List.mem_cons_self) (by decide)
  have hquote : text.head? ≠ some '\'' := fun hhead =>
    absurd (h.forall_mem '\'' (List.mem_of_head? hhead)) (by decide)
  rw [literalText, if_neg hnull, String.toList_ofList, unquote?_eq_none hquote]
  rfl

/-! ## Values and tokens -/

theorem HasText.unique {cell : RawCell} {text text' : List Char} (h : HasText cell text)
    (h' : HasText cell text') : text = text' := by
  obtain ⟨bytes, -, rfl, rfl⟩ := h
  obtain ⟨bytes', -, hbytes, rfl⟩ := h'
  cases hbytes
  rfl

theorem absent_or_hasText (cell : RawCell) :
    (cell = none ∨ cell = some []) ∨ ∃ text, HasText cell text :=
  (ofCell_cases .other cell).imp And.left fun ⟨text, htext, _⟩ => ⟨text, htext⟩

theorem ofCell_of_absent (q : Quoting) (cls : ColumnClass) {cell : RawCell}
    (h : cell = none ∨ cell = some []) : ofCell q cls cell = "NULL" := by
  rcases h with rfl | rfl <;> rfl

/-- Under one class the token is a matter of the text alone. -/
theorem ofCell_congr (q : Quoting) (cls : ColumnClass) {cell other : RawCell} {text : List Char}
    (h : HasText cell text) (h' : HasText other text) : ofCell q cls cell = ofCell q cls other := by
  obtain ⟨bytes, hne, rfl, rfl⟩ := h
  obtain ⟨bytes', hne', rfl, htext⟩ := h'
  rw [ofCell, ofCell, Literal.ofCell.eq_3 cls bytes hne, Literal.ofCell.eq_3 cls bytes' hne', htext]

/-- With embedded quotes as they are, the token of a value gives its text back. -/
theorem literalText_of_hasText (cls : ColumnClass) {cell : RawCell} {text : List Char}
    (h : HasText cell text) :
    literalText (ofCell { escapeQuotes := false } cls cell) = some (String.ofList text) := by
  rcases ofCell_cases cls cell with ⟨habsent, -⟩ | ⟨text', htext', ⟨hnumeral, hform⟩ | hform⟩
  · exact absurd habsent h.not_absent
  · rw [ofCell, hform, h.unique htext']
    exact literalText_numeral hnumeral
  · rw [ofCell, hform, h.unique htext']
    exact literalText_quote text'

theorem literalText_eq_none_iff (cls : ColumnClass) (cell : RawCell) :
    literalText (ofCell { escapeQuotes := false } cls cell) = none ↔
      cell = none ∨ cell = some [] := by
  constructor
  · intro h
    refine (absent_or_hasText cell).resolve_right fun ⟨text, htext⟩ => ?_
    rw [literalText_of_hasText cls htext] at h
    cases h
  · intro h
    rw [ofCell_of_absent _ cls h]
    exact literalText_null

/-- Tokens of one class tell two values apart exactly if their texts do. -/
theorem ofCell_eq_iff (cls : ColumnClass) (cell other : RawCell) :
    ofCell { escapeQuotes := false } cls cell = ofCell { escapeQuotes := false } cls other ↔
      (cell = none ∨ cell = some []) ∧ (other = none ∨ other = some []) ∨
        ∃ text, HasText cell text ∧ HasText other text := by
  constructor
  · intro heq
    have hnone := literalText_eq_none_iff cls cell
    rw [heq, literalText_eq_none_iff cls other] at hnone
    rcases absent_or_hasText cell with habsent | ⟨text, htext⟩
    · exact .inl ⟨habsent, hnone.mpr habsent⟩
    rcases absent_or_hasText other with habsent | ⟨text', htext'⟩
    · exact absurd (hnone.mp habsent) htext.not_absent
    have hback := literalText_of_hasText cls htext
    rw [heq, literalText_of_hasText cls htext', Option.some.injEq, String.ofList_inj] at hback
    exact .inr ⟨text, htext, hback ▸ htext'⟩
  · rintro (⟨hcell, hother⟩ | ⟨text, hcell, hother⟩)
    · rw [ofCell_of_absent _ cls hcell, ofCell_of_absent _ cls hother]
    · exact ofCell_congr _ cls hcell hother

/-- **A token gives its value back**, when embedded quotes stay as they are.  Nothing comes back
exactly for a cell without a value, and else the text of the cell, which is its bytes if they are
UTF-8.  So the tokens of two cells under one class are equal exactly if neither has a value or both
are the same text. -/
theorem literalText_ofCell (cls : ColumnClass) (cell : RawCell) :
    let token (cell : RawCell) := ofCell { escapeQuotes := false } cls cell
    (literalText (token cell) = none ↔ cell = none ∨ cell = some []) ∧
      (∀ bytes, bytes ≠ [] → cell = some bytes →
        ∃ text : String, literalText (token cell) = some text ∧
          text.toList = Text.Utf8.decodeLossy bytes ∧
          (bytes.toByteArray.IsValidUTF8 → text.toByteArray = bytes.toByteArray)) ∧
      ∀ other, token cell = token other ↔
        (cell = none ∨ cell = some []) ∧ (other = none ∨ other = some []) ∨
          ∃ text, HasText cell text ∧ HasText other text := by
  refine ⟨literalText_eq_none_iff cls cell, ?_, ofCell_eq_iff cls cell⟩
  intro bytes hne hcell
  exact ⟨_, literalText_of_hasText cls ⟨bytes, hne, hcell, rfl⟩, String.toList_ofList,
    Text.Utf8.toByteArray_decodeLossy⟩

/-- A value of one quote, and one that is the word for no value. -/
example :
    literalText (ofCell {} .other (some [0x27])) = some "'" ∧
      literalText (ofCell {} .text (some [0x4E, 0x55, 0x4C, 0x4C])) = some "NULL" := by
  decide +kernel

end LiteralRows.Token
