import LiteralRows.Text.Pieces

/-!
# Texts between marks

SQL puts a text between two marks and writes every mark inside it twice.  Whoever reads such a
text back stops at the first mark that is not doubled.  `beforeClosing` is that reader, and
`beforeClosing_doubling` says that it gets exactly the text that was written, provided that the
closing mark is not followed by another one.  The text itself may begin or end with marks or
consist of nothing else.
-/

namespace LiteralRows.Text

/-- The text before the first `mark` that is not doubled, with each doubled one written once, and
what follows the closing mark; none if no mark closes the text. -/
def beforeClosing (mark : Char) : List Char → Option (List Char × List Char)
  | [] => none
  | [c] => if c = mark then some ([], []) else none
  | c :: d :: s =>
    if c = mark then
      if d = mark then
        (beforeClosing mark s).map fun (text, rest) => (mark :: text, rest)
      else some ([], d :: s)
    else (beforeClosing mark (d :: s)).map fun (text, rest) => (c :: text, rest)

/-- Every `mark` of the text stands in a pair. -/
inductive Doubled (mark : Char) : List Char → Prop
  | nil : Doubled mark []
  | plain {c : Char} {s : List Char} (h : c ≠ mark) (more : Doubled mark s) : Doubled mark (c :: s)
  | pair {s : List Char} (more : Doubled mark s) : Doubled mark (mark :: mark :: s)

theorem doubled_doubling (mark : Char) (s : List Char) : Doubled mark (doubling mark s) := by
  induction s with
  | nil => exact .nil
  | cons c s ih =>
    rw [doubling]
    split
    · exact .pair ih
    · rename_i hc
      exact .plain hc ih

/-- A character that is not the mark belongs to the text. -/
theorem beforeClosing_cons_of_ne {mark c : Char} (h : c ≠ mark) (s : List Char) :
    beforeClosing mark (c :: s) =
      (beforeClosing mark s).map fun (text, rest) => (c :: text, rest) := by
  cases s with
  | nil => simp [beforeClosing, h]
  | cons d s => rw [beforeClosing, if_neg h]

/-- Two marks are one mark of the text. -/
theorem beforeClosing_pair (mark : Char) (s : List Char) :
    beforeClosing mark (mark :: mark :: s) =
      (beforeClosing mark s).map fun (text, rest) => (mark :: text, rest) := by
  rw [beforeClosing, if_pos rfl, if_pos rfl]

/-- A mark that no other follows closes the text. -/
theorem beforeClosing_close {mark : Char} {rest : List Char} (h : rest.head? ≠ some mark) :
    beforeClosing mark (mark :: rest) = some ([], rest) := by
  cases rest with
  | nil => rw [beforeClosing, if_pos rfl]
  | cons d s =>
    have hd : d ≠ mark := by
      rintro rfl
      exact h rfl
    rw [beforeClosing, if_pos rfl, if_neg hd]

/-- **What is written with doubled marks is read back exactly**, up to the mark that closes it. -/
theorem beforeClosing_doubling {mark : Char} {rest : List Char} (h : rest.head? ≠ some mark)
    (s : List Char) : beforeClosing mark (doubling mark s ++ mark :: rest) = some (s, rest) := by
  induction s with
  | nil => exact beforeClosing_close h
  | cons c s ih =>
    by_cases hc : c = mark
    · rw [doubling, if_pos hc, List.cons_append, List.cons_append, beforeClosing_pair, ih, hc]
      rfl
    · rw [doubling, if_neg hc, List.cons_append, beforeClosing_cons_of_ne hc, ih]
      rfl

end LiteralRows.Text
