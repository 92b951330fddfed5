import LiteralRows.Materialize
import Mathlib.Logic.Function.Iterate

/-!
# Draining a cursor, turn by turn

`Source.drain` advances a cursor, scans it and goes on until something stops it.  A statement
about its result is a statement about what the single turns did, and this file is the way from one
to the other.

* `Source.turn` is what one turn comes to: the cells of a row that fits, or an ending.
* `Source.Reads` says that draining from a place reads certain rows and then ends in a certain way;
  it has one constructor for a turn that stops and one for a turn that goes on.
* `exists_reads` and `Reads.drain_eq`: draining always reads something and ends, and what `drain`
  gives is what is read, written as tokens.
* `Reads.turn_eq_ok` and `Reads.turn_eq_error`: the same by the number of the turn.

A place is a cursor together with the state of its source, because an advance may change both.
The scan of a row changes neither.
-/

namespace LiteralRows
namespace Source

variable {σ κ : Type} (src : Source σ κ)

/-! ## Turns -/

/-- The place that an advance leads to. -/
def next (p : κ × σ) : κ × σ :=
  (src.advance p.1 p.2).2

/-- The answer of the advance that comes after `n` others. -/
def answerAt (p : κ × σ) (n : Nat) : Except String Bool :=
  (src.advance (src.next^[n] p).1 (src.next^[n] p).2).1

/-- The answer of a scan after that advance. -/
def cellsAt (p : κ × σ) (n : Nat) : Except String (List RawCell) :=
  src.scan (src.next^[n + 1] p).1

/-- A scanned row, if there are as many cells as there are columns. -/
def fitted (width : Nat) : Except String (List RawCell) → Except Ending (List RawCell)
  | .error cause => .error (.unreadable cause)
  | .ok cells => if cells.length = width then .ok cells else .error (.misfit width cells.length)

/-- What one turn of draining comes to: the cells of a row that fits, or the ending. -/
def turn (width : Nat) (p : κ × σ) : Except Ending (List RawCell) :=
  match (src.advance p.1 p.2).1 with
  | .error cause => .error (.faulted cause)
  | .ok false => .error .exhausted
  | .ok true => fitted width (src.scan (src.next p).1)

theorem fitted_eq_ok_iff {width : Nat} {scanned : Except String (List RawCell)}
    {cells : List RawCell} :
    fitted width scanned = .ok cells ↔ scanned = .ok cells ∧ cells.length = width := by
  cases scanned with
  | error cause => exact ⟨nofun, nofun⟩
  | ok row =>
    rw [fitted]
    constructor
    · intro h
      split at h
      · rename_i hwidth
        cases h
        exact ⟨rfl, hwidth⟩
      · cases h
    · rintro ⟨⟨⟩, hwidth⟩
      rw [if_pos hwidth]

/-- A row that was reached does not end draining as a lost cursor does. -/
theorem fitted_ne_faulted (width : Nat) (scanned : Except String (List RawCell)) (cause : String) :
    fitted width scanned ≠ .error (.faulted cause) := by
  cases scanned with
  | error message =>
    intro h
    cases h
  | ok cells =>
    rw [fitted]
    by_cases hwidth : cells.length = width
    · rw [if_pos hwidth]
      intro h
      cases h
    · rw [if_neg hwidth]
      intro h
      cases h

/-- A turn goes on exactly when a row was reached, could be scanned and fits. -/
theorem turn_iterate_eq_ok_iff {width n : Nat} {p : κ × σ} {cells : List RawCell} :
    src.turn width (src.next^[n] p) = .ok cells ↔
      src.answerAt p n = .ok true ∧ src.cellsAt p n = .ok cells ∧ cells.length = width := by
  rw [turn, answerAt, cellsAt, Function.iterate_succ_apply', ← @fitted_eq_ok_iff width]
  constructor
  · intro h
    split at h
    · cases h
    · cases h
    · rename_i hadvance
      exact ⟨hadvance, h⟩
  · rintro ⟨hadvance, hfitted⟩
    rw [hadvance]
    exact hfitted

/-- Only an advance that reaches a row lets draining go on, so the bound of the cursor shrinks. -/
theorem remaining_next_lt {width : Nat} {p : κ × σ} {cells : List RawCell}
    (h : src.turn width p = .ok cells) : src.remaining (src.next p).1 < src.remaining p.1 := by
  have hgo := (src.turn_iterate_eq_ok_iff (n := 0)).mp h
  exact src.remaining_advance p.1 p.2 hgo.1

/-- **Draining by turns.**  An ending turn ends draining; any other turn writes its row and leaves
the rest to draining from the next place. -/
theorem drain_eq_of_turn (q : Quoting) (columns : List Column) (p : κ × σ) :
    src.drain q columns p.1 p.2 =
      match src.turn columns.length p with
      | .error ending =>
        { rows := [], ending, cursor := (src.next p).1, state := (src.next p).2 }
      | .ok cells =>
        let more := src.drain q columns (src.next p).1 (src.next p).2
        { more with rows := Token.ofRow q columns cells :: more.rows } := by
  rw [drain.eq_1 src q columns p.1 p.2]
  unfold turn next
  -- one case for each answer of the advance
  split <;> rename_i hadvance <;> rw [hadvance]
  dsimp only
  cases src.scan _ with
  | error cause => rfl
  | ok cells =>
    rw [fitted]
    by_cases hwidth : cells.length = columns.length
    · simp only [if_pos hwidth]
    · simp only [if_neg hwidth]

/-! ## Runs -/

/-- Draining from a place reads these rows, in this order, and ends like this. -/
inductive Reads (width : Nat) : κ × σ → List (List RawCell) → Ending → Prop
  | stop {p : κ × σ} {ending : Ending} (h : src.turn width p = .error ending) :
    Reads width p [] ending
  | row {p : κ × σ} {cells : List RawCell} {rows : List (List RawCell)} {ending : Ending}
    (h : src.turn width p = .ok cells) (more : Reads width (src.next p) rows ending) :
    Reads width p (cells :: rows) ending

/-- Draining always comes to an end, because reaching a row uses up the bound of the cursor. -/
theorem exists_reads (width : Nat) (p : κ × σ) : ∃ rows ending, src.Reads width p rows ending := by
  induction hn : src.remaining p.1 using Nat.strongRecOn generalizing p with
  | ind n ih =>
    cases hturn : src.turn width p with
    | error ending => exact ⟨[], ending, .stop hturn⟩
    | ok cells =>
      have hlt := src.remaining_next_lt hturn
      rw [hn] at hlt
      obtain ⟨rows, ending, hmore⟩ := ih _ hlt (src.next p) rfl
      exact ⟨cells :: rows, ending, .row hturn hmore⟩

variable {src} {width : Nat} {p : κ × σ} {rows : List (List RawCell)} {ending : Ending}

/-- **What is read is what draining gives**, each row written as tokens. -/
theorem Reads.drain_eq {columns : List Column} (q : Quoting)
    (h : src.Reads columns.length p rows ending) :
    src.drain q columns p.1 p.2 =
      { rows := rows.map (Token.ofRow q columns), ending,
        cursor := (src.next^[rows.length + 1] p).1,
        state := (src.next^[rows.length + 1] p).2 } := by
  induction h with
  | stop h => rw [drain_eq_of_turn, h]; rfl
  | row h more ih => rw [drain_eq_of_turn, h]; dsimp only; rw [ih]; rfl

/-- The turn that reads a row is the one with the row's number. -/
theorem Reads.turn_eq_ok (h : src.Reads width p rows ending) (i : Nat) (hi : i < rows.length) :
    src.turn width (src.next^[i] p) = .ok rows[i] := by
  induction h generalizing i with
  | stop h => cases hi
  | row h more ih =>
    cases i with
    | zero => exact h
    | succ i => exact ih i (Nat.lt_of_succ_lt_succ hi)

/-- The turn after the last row ends draining. -/
theorem Reads.turn_eq_error (h : src.Reads width p rows ending) :
    src.turn width (src.next^[rows.length] p) = .error ending := by
  induction h with
  | stop h => exact h
  | row h more ih => exact ih

/-- Only rows that fit are read. -/
theorem Reads.length_eq (h : src.Reads width p rows ending) :
    ∀ cells ∈ rows, cells.length = width := by
  induction h with
  | stop h => exact List.forall_mem_nil _
  | row h more ih =>
    refine List.forall_mem_cons.mpr ⟨?_, ih⟩
    exact ((src.turn_iterate_eq_ok_iff (n := 0)).mp h).2.2

/-! ## Queries -/

@[simp] theorem length_columnsOf (src : Source σ κ) (cursor : κ)
    (described : List (String × String)) :
    (src.columnsOf cursor described).length = described.length :=
  List.length_map _

/-- A query that is executed and described gives the rows that are read after that. -/
theorem Reads.run_eq {sql : String} {state opened ready : σ} {cursor : κ}
    {described : List (String × String)} (q : Quoting)
    (hopen : src.openCursor sql state = (.ok cursor, opened))
    (hdescribe : src.describe cursor opened = (.ok described, ready))
    (h : src.Reads described.length (cursor, ready) rows ending) :
    (src.run q sql state).1 =
      .drained
        { columns := src.columnsOf cursor described,
          rows := rows.map (Token.ofRow q (src.columnsOf cursor described)) }
        ending := by
  rw [← src.length_columnsOf cursor described] at h
  have hdrain := h.drain_eq q
  dsimp only at hdrain
  simp only [run, hopen, hdescribe, hdrain]

end Source
end LiteralRows
