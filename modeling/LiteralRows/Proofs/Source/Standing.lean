import LiteralRows.Proofs.Source.Scripted
import LiteralRows.Proofs.Source.Streaming
import LiteralRows.Sqlite.Engine

/-!
# Where a cursor stands

A cursor is described, advanced and scanned in any order.  Where it stands follows from the answers
of its advances alone: in front of the rows, on one of them, or past them once an advance has found
no further row, whether at the end or at a failure (`Standing`).

* A streaming cursor gives a row only while it stands on one, and then that row
  (`StreamsAt.answersAt`).
* A scripted cursor does the same in front of its rows and on them, but it keeps its last row:
  past the rows that row is still scanned (`ScriptAt.answersAt`, `scan_past_last_row`).
* Neither finds another row once it has not found one.

For each kind of cursor a step lemma says where an advance leads (`StreamsAt.next`,
`ScriptAt.next`), and `Source.standingAfter_induction` takes it through any calls.
`scan_by_standing` is the main statement.
-/

namespace LiteralRows

/-! ## Places -/

/-- Where the answers of a cursor's advances have led. -/
inductive Standing where
  /-- Before the first advance. -/
  | front
  /-- On the row with this number, counted from zero. -/
  | on (i : Nat)
  /-- Past so many rows: the last advance has found no further one. -/
  | past (n : Nat)
  deriving DecidableEq, Repr

namespace Standing

/-- The number of rows reached. -/
def reached : Standing → Nat
  | front => 0
  | on i => i + 1
  | past n => n

/-- The place after an advance with this answer. -/
def moved {ε : Type} (place : Standing) : Except ε Bool → Standing
  | .ok true => on place.reached
  | _ => past place.reached

theorem moved_mapError {ε ε' : Type} (f : ε → ε') (place : Standing) (answer : Except ε Bool) :
    place.moved (answer.mapError f) = place.moved answer := by
  rcases answer with e | _ | _ <;> rfl

end Standing

/-! ## Calls -/

namespace Source

variable {σ κ : Type} (src : Source σ κ)

/-- A call on a cursor. -/
inductive Call where
  | describe
  | advance
  | scan
  deriving DecidableEq, Repr

/-- The cursor and its source after a call. -/
def afterCall (p : κ × σ) : Call → κ × σ
  | .describe => (p.1, (src.describe p.1 p.2).2)
  | .advance => src.next p
  | .scan => p

/-- The cursor and its source after some calls. -/
def afterCalls (calls : List Call) (p : κ × σ) : κ × σ :=
  calls.foldl src.afterCall p

/-- The answers of the advances among some calls, in order. -/
def answers : List Call → κ × σ → List (Except String Bool)
  | [], _ => []
  | .advance :: calls, p => (src.advance p.1 p.2).1 :: answers calls (src.next p)
  | call :: calls, p => answers calls (src.afterCall p call)

/-- Where some calls have led a cursor that has not been advanced before. -/
def standingAfter (calls : List Call) (p : κ × σ) : Standing :=
  (src.answers calls p).foldl Standing.moved .front

/-- **From one advance to all calls.**  What holds of a new cursor in front of its rows, and what an
advance takes along to the place that its answer names, holds after any calls at the place where
they have led. -/
theorem standingAfter_induction (At : Standing → κ → Prop)
    (hadvance : ∀ place p, At place p.1 →
      At (place.moved (src.advance p.1 p.2).1) (src.next p).1)
    (calls : List Call) {p : κ × σ} (h : At .front p.1) :
    At (src.standingAfter calls p) (src.afterCalls calls p).1 := by
  suffices hrun : ∀ calls place p, At place p.1 →
      At ((src.answers calls p).foldl Standing.moved place) (src.afterCalls calls p).1 from
    hrun calls .front p h
  intro calls
  induction calls with
  | nil => exact fun _ _ h => h
  | cons call calls ih =>
    intro place p h
    cases call with
    | describe => exact ih place (src.afterCall p .describe) h
    | advance => exact ih _ (src.next p) (hadvance place p h)
    | scan => exact ih place p h

end Source

/-! ## Streaming cursors -/

section Streams

variable {ε α : Type} {items : List (Except ε α)} {place : Standing} {s : RowStream ε α}

/-- The stream stands at a place among its items. -/
inductive StreamsAt (items : List (Except ε α)) : Standing → RowStream ε α → Prop
  | front {s : RowStream ε α} (hdue : s.due = items) (hcurrent : s.current = none) :
    StreamsAt items .front s
  | on {s : RowStream ε α} {i : Nat} {row : α} (hrow : items[i]? = some (.ok row))
    (hdue : s.due = items.drop (i + 1)) (hcurrent : s.current = some row) :
    StreamsAt items (.on i) s
  | past (n : Nat) : StreamsAt items (.past n) { stream := none }

/-- An advance takes the next item, whatever place it starts from. -/
theorem streamsAt_next_of_due (hdue : s.due = items.drop place.reached) :
    StreamsAt items (place.moved s.advance.1) s.next := by
  match hfront : items.drop place.reached with
  | [] =>
    have hadvance := RowStream.advance_of_due_eq_nil (hdue.trans hfront)
    rw [RowStream.next, hadvance]
    exact .past _
  | .error e :: later =>
    have hadvance := RowStream.advance_of_due_eq_error (hdue.trans hfront)
    rw [RowStream.next, hadvance]
    exact .past _
  | .ok row :: later =>
    obtain ⟨hanswer, hcurrent, -, hlater⟩ :=
      RowStream.advance_of_due_eq_cons (hdue.trans hfront)
    rw [hanswer]
    refine .on ?_ ?_ hcurrent
    · rw [← List.head?_drop, hfront]
      rfl
    · rw [hlater, ← List.tail_drop, hfront]
      rfl

/-- **One advance of a stream.** -/
theorem StreamsAt.next (h : StreamsAt items place s) :
    StreamsAt items (place.moved s.advance.1) s.next := by
  cases h with
  | front hdue _ => exact streamsAt_next_of_due hdue
  | on _ hdue _ => exact streamsAt_next_of_due hdue
  | past n => exact .past n

variable {δ ρ : Type} {engine : Pooled.Engine δ ρ ε}

/-- What a scan and a further advance of a streaming cursor give at a place. -/
def Pooled.Engine.AnswersAt (engine : Pooled.Engine δ ρ ε) (items : List (Except ε ρ))
    (p : Pooled.Cursor ρ ε × Pooled.State δ) : Standing → Prop
  | .front => engine.source.scan p.1 = .error "no current row to scan"
  | .on i => ∃ row, items[i]? = some (.ok row) ∧ engine.source.scan p.1 = engine.cells row
  | .past _ => engine.source.scan p.1 = .error "no current row to scan" ∧
      (engine.source.advance p.1 p.2).1 = .ok false

theorem streamsAt_next_pooled {items : List (Except ε ρ)}
    {p : Pooled.Cursor ρ ε × Pooled.State δ} (h : StreamsAt items place p.1.rows) :
    StreamsAt items (place.moved (engine.source.advance p.1 p.2).1)
      (engine.source.next p).1.rows := by
  rw [answer_pooled, rows_next_pooled, Standing.moved_mapError]
  exact h.next

/-- A cursor is opened in front of the items of its query. -/
theorem streamsAt_of_openCursor {sql : String} {state : Pooled.State δ} {k : Pooled.Cursor ρ ε}
    (h : (engine.source.openCursor sql state).1 = .ok k) :
    StreamsAt (engine.run sql state.database).1 .front k.rows := by
  change (engine.openCursor sql state).1 = _ at h
  simp only [Pooled.Engine.openCursor] at h
  split at h
  · cases h
  · split at h
    · cases h
    · rename_i rows hstart
      cases h
      obtain ⟨hdue, hcurrent, -⟩ := RowStream.start_eq_ok hstart
      exact .front hdue hcurrent

/-- **A streaming cursor gives a row only while it stands on one.** -/
theorem StreamsAt.answersAt {items : List (Except ε ρ)}
    {p : Pooled.Cursor ρ ε × Pooled.State δ} (h : StreamsAt items place p.1.rows) :
    engine.AnswersAt items p place := by
  obtain ⟨⟨sql, rows⟩, state⟩ := p
  have hscan : engine.source.scan { sql, rows } = engine.scan { sql, rows } := rfl
  cases h with
  | front hdue hcurrent =>
    show engine.source.scan { sql, rows } = _
    rw [hscan, Pooled.Engine.scan, hcurrent]
  | @on _ i row hrow hdue hcurrent =>
    refine ⟨row, hrow, ?_⟩
    rw [hscan, Pooled.Engine.scan, hcurrent]
  | past n => exact ⟨rfl, rfl⟩

end Streams

/-! ## Scripted cursors -/

section Scripts

open Scripted (Script Book Cursor)

variable {script : Script} {place : Standing} {k : Cursor}

/-- The cursor stands at a place among the rows of its script. -/
inductive ScriptAt (script : Script) : Standing → Cursor → Prop
  | front : ScriptAt script .front { script }
  | on {i : Nat} (hi : i < script.rows.length) :
    ScriptAt script (.on i) { script, position := i + 1 }
  | past {n : Nat} {faulted : Bool} (hn : n ≤ script.rows.length)
    (hstop : faulted = true ∨ n = script.rows.length ∧ script.failAfter ≠ some n) :
    ScriptAt script (.past n) { script, position := n, faulted }

/-- An advance from among the rows goes on to the next one, or past them. -/
theorem scriptAt_next_of_position (place : Standing) (hn : place.reached ≤ script.rows.length) :
    ScriptAt script (place.moved (Cursor.advance { script, position := place.reached }).1)
      (Cursor.advance { script, position := place.reached }).2 := by
  by_cases hfail : script.failAfter = some place.reached
  · rw [Cursor.advance, if_neg Bool.false_ne_true, if_pos hfail]
    exact .past hn (.inl rfl)
  rcases Nat.lt_or_eq_of_le hn with hlt | heq
  · rw [advance_scripted_of_lt hfail hlt]
    exact .on hlt
  · rw [Cursor.advance, if_neg Bool.false_ne_true, if_neg hfail,
      if_neg (Nat.not_lt.mpr (Nat.le_of_eq heq.symm))]
    exact .past hn (.inr ⟨heq, hfail⟩)

/-- Past its rows, a scripted cursor finds no further one and stays where it is. -/
theorem advance_scripted_of_past {n : Nat} {faulted : Bool}
    (hstop : faulted = true ∨ n = script.rows.length ∧ script.failAfter ≠ some n) :
    Cursor.advance { script, position := n, faulted } =
      (.ok false, { script, position := n, faulted }) := by
  rw [Cursor.advance]
  rcases hstop with rfl | ⟨rfl, hfail⟩
  · rw [if_pos rfl]
  · cases faulted with
    | true => rw [if_pos rfl]
    | false => rw [if_neg Bool.false_ne_true, if_neg hfail, if_neg (Nat.lt_irrefl _)]

/-- **One advance of a scripted cursor.** -/
theorem ScriptAt.next (h : ScriptAt script place k) :
    ScriptAt script (place.moved k.advance.1) k.advance.2 := by
  cases h with
  | front => exact scriptAt_next_of_position .front (Nat.zero_le _)
  | @on i hi => exact scriptAt_next_of_position (.on i) hi
  | past hn hstop =>
    rw [advance_scripted_of_past hstop]
    exact .past hn hstop

/-- The row with this number as a scan gives it, unless the script says that it cannot be
scanned. -/
def Scripted.Script.scanned (script : Script) (i : Nat) (cells : List RawCell) :
    Except String (List RawCell) :=
  if script.failScanAt = some (i + 1) then .error ("cannot decode row " ++ toString (i + 1))
  else .ok cells

/-- What a scan and a further advance of a scripted cursor give at a place.  Past the rows it is
the last row reached that is scanned. -/
def Scripted.Book.AnswersAt (book : Book) (script : Script) (p : Cursor × Scripted.State) :
    Standing → Prop
  | .front => book.source.scan p.1 = .error "no current row to scan"
  | .on i => ∃ cells, script.rows[i]? = some cells ∧
      book.source.scan p.1 = script.scanned i cells
  | .past 0 => book.source.scan p.1 = .error "no current row to scan" ∧
      (book.source.advance p.1 p.2).1 = .ok false
  | .past (i + 1) => (∃ cells, script.rows[i]? = some cells ∧
      book.source.scan p.1 = script.scanned i cells) ∧
      (book.source.advance p.1 p.2).1 = .ok false

/-- The row before the position is the one that is scanned. -/
theorem exists_scan_scripted {i : Nat} {faulted : Bool} (hi : i < script.rows.length) :
    ∃ cells, script.rows[i]? = some cells ∧
      Cursor.scan { script, position := i + 1, faulted } = script.scanned i cells := by
  refine ⟨script.rows[i], List.getElem?_eq_getElem hi, ?_⟩
  rw [Cursor.scan, if_neg (Nat.succ_ne_zero i), Nat.add_sub_cancel, List.getElem?_eq_getElem hi,
    Option.getD_some, Script.scanned]

theorem scriptAt_of_openCursor {book : Book} {sql : String} {state : Scripted.State} {k : Cursor}
    (h : (book.source.openCursor sql state).1 = .ok k) :
    ScriptAt (book.scriptFor sql) .front k := by
  cases hexecute : (book.scriptFor sql).failExecute with
  | some cause =>
    simp only [Book.source, hexecute] at h
    cases h
  | none =>
    rw [openCursor_scripted hexecute] at h
    cases h
    exact .front

/-- **A scripted cursor gives no row in front of its rows, and keeps the last one past them.** -/
theorem ScriptAt.answersAt {book : Book} {p : Cursor × Scripted.State}
    (h : ScriptAt script place p.1) : book.AnswersAt script p place := by
  obtain ⟨k, state⟩ := p
  cases h with
  | front => exact rfl
  | on hi => exact exists_scan_scripted hi
  | @past n faulted hn hstop =>
    have hadvance : (book.source.advance { script, position := n, faulted } state).1 = .ok false :=
      congrArg Prod.fst (advance_scripted_of_past hstop)
    cases n with
    | zero => exact ⟨rfl, hadvance⟩
    | succ i => exact ⟨exists_scan_scripted hn, hadvance⟩

end Scripts

/-! ## Any calls -/

/-- **What a cursor gives depends on where it stands.**  After any calls a streaming cursor gives
the row that the last advance reached, if that advance reached one; in front of the rows and past
them a scan is an error.  A scripted cursor answers alike, except that past its rows it still gives
the last of them.  Past the rows both kinds of cursor answer every advance with false. -/
theorem scan_by_standing (sql : String) (calls : List Source.Call) :
    (∀ {δ ρ ε : Type} (engine : Pooled.Engine δ ρ ε) (state : Pooled.State δ)
        (k : Pooled.Cursor ρ ε), (engine.source.openCursor sql state).1 = .ok k →
      let p := (k, (engine.source.openCursor sql state).2)
      engine.AnswersAt (engine.run sql state.database).1 (engine.source.afterCalls calls p)
        (engine.source.standingAfter calls p)) ∧
    ∀ (book : Scripted.Book) (state : Scripted.State) (k : Scripted.Cursor),
      (book.source.openCursor sql state).1 = .ok k →
      let p := (k, (book.source.openCursor sql state).2)
      book.AnswersAt (book.scriptFor sql) (book.source.afterCalls calls p)
        (book.source.standingAfter calls p) := by
  refine ⟨fun engine state k hopen => ?_, fun book state k hopen => ?_⟩
  · exact StreamsAt.answersAt <|
      engine.source.standingAfter_induction (fun place k => StreamsAt _ place k.rows)
        (fun _ _ h => streamsAt_next_pooled h) calls (streamsAt_of_openCursor hopen)
  · exact ScriptAt.answersAt <|
      book.source.standingAfter_induction _ (fun _ _ h => h.next) calls
        (scriptAt_of_openCursor hopen)

/-- A query with one row on either kind of source, scanned on its row and past it. -/
theorem scan_by_standing_of_one_row :
    let sql := "SELECT n FROM t"
    let store := ({} : Sqlite.Store).define sql [.literals ["n"] [[.integer 1]]]
    let state := Sqlite.opened store 1
    let book : Scripted.Book := { fallback := { rows := [[some [0x31]]] } }
    (∃ k, (Sqlite.source.openCursor sql state).1 = .ok k ∧
      let p := (k, (Sqlite.source.openCursor sql state).2)
      Sqlite.source.scan (Sqlite.source.afterCalls [.advance] p).1 = .ok [some [0x31]] ∧
        Sqlite.source.scan (Sqlite.source.afterCalls [.advance, .advance] p).1 =
          .error "no current row to scan") ∧
    ∃ k, (book.source.openCursor sql {}).1 = .ok k ∧
      let p := (k, (book.source.openCursor sql {}).2)
      book.source.scan (book.source.afterCalls [.advance] p).1 = .ok [some [0x31]] ∧
        (book.source.advance (book.source.afterCalls [.advance, .advance] p).1
          (book.source.afterCalls [.advance, .advance] p).2).1 = .ok false := by
  intro sql store state book
  obtain ⟨hon, -⟩ := scan_by_standing sql [.advance]
  obtain ⟨hpast, hpast'⟩ := scan_by_standing sql [.advance, .advance]
  refine ⟨⟨_, rfl, ?_, ?_⟩, ⟨_, rfl, ?_, ?_⟩⟩
  · obtain ⟨row, hrow, hscan⟩ := hon Sqlite.engine state _ rfl
    cases hrow
    exact hscan
  · exact (hpast Sqlite.engine state _ rfl).1
  · rfl
  · exact (hpast' book {} _ rfl).2

/-- **Past its rows a scripted cursor still gives the last of them**, at the end and after a
failure alike. -/
theorem scan_past_last_row :
    let script (failAfter : Option Nat) : Scripted.Script := { rows := [[some [0x31]]], failAfter }
    let calls : List Source.Call := [.advance, .advance]
    let source (failAfter : Option Nat) := Scripted.Book.source { fallback := script failAfter }
    let opened (failAfter : Option Nat) : Scripted.Cursor × Scripted.State :=
      ({ script := script failAfter }, {})
    (source none).answers calls (opened none) = [.ok true, .ok false] ∧
      (source none).scan ((source none).afterCalls calls (opened none)).1 = .ok [some [0x31]] ∧
      (source (some 1)).answers calls (opened (some 1)) =
        [.ok true, .error ("connection lost after row " ++ toString 1)] ∧
      (source (some 1)).scan ((source (some 1)).afterCalls calls (opened (some 1))).1 =
        .ok [some [0x31]] :=
  ⟨rfl, rfl, rfl, rfl⟩

end LiteralRows
