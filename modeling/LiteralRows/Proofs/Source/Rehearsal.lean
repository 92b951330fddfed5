import LiteralRows.Proofs.Simulation
import LiteralRows.Proofs.Source.Scripted
import LiteralRows.Proofs.Source.Streaming

/-!
# Scripted sources rehearse streaming ones

Failures are injected into scripted sources, but the sources that matter stream their rows from a
database.  The two keep different states: a stream has one row of lookahead and a current row, a
scripted cursor a position and a mark that it has broken down.

* `Plays` says when a stream delivers what a script says: the same rows, cells and columns, and an
  error where the script has a breakdown.
* `inStep_of_plays` is the simulation.  A stream with the rows from number `n` on still due is
  related to a scripted cursor at position `n`.
* `materialize_alike_rehearsal`: materializing a query gives the same on both, up to the texts of
  failures.

A script can break down before its first row while the cursor is open, and a stream cannot: an
error that comes first is noticed on opening, so it rejects the query.
-/

namespace LiteralRows

open Scripted (Script Book)

variable {δ ρ ε : Type}

/-! ## Streams under a script -/

/-- The stream of a query delivers what the script says: these rows, each with the columns and the
cells of the script, and then what `after` holds, which begins with an error exactly if the script
breaks down.  A breakdown comes after at least one row. -/
structure Plays (engine : Pooled.Engine δ ρ ε) (sql : String) (state : Pooled.State δ)
    (script : Script) (rows : List ρ) (after : List (Except ε ρ)) : Prop where
  /-- The pool hands out a connection. -/
  free : state.pool.fault? = none
  stream : (engine.run sql state.database).1 = rows.map .ok ++ after
  length_eq : rows.length = script.failAfter.getD script.rows.length
  after_eq : script.failAfter = none → after = []
  breakdown : ∀ j, script.failAfter = some j →
    1 ≤ j ∧ j ≤ script.rows.length ∧ ∃ e later, after = .error e :: later
  columns : ∀ row, rows.head? = some row → engine.columns row = script.columns
  prepared : rows = [] →
    engine.prepare sql (engine.run sql state.database).2 = .ok script.columns
  cells : ∀ (i : Nat) (hi : i < rows.length), script.failScanAt ≠ some (i + 1) →
    engine.cells rows[i] = .ok ((script.rows[i]?).getD [])
  unreadable : ∀ (i : Nat) (hi : i < rows.length), script.failScanAt = some (i + 1) →
    ∃ cause, engine.cells rows[i] = .error cause
  executes : script.failExecute = none
  describes : script.failDescribe = none

namespace Plays

variable {engine : Pooled.Engine δ ρ ε} {sql : String} {state : Pooled.State δ} {script : Script}
  {rows : List ρ} {after : List (Except ε ρ)}

theorem length_le (h : Plays engine sql state script rows after) :
    rows.length ≤ script.rows.length := by
  rw [h.length_eq]
  cases hfail : script.failAfter with
  | none => exact Nat.le_refl _
  | some j => exact (h.breakdown j hfail).2.1

/-- Scanning a row of the stream and scanning it in the script give the same, up to the text of a
failure. -/
theorem scan_eq (h : Plays engine sql state script rows after) {i : Nat} (hi : i < rows.length) :
    (engine.cells rows[i]).mapError (fun _ => "") =
      (Scripted.Cursor.scan { script, position := i + 1 }).mapError fun _ => "" := by
  rw [Scripted.Cursor.scan, if_neg (Nat.succ_ne_zero i)]
  by_cases hscan : script.failScanAt = some (i + 1)
  · obtain ⟨cause, hcells⟩ := h.unreadable i hi hscan
    rw [hcells, if_pos hscan]
    rfl
  · rw [h.cells i hi hscan, if_neg hscan, Nat.add_sub_cancel]

end Plays

/-! ## The simulation -/

/-- The stream still owes the rows from number `n` on, and the scripted cursor is at position
`n`. -/
def AtRow (script : Script) (rows : List ρ) (after : List (Except ε ρ))
    (p : Pooled.Cursor ρ ε × Pooled.State δ) (r : Scripted.Cursor × Scripted.State) : Prop :=
  ∃ n, n ≤ rows.length ∧ p.1.rows.due = (rows.drop n).map .ok ++ after ∧
    r.1 = { script, position := n }

section Simulation

variable {engine : Pooled.Engine δ ρ ε} {sql : String} {state : Pooled.State δ} {script : Script}
  {rows : List ρ} {after : List (Except ε ρ)} {book : Book} {width : Nat}

/-- **A stream and the script that it plays are in step.** -/
theorem inStep_of_plays (h : Plays engine sql state script rows after) :
    Source.InStep engine.source book.source width (AtRow script rows after) := by
  rintro p r ⟨n, hn, hdue, hr⟩
  rcases Nat.lt_or_eq_of_le hn with hlt | heq
  · -- both reach row `n`
    have hfail : script.failAfter ≠ some n := by
      intro hfail
      have hlen := h.length_eq
      rw [hfail, Option.getD_some] at hlen
      exact Nat.ne_of_gt hlt hlen
    have hscript := Nat.lt_of_lt_of_le hlt h.length_le
    rw [List.drop_eq_getElem_cons hlt, List.map_cons, List.cons_append] at hdue
    refine ⟨?_, fun _ _ => ⟨n + 1, hlt, due_next_pooled hdue, ?_⟩⟩
    · rw [turn_pooled_of_due_eq_cons hdue, turn_scripted_of_lt hr hfail hscript]
      exact Source.mapError_outline_fitted width (h.scan_eq hlt)
    · rw [next_scripted, hr, advance_scripted_of_lt hfail hscript]
  · -- both are past the last row
    have hlen := h.length_eq
    rw [heq, List.drop_length, List.map_nil, List.nil_append] at hdue
    cases hfail : script.failAfter with
    | none =>
      rw [hfail, Option.getD_none, ← heq] at hlen
      rw [h.after_eq hfail] at hdue
      have hnot : script.failAfter ≠ some n := by
        rw [hfail]
        exact nofun
      rw [turn_pooled_of_due_eq_nil hdue, turn_scripted_of_le hr hnot (Nat.le_of_eq hlen.symm)]
      exact ⟨rfl, nofun⟩
    | some j =>
      rw [hfail, Option.getD_some, ← heq] at hlen
      obtain ⟨-, -, e, later, hafter⟩ := h.breakdown j hfail
      rw [hafter] at hdue
      rw [turn_pooled_of_due_eq_error hdue, turn_scripted_of_failAfter hr (hlen ▸ hfail)]
      exact ⟨rfl, nofun⟩

/-- A stream with rows is described by its first row, and one without by its query. -/
theorem exists_opened_of_plays (h : Plays engine sql state script rows after) :
    ∃ cursor opened, engine.source.openCursor sql state = (.ok cursor, opened) ∧
      engine.source.describe cursor opened = (.ok script.columns, opened) ∧
      cursor.rows.due = rows.map .ok ++ after := by
  have hstream := h.stream
  cases rows with
  | nil =>
    have hafter : after = [] := by
      cases hfail : script.failAfter with
      | none => exact h.after_eq hfail
      | some j =>
        have hlen := h.length_eq
        rw [hfail, Option.getD_some, List.length_nil] at hlen
        exact absurd (h.breakdown j hfail).1 (Nat.not_le.mpr (hlen ▸ Nat.zero_lt_one))
    subst hafter
    have hopen := openCursor_pooled h.free (congrArg RowStream.start hstream)
    refine ⟨_, _, hopen, ?_, rfl⟩
    rw [describe_pooled]
    simp only [Pooled.Engine.describe, RowStream.isOpen, Option.isSome_none, Bool.false_eq_true,
      if_false, h.free, h.prepared rfl]
    rfl
  | cons row rows =>
    have hopen := openCursor_pooled h.free (congrArg RowStream.start hstream)
    refine ⟨_, _, hopen, ?_, rfl⟩
    rw [describe_pooled]
    simp only [Pooled.Engine.describe, h.columns row rfl]

/-- **A stream and its rehearsal are alike.** -/
theorem run_alike_of_plays (h : Plays engine sql state (book.scriptFor sql) rows after)
    (hbackend : book.backend = engine.backend) (q : Quoting) (played : Scripted.State) :
    (engine.source.run q sql state).1.Alike (book.source.run q sql played).1 := by
  obtain ⟨cursor, opened, hopen, hdescribe, hdue⟩ := exists_opened_of_plays h
  refine Source.run_alike_of_inStep q (inStep_of_plays h) ⟨0, Nat.zero_le _, hdue, rfl⟩ hopen
    hdescribe (openCursor_scripted h.executes played) (describe_scripted h.describes _) ?_
  show engine.backend.classify = book.backend.classify
  rw [hbackend]

end Simulation

/-! ## Errors before the first row -/

section FirstError

variable {engine : Pooled.Engine δ ρ ε} {sql : String} {state : Pooled.State δ} {book : Book}

theorem run_scripted_of_failExecute {cause : String} {played : Scripted.State} (q : Quoting)
    (h : (book.scriptFor sql).failExecute = some cause) :
    (book.source.run q sql played).1 = .rejected cause := by
  have hopen : book.source.openCursor sql played =
      (.error cause, { played with executed := played.executed ++ [sql] }) := by
    simp only [Book.source, h]
  simp only [Source.run, hopen]

/-- A cursor that was opened holds a started stream. -/
theorem exists_start_of_opened {cursor : Pooled.Cursor ρ ε} {opened : Pooled.State δ}
    (hopen : engine.source.openCursor sql state = (.ok cursor, opened)) :
    ∃ items, RowStream.start items = .ok cursor.rows := by
  change engine.openCursor sql state = (.ok cursor, opened) at hopen
  rw [Pooled.Engine.openCursor] at hopen
  split at hopen
  · cases hopen
  · dsimp only at hopen
    split at hopen
    · cases hopen
    · rename_i hstart
      cases hopen
      exact ⟨_, hstart⟩

/-- The first advance of an opened stream does not fail: its error would have come on opening. -/
theorem turn_opened_ne_faulted {cursor : Pooled.Cursor ρ ε} {opened ready : Pooled.State δ}
    (hopen : engine.source.openCursor sql state = (.ok cursor, opened)) (width : Nat)
    (cause : String) : engine.source.turn width (cursor, ready) ≠ .error (.faulted cause) := by
  obtain ⟨items, hstart⟩ := exists_start_of_opened hopen
  have hdue := (RowStream.start_eq_ok hstart).1
  match items with
  | [] =>
    rw [turn_pooled_of_due_eq_nil hdue]
    intro h
    cases h
  | .error e :: items => cases hstart
  | .ok row :: items =>
    rw [turn_pooled_of_due_eq_cons hdue]
    exact Source.fitted_ne_faulted width _ cause

/-- Only a lost cursor brings a terminal failure, and it counts the rows that were kept. -/
theorem failure?_drained_eq_cursorTerminal {result : ResultSet} {ending : Ending} {rows : Nat}
    {cause : String}
    (h : (Materialization.drained result ending).failure? = some (.cursorTerminal rows cause)) :
    result.rowCount = rows ∧ ending = .faulted cause := by
  cases ending with
  | faulted message =>
    simp only [Materialization.failure?, Ending.failure?, Option.some.injEq,
      Failure.cursorTerminal.injEq] at h
    exact ⟨h.1, congrArg _ h.2⟩
  | exhausted => cases h
  | unreadable message => cases h
  | misfit expected got => cases h

/-- **A streaming source never breaks down before its first row.** -/
theorem run_pooled_failure?_ne (engine : Pooled.Engine δ ρ ε) (q : Quoting) (sql : String)
    (state : Pooled.State δ) (cause : String) :
    (engine.source.run q sql state).1.failure? ≠ some (.cursorTerminal 0 cause) := by
  rcases hopen : engine.source.openCursor sql state with ⟨message | cursor, opened⟩
  · simp only [Source.run, hopen]
    intro h
    cases h
  · rcases hdescribe : engine.source.describe cursor opened with ⟨message | described, ready⟩
    · simp only [Source.run, hopen, hdescribe]
      intro h
      cases h
    · obtain ⟨rows, ending, hreads⟩ :=
        engine.source.exists_reads described.length (cursor, ready)
      rw [hreads.run_eq q hopen hdescribe]
      intro hfail
      obtain ⟨hcount, rfl⟩ := failure?_drained_eq_cursorTerminal hfail
      rw [ResultSet.rowCount, List.length_map, List.length_eq_zero_iff] at hcount
      subst hcount
      exact turn_opened_ne_faulted hopen described.length cause hreads.turn_eq_error

end FirstError

/-- **Materializing a stream and materializing its rehearsal give the same**: the same columns and
rows, and success or a failure of the same kind at the same row.  An error that comes first is the
failed execution of a rehearsal, so no stream breaks down after zero rows. -/
theorem materialize_alike_rehearsal (engine : Pooled.Engine δ ρ ε) (book : Book)
    (hbackend : book.backend = engine.backend) (q : Quoting) (sql : String)
    (w : Watched (Pooled.State δ)) (v : Watched Scripted.State) :
    let streamed := (engine.source.materialize q sql w).1
    let rehearsed := (book.source.materialize q sql v).1
    (∀ rows after, Plays engine sql w.state (book.scriptFor sql) rows after →
        streamed.Alike rehearsed) ∧
      (∀ e later cause, w.state.pool.fault? = none →
        (engine.run sql w.state.database).1 = .error e :: later →
        (book.scriptFor sql).failExecute = some cause →
        streamed.Alike rehearsed ∧ streamed.result = { columns := [], rows := [] } ∧
          streamed.failure? = some (.execution (engine.rejection e))) ∧
      ∀ cause, streamed.failure? ≠ some (.cursorTerminal 0 cause) := by
  refine ⟨fun rows after h => run_alike_of_plays h hbackend q v.state, ?_,
    run_pooled_failure?_ne engine q sql w.state⟩
  intro e later cause hfree hrun hfail
  have hstreamed : (engine.source.materialize q sql w).1 = .rejected (engine.rejection e) :=
    run_pooled_of_first_error q hfree hrun
  have hrehearsed : (book.source.materialize q sql v).1 = .rejected cause :=
    run_scripted_of_failExecute q hfail
  rw [hstreamed, hrehearsed]
  exact ⟨⟨rfl, rfl⟩, rfl, rfl⟩

/-! ## Every script is played -/

/-- What the stream of a script ends with: an error if the script breaks down. -/
def breakdownOf (script : Script) : List (Except String Nat) :=
  (script.failAfter.map fun j => .error ("connection lost after row " ++ toString j)).toList

/-- A database that answers every query with the stream of a script; its rows are the numbers of
the rows, from zero. -/
def engineOf (script : Script) (backend : Backend) : Pooled.Engine Unit Nat String where
  backend
  run _ database :=
    ((List.range (script.failAfter.getD script.rows.length)).map .ok ++ breakdownOf script,
      database)
  prepare _ _ := .ok script.columns
  columns _ := script.columns
  cells i :=
    if script.failScanAt = some (i + 1) then .error ("cannot decode row " ++ toString (i + 1))
    else .ok ((script.rows[i]?).getD [])
  rejection := id
  breakdown := id

/-- Every script that breaks down at one of its rows, if at all, has a stream that plays it. -/
theorem plays_engineOf {script : Script} (hexecute : script.failExecute = none)
    (hdescribe : script.failDescribe = none)
    (hbreakdown : ∀ j, script.failAfter = some j → 1 ≤ j ∧ j ≤ script.rows.length)
    (backend : Backend) (sql : String) (state : Pooled.State Unit)
    (hfree : state.pool.fault? = none) :
    Plays (engineOf script backend) sql state script
      (List.range (script.failAfter.getD script.rows.length)) (breakdownOf script) where
  free := hfree
  stream := rfl
  length_eq := List.length_range
  after_eq := by
    intro h
    rw [breakdownOf, h]
    rfl
  breakdown := by
    intro j h
    have hafter : breakdownOf script = [.error ("connection lost after row " ++ toString j)] := by
      rw [breakdownOf, h]
      rfl
    exact ⟨(hbreakdown j h).1, (hbreakdown j h).2, _, [], hafter⟩
  columns _ _ := rfl
  prepared _ := rfl
  cells := by
    intro i hi h
    rw [List.getElem_range]
    exact if_neg h
  unreadable := by
    intro i hi h
    rw [List.getElem_range]
    exact ⟨_, if_pos h⟩
  executes := hexecute
  describes := hdescribe

/-- A connection that is lost after two of three rows, the second of which is too short. -/
theorem materialize_alike_rehearsal_of_lost_connection :
    let script : Script :=
      { columns := [("ID", "INT4"), ("NAME", "TEXT")],
        rows := [[some [0x31], none], [some [0x32]], [none, none]], failAfter := some 2 }
    let book : Book := { backend := .sqlite, fallback := script }
    let engine := engineOf script .sqlite
    let w : Watched (Pooled.State Unit) :=
      { state := { database := (), pool := { capacity := 1 } } }
    book.backend = engine.backend ∧
      (engine.source.materialize {} "SELECT 1" w).1.Alike
        (book.source.materialize {} "SELECT 1" { state := {} }).1 ∧
      ∀ cause, (engine.source.materialize {} "SELECT 1" w).1.failure? ≠
        some (.cursorTerminal 0 cause) := by
  intro script book engine w
  have hbreakdown : ∀ j, script.failAfter = some j → 1 ≤ j ∧ j ≤ script.rows.length := by
    rintro j ⟨⟩
    decide
  have hplays := plays_engineOf rfl rfl hbreakdown .sqlite "SELECT 1" w.state rfl
  obtain ⟨halike, -, hnever⟩ :=
    materialize_alike_rehearsal engine book rfl {} "SELECT 1" w { state := {} }
  exact ⟨rfl, halike _ _ hplays, hnever⟩

end LiteralRows
