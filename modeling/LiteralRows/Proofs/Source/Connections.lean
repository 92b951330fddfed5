import LiteralRows.Proofs.Agreement
import LiteralRows.Proofs.Source.Streaming

/-!
# One connection is enough

A cursor over a pooled database keeps its connection while its stream is open, and an empty result
is described over a second one.  With one connection in the pool that would wait for itself, if the
stream of the empty result were still open.  It is not: a stream without a first row is given up on
opening.

* `Asks` says that an operation needs a connection from the pool.  `asks_openCursor` and
  `asks_describe_iff` say which operations do, and `released_of_pending_eq_none` that a cursor which
  is about to be described asks only when it holds none.
* `Engine.holding` counts the connections, so that every query gives back what it took
  (`pool_run`).
* `Engine.unpooled` is the same database without a pool.  Where a connection is free, both give the
  same (`agree_unpooled`); so no query that is materialized, however the ones before it failed, can
  notice that the pool has only one connection.
-/

namespace LiteralRows.Pooled

variable {δ ρ ε α : Type}

/-- The operation needs a connection: where the pool hands out none, it fails and does nothing. -/
def Asks (operation : State δ → Except String α × State δ) : Prop :=
  ∀ state fault, state.pool.fault? = some fault → operation state = (.error fault.message, state)

namespace Engine

variable {engine : Engine δ ρ ε} {sql : String} {state left opened : State δ} {cursor : Cursor ρ ε}
  {row : ρ} {cause : String}

/-! ## Opening -/

theorem asks_openCursor (engine : Engine δ ρ ε) (sql : String) :
    Asks (engine.source.openCursor sql) := by
  intro state fault h
  show engine.openCursor sql state = _
  simp only [openCursor, h]

/-- What opening a cursor leaves: its stream has started, and holds a connection if it is open. -/
theorem openCursor_eq_ok (h : engine.source.openCursor sql state = (.ok cursor, opened)) :
    state.pool.fault? = none ∧
      RowStream.start (engine.run sql state.database).1 = .ok cursor.rows ∧
      opened.pool = if cursor.rows.isOpen then state.pool.take else state.pool := by
  cases hfault : state.pool.fault? with
  | some fault =>
    rw [asks_openCursor engine sql state fault hfault] at h
    cases h
  | none =>
    cases hstart : RowStream.start (engine.run sql state.database).1 with
    | error e =>
      change engine.openCursor sql state = _ at h
      simp only [openCursor, hfault, hstart] at h
      cases h
    | ok s =>
      rw [openCursor_pooled hfault hstart] at h
      cases h
      exact ⟨rfl, rfl, rfl⟩

theorem pool_openCursor_of_error (h : engine.source.openCursor sql state = (.error cause, left)) :
    left.pool = state.pool := by
  change engine.openCursor sql state = _ at h
  cases hfault : state.pool.fault? with
  | some fault =>
    simp only [openCursor, hfault] at h
    cases h
    rfl
  | none =>
    cases hstart : RowStream.start (engine.run sql state.database).1 with
    | error e =>
      simp only [openCursor, hfault, hstart] at h
      cases h
      rfl
    | ok s =>
      simp only [openCursor, hfault, hstart] at h
      cases h

/-! ## Describing -/

/-- The first row is described without the pool. -/
theorem describe_of_pending (h : cursor.rows.pending = some row) (state : State δ) :
    engine.source.describe cursor state = (.ok (engine.columns row), state) := by
  show engine.describe cursor state = _
  simp only [describe, h]

theorem asks_describe_of_pending_eq_none (h : cursor.rows.pending = none) :
    Asks (engine.source.describe cursor) := by
  intro state fault hfault
  show engine.describe cursor state = _
  simp only [describe, h, hfault]

theorem describe_snd (engine : Engine δ ρ ε) (cursor : Cursor ρ ε) (state : State δ) :
    (engine.source.describe cursor state).2 = state := by
  cases hpending : cursor.rows.pending with
  | some row => rw [describe_of_pending hpending]
  | none =>
    show (engine.describe cursor state).2 = state
    cases hfault : state.pool.fault? with
    | some fault => simp only [describe, hpending, hfault]
    | none => simp only [describe, hpending, hfault]

/-- A description asks the pool exactly if there is no first row to look at. -/
theorem asks_describe_iff [Nonempty δ] :
    Asks (engine.source.describe cursor) ↔ cursor.rows.pending = none := by
  refine ⟨fun h => ?_, asks_describe_of_pending_eq_none⟩
  obtain ⟨database⟩ := ‹Nonempty δ›
  rw [← Option.not_isSome_iff_eq_none, Option.isSome_iff_exists]
  rintro ⟨row, hpending⟩
  have hasked := h { database, pool := { capacity := 0 } } .timedOut rfl
  rw [describe_of_pending hpending] at hasked
  cases hasked

/-- **A cursor that is opened and asks to be described holds nothing**: its stream is given up, and
the pool is as it was before the query. -/
theorem released_of_pending_eq_none
    (h : engine.source.openCursor sql state = (.ok cursor, opened))
    (hpending : cursor.rows.pending = none) :
    cursor.rows.stream = none ∧ opened.pool = state.pool := by
  obtain ⟨-, hstart, hpool⟩ := openCursor_eq_ok h
  have hopen : cursor.rows.isOpen = false := by
    rw [RowStream.isOpen_of_start hstart, hpending]
    rfl
  rw [hopen] at hpool
  exact ⟨Option.isNone_iff_eq_none.mp (Option.isSome_eq_false_iff.mp hopen), hpool⟩

/-! ## What cursors hold -/

/-- **An open stream holds one connection**, from its opening until it ends or is given back. -/
theorem holding (engine : Engine δ ρ ε) :
    engine.source.Holding (fun s => s.pool.held) fun k => if k.rows.isOpen then 1 else 0 where
  refused h := congrArg Pool.held (pool_openCursor_of_error h)
  opened {_ s k _} h := by
    rw [(openCursor_eq_ok h).2.2]
    cases k.rows.isOpen <;> rfl
  describe k s := by rw [describe_snd]
  advance k s hheld := by
    have hnext : (engine.source.advance k s).2.1.rows = k.rows.next := rfl
    have hpool : (engine.source.advance k s).2.2.pool =
        (if k.rows.isOpen && !k.rows.next.isOpen then { s with pool := s.pool.putBack }
          else s).pool := rfl
    rw [hnext, hpool]
    cases hbefore : k.rows.isOpen with
    | false =>
      have hafter : k.rows.next.isOpen = false := by
        rw [← Bool.not_eq_true]
        intro hopen
        rw [RowStream.isOpen_of_isOpen_next hopen] at hbefore
        cases hbefore
      rw [hafter]
      rfl
    | true =>
      rw [hbefore] at hheld
      cases k.rows.next.isOpen with
      | true => rfl
      | false => exact Nat.sub_add_cancel hheld
  release k s := by
    show (Engine.release k s).pool.held = s.pool.held - _
    rw [Engine.release]
    cases k.rows.isOpen <;> rfl
  close _ := rfl

theorem steady_database (engine : Engine δ ρ ε) : engine.source.Steady State.database where
  describe k s := congrArg State.database (describe_snd engine k s)
  advance k s := by
    show (engine.advance k s).2.2.database = s.database
    simp only [Engine.advance]
    split <;> rfl
  release k s := by
    show (Engine.release k s).database = s.database
    rw [Engine.release]
    split <;> rfl

theorem steady_limits (engine : Engine δ ρ ε) :
    engine.source.Steady fun s => (s.pool.capacity, s.pool.closed) where
  describe k s := by rw [describe_snd]
  advance k s := by
    have hsnd : (engine.source.advance k s).2.2 =
        if k.rows.isOpen && !k.rows.next.isOpen then { s with pool := s.pool.putBack } else s := rfl
    rw [hsnd]
    split <;> rfl
  release k s := by
    have hreleased : engine.source.release k s =
        if k.rows.isOpen then { s with pool := s.pool.putBack } else s := rfl
    rw [hreleased]
    split <;> rfl

theorem limits_openCursor (engine : Engine δ ρ ε) (sql : String) (state : State δ) :
    (engine.source.openCursor sql state).2.pool.capacity = state.pool.capacity ∧
      (engine.source.openCursor sql state).2.pool.closed = state.pool.closed := by
  rcases hopen : engine.source.openCursor sql state with ⟨cause | cursor, opened⟩
  · rw [pool_openCursor_of_error hopen]
    exact ⟨rfl, rfl⟩
  · rw [(openCursor_eq_ok hopen).2.2]
    split <;> exact ⟨rfl, rfl⟩

/-- **Every query leaves the pool as it found it**, on whichever exit. -/
theorem pool_run (engine : Engine δ ρ ε) (q : Quoting) (sql : String) (state : State δ) :
    (engine.source.run q sql state).2.pool = state.pool := by
  have hheld := engine.holding.run q sql state
  have hlimits := engine.steady_limits.run q sql state
  obtain ⟨hcapacity, hclosed⟩ := limits_openCursor engine sql state
  rw [hcapacity, hclosed] at hlimits
  generalize (engine.source.run q sql state).2.pool = left at hheld hlimits ⊢
  obtain ⟨capacity, held, closed⟩ := left
  cases hheld
  cases hlimits
  rfl

/-! ## The same without a pool -/

/-- The database as a source that has as many connections as anybody may ask for. -/
def unpooled (engine : Engine δ ρ ε) : Source δ (Cursor ρ ε) where
  backend := engine.backend
  openCursor sql database :=
    let (items, database) := engine.run sql database
    match RowStream.start items with
    | .error e => (.error (engine.rejection e), database)
    | .ok rows => (.ok { sql, rows }, database)
  describe cursor database :=
    match cursor.rows.pending with
    | some row => (.ok (engine.columns row), database)
    | none => ((engine.prepare cursor.sql database).mapError engine.rejection, database)
  classify _ := engine.backend.classify
  advance cursor database :=
    let (outcome, rows) := cursor.rows.advance
    (outcome.mapError engine.breakdown, { cursor with rows }, database)
  scan := engine.scan
  release _ := id
  close := id
  remaining cursor := cursor.rows.remaining
  remaining_advance cursor database :=
    engine.source.remaining_advance cursor { database, pool := { capacity := 0 } }

/-- Moving and reading a cursor does not depend on the pool. -/
theorem sameRows_unpooled (engine : Engine δ ρ ε) : engine.source.SameRows engine.unpooled where
  answer _ _ _ := rfl
  cursor _ _ _ := rfl
  scan _ := rfl
  classify _ _ := rfl

theorem steady_unpooled (engine : Engine δ ρ ε) : engine.unpooled.Steady id where
  describe k s := by
    simp only [unpooled]
    split <;> rfl
  advance _ _ := rfl
  release _ _ := rfl

/-- With a free connection a query is executed as without a pool. -/
theorem openCursor_unpooled (engine : Engine δ ρ ε) (sql : String) {state : State δ}
    (hfree : state.pool.fault? = none) :
    (engine.source.openCursor sql state).1 = (engine.unpooled.openCursor sql state.database).1 ∧
      (engine.source.openCursor sql state).2.database =
        (engine.unpooled.openCursor sql state.database).2 := by
  show (engine.openCursor sql state).1 = _ ∧ (engine.openCursor sql state).2.database = _
  simp only [openCursor, unpooled, hfree]
  cases RowStream.start (engine.run sql state.database).1 <;> exact ⟨rfl, rfl⟩

/-- A cursor that is opened is described as without a pool: what it asks for is free. -/
theorem describe_unpooled (h : engine.source.openCursor sql state = (.ok cursor, opened)) :
    (engine.source.describe cursor opened).1 =
      (engine.unpooled.describe cursor opened.database).1 := by
  cases hpending : cursor.rows.pending with
  | some row =>
    rw [describe_of_pending hpending]
    simp only [unpooled, hpending]
  | none =>
    obtain ⟨hfree, -, -⟩ := openCursor_eq_ok h
    obtain ⟨-, hpool⟩ := released_of_pending_eq_none h hpending
    rw [← hpool] at hfree
    show (engine.describe cursor opened).1 = _
    simp only [describe, unpooled, hpending, hfree]

/-- **Where a connection is free, the pool makes no difference** to a query, and the next one finds
the same connection free. -/
theorem agree_unpooled (engine : Engine δ ρ ε) {pool : Pool} (hfree : pool.fault? = none) :
    engine.source.Agree engine.unpooled fun s database => s = { database, pool } where
  backend := rfl
  run q sql s database hR := by
    subst hR
    have hstart : ({ database, pool } : State δ).pool.fault? = none := hfree
    obtain ⟨hanswer, hdatabase⟩ := openCursor_unpooled engine sql hstart
    refine (sameRows_unpooled engine).run_fst_eq q hanswer fun k hk => ?_
    rw [← hdatabase]
    exact describe_unpooled (Prod.ext hk rfl)
  related q sql s database hR := by
    subst hR
    have hstart : ({ database, pool } : State δ).pool.fault? = none := hfree
    obtain ⟨-, hdatabase⟩ := openCursor_unpooled engine sql hstart
    have hpool := engine.pool_run q sql { database, pool }
    have hleft := engine.steady_database.run q sql { database, pool }
    have hright : (engine.unpooled.run q sql database).2 =
        (engine.unpooled.openCursor sql database).2 := engine.steady_unpooled.run q sql database
    rw [hdatabase, ← hright] at hleft
    generalize (engine.source.run q sql { database, pool }).2 = left at hpool hleft ⊢
    obtain ⟨database', pool'⟩ := left
    cases hpool
    cases hleft
    rfl

/-! ## Queries one after the other -/

open Session

/-- **One connection is enough.**  A pool is asked for a connection by the execution of a query, and
by the description of a cursor that was opened and has no first row; such a cursor has given up its
stream, and the pool is as it was before the query.  Nothing else that is done with a cursor depends
on the pool, and a query leaves the pool as it found it, wherever it stopped.  So whatever is
materialized and checked while one connection is free, and however much of it fails, is answered as
if there were no pool, and the connection is free again behind it. -/
theorem one_connection_suffices (engine : Engine δ ρ ε) :
    (∀ (sql : String), Asks (engine.source.openCursor sql)) ∧
    (∀ (sql : String) (state opened : State δ) (cursor : Cursor ρ ε),
      engine.source.openCursor sql state = (.ok cursor, opened) →
        (Asks (engine.source.describe cursor) ↔ cursor.rows.pending = none) ∧
        (cursor.rows.pending = none → cursor.rows.stream = none ∧ opened.pool = state.pool) ∧
        ∀ row, cursor.rows.pending = some row → ∀ s,
          engine.source.describe cursor s = (.ok (engine.columns row), s)) ∧
    engine.source.SameRows engine.unpooled ∧
    (∀ (q : Quoting) (sql : String) (state : State δ),
      (engine.source.run q sql state).2.pool = state.pool) ∧
    ∀ (database : δ) (pool : Pool) (steps : List Step), pool.fault? = none →
      (∀ st ∈ steps, st.isWhole) →
        transcript engine.source steps (fresh { database, pool }) =
          transcript engine.unpooled steps (fresh database) ∧
        (after engine.source steps (fresh { database, pool })).source.state.pool = pool := by
  refine ⟨asks_openCursor engine, fun sql state opened cursor hopen => ⟨?_, ?_, ?_⟩,
    sameRows_unpooled engine, pool_run engine, fun database pool steps hfree hsteps => ?_⟩
  · have hdatabase : Nonempty δ := ⟨state.database⟩
    exact asks_describe_iff
  · exact released_of_pending_eq_none hopen
  · exact fun row hpending s => describe_of_pending hpending s
  · obtain ⟨hanswers, hleft⟩ := (engine.agree_unpooled hfree).transcript hsteps
      (s := fresh { database, pool }) (t := fresh database) rfl
    exact ⟨hanswers, congrArg State.pool hleft⟩

/-- An empty result that cannot be described, a stream that is lost behind its first row, a rejected
query and a check of a schema follow each other over a single connection. -/
theorem one_connection_suffices_for_failures :
    let engine : Engine Nat Nat String :=
      { backend := .postgres
        run := fun sql count =>
          (if sql = "empty" then [] else if sql = "lost" then [.ok 1, .error "reset by peer"]
            else [.error "syntax error"], count + 1)
        prepare := fun _ _ => .error "undefined column"
        columns := fun _ => [("n", "INT4")]
        cells := fun _ => .ok [some [0x31]]
        rejection := id
        breakdown := id }
    let steps : List Step :=
      [.materialize {} true "empty", .materialize {} true "lost", .materialize {} false "syntax",
        .ensureSchema "public", .materialize {} true "empty"]
    transcript engine.source steps (fresh { database := 0, pool := { capacity := 1 } }) =
        transcript engine.unpooled steps (fresh 0) ∧
      (after engine.source steps
          (fresh { database := 0, pool := { capacity := 1 } })).source.state.pool =
        { capacity := 1 } ∧
      ∀ cursor opened,
        engine.source.openCursor "empty" { database := 0, pool := { capacity := 1 } } =
            (.ok cursor, opened) → cursor.rows.stream = none := by
  intro engine steps
  obtain ⟨-, hopened, -, -, hall⟩ := one_connection_suffices engine
  have hwhole : ∀ st ∈ steps, st.isWhole := by simp [steps, Step.isWhole, Step.isObserved]
  obtain ⟨hanswers, hpool⟩ := hall 0 { capacity := 1 } steps rfl hwhole
  refine ⟨hanswers, hpool, fun cursor opened hopen => ?_⟩
  have hpending : cursor.rows.pending = none := by
    obtain ⟨-, hstart, -⟩ := openCursor_eq_ok hopen
    rw [← Except.ok.inj hstart]
  exact ((hopened "empty" _ opened cursor hopen).2.1 hpending).1

end Engine
end LiteralRows.Pooled
