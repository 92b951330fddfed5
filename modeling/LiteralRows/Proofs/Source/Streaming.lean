import LiteralRows.Proofs.Draining
import LiteralRows.Proofs.Source.Lookahead
import LiteralRows.Source.Pooled

/-!
# What a stream delivers

A pooled source gives its rows through a `RowStream`.  Seen through the queue of what is due, one
turn of draining takes one item off the front, and the run of a query reads the stream up to the
first item that is no row, cannot be decoded or does not fit.

* `Pooled.Engine.Delivers` says that an item of a stream is a row that draining keeps.
* `delivers_of_reads`: what is read are the items that are delivered, up to the first that is not.
* `materialize_delivers`: a query over a stream with rows has the columns of its first row, and
  keeps what the stream delivers.
-/

namespace LiteralRows

variable {δ ρ ε : Type}

/-- The item with this number, counted from zero, is a row that can be decoded into cells, as many
as there are columns. -/
structure Pooled.Engine.Delivers (engine : Pooled.Engine δ ρ ε) (width : Nat)
    (items : List (Except ε ρ)) (i : Nat) (row : ρ) (cells : List RawCell) : Prop where
  getElem?_eq : items[i]? = some (.ok row)
  cells_eq : engine.cells row = .ok cells
  length_eq : cells.length = width

theorem Pooled.Engine.Delivers.cells_unique {engine : Pooled.Engine δ ρ ε} {width i : Nat}
    {items : List (Except ε ρ)} {row row' : ρ} {cells cells' : List RawCell}
    (h : engine.Delivers width items i row cells)
    (h' : engine.Delivers width items i row' cells') : cells = cells' := by
  have hrow := h.getElem?_eq.symm.trans h'.getElem?_eq
  cases hrow
  have hcells := h.cells_eq.symm.trans h'.cells_eq
  cases hcells
  rfl

/-! ## One turn -/

section Turns

variable {engine : Pooled.Engine δ ρ ε} {width : Nat} {p : Pooled.Cursor ρ ε × Pooled.State δ}
  {row : ρ} {e : ε} {items : List (Except ε ρ)}

theorem answer_pooled (engine : Pooled.Engine δ ρ ε) (p : Pooled.Cursor ρ ε × Pooled.State δ) :
    (engine.source.advance p.1 p.2).1 = p.1.rows.advance.1.mapError engine.breakdown :=
  rfl

theorem rows_next_pooled (engine : Pooled.Engine δ ρ ε)
    (p : Pooled.Cursor ρ ε × Pooled.State δ) : (engine.source.next p).1.rows = p.1.rows.next :=
  rfl

/-- With a row at the front of its queue, a streaming cursor reaches that row. -/
theorem turn_pooled_of_due_eq_cons (h : p.1.rows.due = .ok row :: items) :
    engine.source.turn width p = Source.fitted width (engine.cells row) := by
  obtain ⟨hanswer, hcurrent, -, -⟩ := RowStream.advance_of_due_eq_cons h
  have hscan : engine.source.scan (engine.source.next p).1 = engine.cells row := by
    show engine.scan (engine.source.next p).1 = engine.cells row
    rw [Pooled.Engine.scan, rows_next_pooled, hcurrent]
  rw [Source.turn, answer_pooled, hanswer, hscan]
  rfl

theorem due_next_pooled (h : p.1.rows.due = .ok row :: items) :
    (engine.source.next p).1.rows.due = items := by
  obtain ⟨-, -, -, hdue⟩ := RowStream.advance_of_due_eq_cons h
  rw [rows_next_pooled, hdue]

theorem turn_pooled_of_due_eq_error (h : p.1.rows.due = .error e :: items) :
    engine.source.turn width p = .error (.faulted (engine.breakdown e)) := by
  rw [Source.turn, answer_pooled, RowStream.advance_of_due_eq_error h]
  rfl

theorem turn_pooled_of_due_eq_nil (h : p.1.rows.due = []) :
    engine.source.turn width p = .error .exhausted := by
  rw [Source.turn, answer_pooled, RowStream.advance_of_due_eq_nil h]
  rfl

/-- A turn that goes on takes a row off the front of the queue. -/
theorem exists_due_of_turn_eq_ok {cells : List RawCell}
    (h : engine.source.turn width p = .ok cells) :
    ∃ row, engine.Delivers width p.1.rows.due 0 row cells ∧
      p.1.rows.due = .ok row :: (engine.source.next p).1.rows.due := by
  match hdue : p.1.rows.due with
  | [] =>
    rw [turn_pooled_of_due_eq_nil hdue] at h
    cases h
  | .error e :: items =>
    rw [turn_pooled_of_due_eq_error hdue] at h
    cases h
  | .ok row :: items =>
    rw [turn_pooled_of_due_eq_cons hdue] at h
    obtain ⟨hcells, hlength⟩ := Source.fitted_eq_ok_iff.mp h
    exact ⟨row, ⟨rfl, hcells, hlength⟩, by rw [due_next_pooled hdue]⟩

/-- A turn that stops has no row that fits at the front of the queue. -/
theorem not_delivers_of_turn_eq_error {ending : Ending}
    (h : engine.source.turn width p = .error ending) (row : ρ) (cells : List RawCell) :
    ¬ engine.Delivers width p.1.rows.due 0 row cells := by
  rintro ⟨hitem, hcells, hlength⟩
  obtain ⟨items, hdue⟩ : ∃ items, p.1.rows.due = .ok row :: items := by
    match hdue : p.1.rows.due with
    | [] =>
      rw [hdue] at hitem
      cases hitem
    | item :: items =>
      rw [hdue] at hitem
      cases hitem
      exact ⟨items, rfl⟩
  rw [turn_pooled_of_due_eq_cons hdue, Source.fitted_eq_ok_iff.mpr ⟨hcells, hlength⟩] at h
  cases h

end Turns

/-! ## Opening and describing -/

section Opening

variable {engine : Pooled.Engine δ ρ ε} {sql : String} {state : Pooled.State δ}

theorem openCursor_pooled {s : RowStream ε ρ} (hfree : state.pool.fault? = none)
    (hstart : RowStream.start (engine.run sql state.database).1 = .ok s) :
    engine.source.openCursor sql state =
      (.ok { sql, rows := s },
        { database := (engine.run sql state.database).2,
          pool := if s.isOpen then state.pool.take else state.pool }) := by
  show engine.openCursor sql state = _
  simp only [Pooled.Engine.openCursor, hfree, hstart]

theorem run_pooled_of_first_error {e : ε} {later : List (Except ε ρ)} (q : Quoting)
    (hfree : state.pool.fault? = none)
    (hrun : (engine.run sql state.database).1 = .error e :: later) :
    (engine.source.run q sql state).1 = .rejected (engine.rejection e) := by
  have hopen : engine.source.openCursor sql state =
      (.error (engine.rejection e),
        { state with database := (engine.run sql state.database).2 }) := by
    show engine.openCursor sql state = _
    simp only [Pooled.Engine.openCursor, hfree, hrun]
    rfl
  simp only [Source.run, hopen]

theorem describe_pooled (cursor : Pooled.Cursor ρ ε) (state : Pooled.State δ) :
    engine.source.describe cursor state = engine.describe cursor state :=
  rfl

end Opening

/-! ## Whole runs -/

section Runs

variable {engine : Pooled.Engine δ ρ ε} {width : Nat} {p : Pooled.Cursor ρ ε × Pooled.State δ}
  {rows : List (List RawCell)} {ending : Ending}

/-- **What is read is what the stream delivers**, one item after the other up to the first that it
does not. -/
theorem delivers_of_reads (h : engine.source.Reads width p rows ending) :
    (∀ (i : Nat) (hi : i < rows.length), ∃ row, engine.Delivers width p.1.rows.due i row rows[i]) ∧
      ∀ row cells, ¬ engine.Delivers width p.1.rows.due rows.length row cells := by
  induction h with
  | stop hturn => exact ⟨nofun, not_delivers_of_turn_eq_error hturn⟩
  | @row p cells rows ending hturn _ ih =>
    obtain ⟨row, hfirst, hdue⟩ := exists_due_of_turn_eq_ok hturn
    obtain ⟨hmore, hstop⟩ := ih
    rw [hdue] at hfirst ⊢
    refine ⟨?_, ?_⟩
    · intro i hi
      cases i with
      | zero => exact ⟨row, hfirst⟩
      | succ i =>
        obtain ⟨row', hitem, hcells, hlength⟩ := hmore i (Nat.lt_of_succ_lt_succ hi)
        exact ⟨row', hitem, hcells, hlength⟩
    · rintro row' cells' ⟨hitem, hcells, hlength⟩
      exact hstop row' cells' ⟨hitem, hcells, hlength⟩

/-- What ends the reading of a stream is the item after those that are read: none at the end, an
error where the stream breaks down, or a row that cannot be decoded or does not fit. -/
theorem ending_of_reads (h : engine.source.Reads width p rows ending) :
    match p.1.rows.due[rows.length]? with
    | none => ending = .exhausted
    | some (.error e) => ending = .faulted (engine.breakdown e)
    | some (.ok row) => Source.fitted width (engine.cells row) = .error ending := by
  induction h with
  | @stop p ending hturn =>
    match hdue : p.1.rows.due with
    | [] =>
      rw [turn_pooled_of_due_eq_nil hdue] at hturn
      cases hturn
      rfl
    | .error e :: items =>
      rw [turn_pooled_of_due_eq_error hdue] at hturn
      cases hturn
      rfl
    | .ok row :: items =>
      rw [turn_pooled_of_due_eq_cons hdue] at hturn
      exact hturn
  | row hturn _ ih =>
    obtain ⟨row, -, hdue⟩ := exists_due_of_turn_eq_ok hturn
    rw [hdue]
    exact ih

/-- A row that is reached and can be decoded is read if it fits, and else it is what ends the
reading. -/
theorem fits_of_reads (h : engine.source.Reads width p rows ending) {i : Nat} {row : ρ}
    {cells : List RawCell} (hi : i ≤ rows.length) (hitem : p.1.rows.due[i]? = some (.ok row))
    (hcells : engine.cells row = .ok cells) :
    if cells.length = width then i < rows.length
    else i = rows.length ∧ ending = .misfit width cells.length := by
  rcases Nat.lt_or_eq_of_le hi with hlt | rfl
  · obtain ⟨row', hdelivered⟩ := (delivers_of_reads h).1 i hlt
    have hrow := hitem.symm.trans hdelivered.getElem?_eq
    cases hrow
    have hsame := hcells.symm.trans hdelivered.cells_eq
    cases hsame
    rw [if_pos hdelivered.length_eq]
    exact hlt
  · have hending := ending_of_reads h
    rw [hitem] at hending
    dsimp only at hending
    rw [hcells, Source.fitted] at hending
    split at hending
    · cases hending
    · rename_i hwidth
      cases hending
      rw [if_neg hwidth]
      exact ⟨rfl, rfl⟩

/-- The columns that a row carries, each with the class of its type. -/
def Pooled.Engine.described (engine : Pooled.Engine δ ρ ε) (row : ρ) : List Column :=
  (engine.columns row).map fun c =>
    { name := c.1, typeName := c.2, cls := engine.backend.classify c.2 }

/-- A query over a stream with rows reads that stream under the columns of its first row. -/
theorem exists_reads_materialize {sql : String} {w : Watched (Pooled.State δ)} {first : ρ}
    {later : List (Except ε ρ)} (q : Quoting) (hfree : w.state.pool.fault? = none)
    (hrun : (engine.run sql w.state.database).1 = .ok first :: later) :
    ∃ p rows ending, p.1.rows.due = .ok first :: later ∧
      engine.source.Reads (engine.columns first).length p rows ending ∧
      (engine.source.materialize q sql w).1 =
        .drained
          { columns := engine.described first,
            rows := rows.map (Token.ofRow q (engine.described first)) }
          ending := by
  have hopen := openCursor_pooled hfree (congrArg RowStream.start hrun)
  obtain ⟨rows, ending, hreads⟩ := engine.source.exists_reads (engine.columns first).length
    ({ sql, rows := { stream := some later, pending := some first } },
      { database := (engine.run sql w.state.database).2, pool := w.state.pool.take })
  exact ⟨_, rows, ending, rfl, hreads, hreads.run_eq q hopen rfl⟩

/-- **A query over a stream with rows** has the columns of the first row.  It keeps the rows that
the stream delivers up to the first item that it does not, each written by these columns. -/
theorem materialize_delivers {sql : String} {w : Watched (Pooled.State δ)} {first : ρ}
    {later : List (Except ε ρ)} (q : Quoting) (hfree : w.state.pool.fault? = none)
    (hrun : (engine.run sql w.state.database).1 = .ok first :: later) :
    let columns := (engine.columns first).map fun c =>
      { name := c.1, typeName := c.2, cls := engine.backend.classify c.2 }
    let Delivers := engine.Delivers (engine.columns first).length (.ok first :: later)
    let result := (engine.source.materialize q sql w).1.result
    result.columns = columns ∧
      (∀ i, i < result.rows.length ↔ ∀ k ≤ i, ∃ row cells, Delivers k row cells) ∧
      ∀ i row cells, i < result.rows.length → Delivers i row cells →
        result.rows[i]? = some (Token.ofRow q columns cells) := by
  intro columns Delivers result
  obtain ⟨p, rows, ending, hdue, hreads, hdrained⟩ := exists_reads_materialize q hfree hrun
  obtain ⟨hdelivers, hstop⟩ := delivers_of_reads hreads
  rw [hdue] at hdelivers hstop
  have hresult : result = { columns, rows := rows.map (Token.ofRow q columns) } :=
    congrArg Materialization.result hdrained
  rw [hresult]
  refine ⟨rfl, fun i => ?_, fun i row cells hi hrow => ?_⟩
  · rw [List.length_map]
    constructor
    · intro hi k hk
      obtain ⟨row, hrow⟩ := hdelivers k (Nat.lt_of_le_of_lt hk hi)
      exact ⟨row, _, hrow⟩
    · intro hall
      refine Nat.lt_of_not_le fun hle => ?_
      obtain ⟨row, cells, hrow⟩ := hall rows.length hle
      exact hstop row cells hrow
  · rw [List.length_map] at hi
    obtain ⟨row', hrow'⟩ := hdelivers i hi
    rw [hrow.cells_unique hrow']
    exact List.getElem?_map.trans (congrArg _ (List.getElem?_eq_getElem hi))

end Runs

end LiteralRows
