import LiteralRows.Proofs.Draining
import LiteralRows.Source.Scripted
import Mathlib.Data.ENat.Lattice

/-!
# The first fault of a script

A script can stop its cursor in three ways, and each is numbered in its own fashion: a breakdown by
the rows that come before it, a row that cannot be scanned by its own number, and a row of another
width by where it stands in the script.  A script may hold all three, and places past the end of
its rows.  `materialize_stops_at_first_fault` says which one wins:

* `Script.breakdownAt`, `Script.unreadableAt` and `Script.misfitAt` are the three places, each
  infinite if the cursor cannot get there.
* `Script.Verdict` is the failure that the three places decide on.  A breakdown comes before the
  row behind it is looked at, and a row is scanned before it is measured.
* `Script.Passes` and `Script.StopsAt` say what a single turn does.  The run of a query passes a
  number of rows and stops at the next (`exists_passes_stopsAt`); that number is the least of the
  three places and the length of the script (`eq_min_of_stopsAt`).
-/

namespace LiteralRows

open Scripted (Script Book)

/-! ## One turn -/

/-- The script delivers these cells as the row after `n` others. -/
structure Scripted.Script.Passes (script : Script) (n : Nat) (cells : List RawCell) : Prop where
  failAfter_ne : script.failAfter ≠ some n
  failScanAt_ne : script.failScanAt ≠ some (n + 1)
  getElem?_eq : script.rows[n]? = some cells
  length_eq : cells.length = script.columns.length

/-- The script ends after `n` rows, and like this. -/
inductive Scripted.Script.StopsAt (script : Script) (n : Nat) : Ending → Prop
  | broken (h : script.failAfter = some n) :
    StopsAt script n (.faulted ("connection lost after row " ++ toString n))
  | unreadable (h : script.failAfter ≠ some n) (hn : n < script.rows.length)
    (hscan : script.failScanAt = some (n + 1)) :
    StopsAt script n (.unreadable ("cannot decode row " ++ toString (n + 1)))
  | misfit {cells : List RawCell} (h : script.failAfter ≠ some n)
    (hscan : script.failScanAt ≠ some (n + 1)) (hcells : script.rows[n]? = some cells)
    (hwidth : cells.length ≠ script.columns.length) :
    StopsAt script n (.misfit script.columns.length cells.length)
  | exhausted (h : script.failAfter ≠ some n) (hn : script.rows.length ≤ n) :
    StopsAt script n .exhausted

section Turns

variable {book : Book} {script : Script} {width n : Nat} {r : Scripted.Cursor × Scripted.State}

theorem answer_scripted (book : Book) (r : Scripted.Cursor × Scripted.State) :
    (book.source.advance r.1 r.2).1 = r.1.advance.1 :=
  rfl

theorem next_scripted (book : Book) (r : Scripted.Cursor × Scripted.State) :
    (book.source.next r).1 = r.1.advance.2 :=
  rfl

/-- Before the end of its rows and of its life, a scripted cursor reaches the next row. -/
theorem advance_scripted_of_lt (hfail : script.failAfter ≠ some n) (hn : n < script.rows.length) :
    Scripted.Cursor.advance { script, position := n } =
      (.ok true, { script, position := n + 1 }) := by
  rw [Scripted.Cursor.advance, if_neg Bool.false_ne_true, if_neg hfail, if_pos hn]

theorem turn_scripted_of_lt (hr : r.1 = { script, position := n })
    (hfail : script.failAfter ≠ some n) (hn : n < script.rows.length) :
    book.source.turn width r =
      Source.fitted width (Scripted.Cursor.scan { script, position := n + 1 }) := by
  rw [Source.turn, answer_scripted, next_scripted, hr, advance_scripted_of_lt hfail hn]
  rfl

theorem turn_scripted_of_failAfter (hr : r.1 = { script, position := n })
    (hfail : script.failAfter = some n) :
    book.source.turn width r = .error (.faulted ("connection lost after row " ++ toString n)) := by
  rw [Source.turn, answer_scripted, hr, Scripted.Cursor.advance, if_neg Bool.false_ne_true,
    if_pos hfail]

theorem turn_scripted_of_le (hr : r.1 = { script, position := n })
    (hfail : script.failAfter ≠ some n) (hn : script.rows.length ≤ n) :
    book.source.turn width r = .error .exhausted := by
  rw [Source.turn, answer_scripted, hr, Scripted.Cursor.advance, if_neg Bool.false_ne_true,
    if_neg hfail, if_neg (Nat.not_lt.mpr hn)]

/-- The row reached last is scanned as the script has it, unless the script says that it cannot
be. -/
theorem scan_scripted (hn : n < script.rows.length) :
    Scripted.Cursor.scan { script, position := n + 1 } =
      if script.failScanAt = some (n + 1) then
        .error ("cannot decode row " ++ toString (n + 1))
      else .ok script.rows[n] := by
  rw [Scripted.Cursor.scan, if_neg (Nat.succ_ne_zero n), Nat.add_sub_cancel,
    List.getElem?_eq_getElem hn, Option.getD_some]

/-- **One turn passes a row or stops**, as the script says. -/
theorem turn_scripted_cases (book : Book) (hr : r.1 = { script, position := n }) :
    (∃ cells, book.source.turn script.columns.length r = .ok cells ∧ script.Passes n cells) ∨
      ∃ ending, book.source.turn script.columns.length r = .error ending ∧
        script.StopsAt n ending := by
  by_cases hfail : script.failAfter = some n
  · exact .inr ⟨_, turn_scripted_of_failAfter hr hfail, .broken hfail⟩
  rcases Nat.lt_or_ge n script.rows.length with hn | hn
  · rw [turn_scripted_of_lt hr hfail hn, scan_scripted hn]
    by_cases hscan : script.failScanAt = some (n + 1)
    · rw [if_pos hscan]
      exact .inr ⟨_, rfl, .unreadable hfail hn hscan⟩
    · rw [if_neg hscan, Source.fitted]
      have hcells := List.getElem?_eq_getElem hn
      by_cases hwidth : script.rows[n].length = script.columns.length
      · rw [if_pos hwidth]
        exact .inl ⟨_, rfl, hfail, hscan, hcells, hwidth⟩
      · rw [if_neg hwidth]
        exact .inr ⟨_, rfl, .misfit hfail hscan hcells hwidth⟩
  · exact .inr ⟨_, turn_scripted_of_le hr hfail hn, .exhausted hfail hn⟩

theorem Scripted.Script.Passes.lt_length {cells : List RawCell} (h : script.Passes n cells) :
    n < script.rows.length :=
  (List.getElem?_eq_some_iff.mp h.getElem?_eq).1

theorem Scripted.Script.Passes.getElem_eq {cells : List RawCell} (h : script.Passes n cells)
    (hn : n < script.rows.length) : script.rows[n] = cells :=
  (List.getElem?_eq_some_iff.mp h.getElem?_eq).2

/-- A row that is passed moves the cursor by one. -/
theorem next_scripted_of_passes {cells : List RawCell} (hr : r.1 = { script, position := n })
    (h : script.Passes n cells) : (book.source.next r).1 = { script, position := n + 1 } := by
  rw [next_scripted, hr, advance_scripted_of_lt h.failAfter_ne h.lt_length]

end Turns

/-! ## Opening and describing -/

section Opening

variable {book : Book} {sql : String}

theorem openCursor_scripted (h : (book.scriptFor sql).failExecute = none)
    (played : Scripted.State) :
    book.source.openCursor sql played =
      (.ok { script := book.scriptFor sql },
        { executed := played.executed ++ [sql], openCursors := played.openCursors + 1 }) := by
  simp only [Book.source, h]

theorem describe_scripted {cursor : Scripted.Cursor} (h : cursor.script.failDescribe = none)
    (played : Scripted.State) :
    book.source.describe cursor played = (.ok cursor.script.columns, played) := by
  simp only [Book.source, h]

end Opening

/-! ## Whole runs -/

section Runs

variable {book : Book} {script : Script} {r : Scripted.Cursor × Scripted.State}
  {rows : List (List RawCell)} {ending : Ending}

/-- Reading from row `n` on passes the rows that are read and stops at the next. -/
theorem passes_of_reads (h : book.source.Reads script.columns.length r rows ending) :
    ∀ n, r.1 = { script, position := n } →
      (∀ (i : Nat) (hi : i < rows.length), script.Passes (n + i) rows[i]) ∧
        script.StopsAt (n + rows.length) ending := by
  induction h with
  | stop hturn =>
    intro n hr
    rcases turn_scripted_cases book hr with ⟨cells, hok, -⟩ | ⟨ending', herror, hstop⟩
    · rw [hturn] at hok
      cases hok
    · rw [hturn] at herror
      cases herror
      exact ⟨nofun, hstop⟩
  | row hturn _ ih =>
    intro n hr
    rcases turn_scripted_cases book hr with ⟨cells, hok, hpass⟩ | ⟨ending', herror, -⟩
    · rw [hturn] at hok
      cases hok
      obtain ⟨hmore, hstop⟩ := ih (n + 1) (next_scripted_of_passes hr hpass)
      refine ⟨?_, ?_⟩
      · intro i hi
        cases i with
        | zero => exact hpass
        | succ i =>
          have h := hmore i (Nat.lt_of_succ_lt_succ hi)
          rwa [Nat.add_right_comm] at h
      · rwa [Nat.add_right_comm] at hstop
    · rw [hturn] at herror
      cases herror

/-- **A query passes some rows of its script and stops at the next**; what it gives are the rows
that were passed. -/
theorem exists_passes_stopsAt {book : Book} {sql : String} (columns : List Column) (q : Quoting)
    (hscript : book.scriptFor sql = script) (hexecute : script.failExecute = none)
    (hdescribe : script.failDescribe = none)
    (hcolumns : columns = script.columns.map fun c =>
      { name := c.1, typeName := c.2, cls := book.backend.classify c.2 })
    (played : Scripted.State) :
    ∃ kept ending, kept ≤ script.rows.length ∧ (∀ i < kept, ∃ cells, script.Passes i cells) ∧
      script.StopsAt kept ending ∧
      (book.source.run q sql played).1 =
        .drained { columns, rows := (script.rows.take kept).map (Token.ofRow q columns) }
          ending := by
  subst hscript hcolumns
  have hopen := openCursor_scripted hexecute played
  generalize { executed := played.executed ++ [sql], openCursors := played.openCursors + 1 :
    Scripted.State } = opened at hopen
  have hdescribed : book.source.describe { script := book.scriptFor sql } opened =
    (.ok (book.scriptFor sql).columns, opened) := describe_scripted hdescribe opened
  obtain ⟨rows, ending, hreads⟩ := book.source.exists_reads (book.scriptFor sql).columns.length
    ({ script := book.scriptFor sql }, opened)
  obtain ⟨hpass, hstop⟩ := passes_of_reads hreads 0 rfl
  simp only [Nat.zero_add] at hpass hstop
  have hle : rows.length ≤ (book.scriptFor sql).rows.length := by
    by_contra hlt
    exact Nat.lt_irrefl _ (hpass _ (Nat.not_le.mp hlt)).lt_length
  have hrows : rows = (book.scriptFor sql).rows.take rows.length := by
    refine List.ext_getElem (by rw [List.length_take, Nat.min_eq_left hle]) fun i hi _ => ?_
    rw [List.getElem_take]
    exact ((hpass i hi).getElem_eq _).symm
  refine ⟨rows.length, ending, hle, fun i hi => ⟨_, hpass i hi⟩, hstop, ?_⟩
  rw [hreads.run_eq q hopen hdescribed, ← hrows]
  rfl

end Runs

/-! ## The three places -/

/-- A number that is infinite if it is not given. -/
def place (n : Option Nat) : ℕ∞ :=
  n.elim ⊤ fun n => (n : ℕ∞)

@[simp] theorem place_none : place none = ⊤ := rfl

@[simp] theorem place_some (n : Nat) : place (some n) = n := rfl

theorem place_eq_natCast_iff {n : Option Nat} {k : Nat} : place n = k ↔ n = some k := by
  cases n with
  | none =>
    rw [place_none]
    exact ⟨fun h => absurd h (ENat.top_ne_natCast k), nofun⟩
  | some m => rw [place_some, Nat.cast_inj, Option.some.injEq]

theorem natCast_le_of_forall {k : Nat} {x : ℕ∞} (h : ∀ m : Nat, x = m → k ≤ m) : (k : ℕ∞) ≤ x := by
  induction x using ENat.recTopCoe with
  | top => exact le_top
  | coe m => exact Nat.cast_le.mpr (h m rfl)

theorem natCast_lt_of_forall {k : Nat} {x : ℕ∞} (h : ∀ m : Nat, x = m → k < m) : (k : ℕ∞) < x := by
  induction x using ENat.recTopCoe with
  | top => exact ENat.natCast_lt_top k
  | coe m => exact Nat.cast_lt.mpr (h m rfl)

/-- The number of rows after which the cursor breaks down. -/
def Scripted.Script.breakdownAt (script : Script) : ℕ∞ :=
  place (script.failAfter.filter (· ≤ script.rows.length))

/-- The number of the row that cannot be scanned, counted from one. -/
def Scripted.Script.unreadableAt (script : Script) : ℕ∞ :=
  place (script.failScanAt.filter fun k => 1 ≤ k ∧ k ≤ script.rows.length)

/-- The number of the first row with another width than the columns, counted from one. -/
def Scripted.Script.misfitAt (script : Script) : ℕ∞ :=
  place ((script.rows.findIdx? (·.length ≠ script.columns.length)).map (· + 1))

/-- The failure that the three places of a script decide on.  Of a breakdown and a row, the
breakdown wins unless the row comes before it; of two failures of one row, the scan wins. -/
inductive Scripted.Script.Verdict (script : Script) : Option Failure → Prop
  | complete (hd : script.breakdownAt = ⊤) (hs : script.unreadableAt = ⊤)
    (hw : script.misfitAt = ⊤) : Verdict script none
  | broken {d : Nat} (hd : script.breakdownAt = d)
    (hs : script.breakdownAt ≤ script.unreadableAt - 1)
    (hw : script.breakdownAt ≤ script.misfitAt - 1) :
    Verdict script (some (.cursorTerminal d ("connection lost after row " ++ toString d)))
  | unreadable {s : Nat} (hs : script.unreadableAt = s)
    (hd : ¬ (script.breakdownAt ≤ script.unreadableAt - 1 ∧
      script.breakdownAt ≤ script.misfitAt - 1))
    (hw : script.unreadableAt ≤ script.misfitAt) :
    Verdict script (some (.rowScan s ("cannot decode row " ++ toString s)))
  | misfit {k : Nat} {cells : List RawCell} (hw : script.misfitAt = (k + 1 : Nat))
    (hcells : script.rows[k]? = some cells)
    (hd : ¬ (script.breakdownAt ≤ script.unreadableAt - 1 ∧
      script.breakdownAt ≤ script.misfitAt - 1))
    (hs : ¬ script.unreadableAt ≤ script.misfitAt) :
    Verdict script (some (.rowScan (k + 1) ("expected " ++ toString script.columns.length ++
      " cells, got " ++ toString cells.length)))

section Places

variable {script : Script} {kept : Nat} {ending : Ending}

theorem breakdownAt_eq_iff {d : Nat} :
    script.breakdownAt = d ↔ script.failAfter = some d ∧ d ≤ script.rows.length := by
  rw [Scripted.Script.breakdownAt, place_eq_natCast_iff, Option.filter_eq_some_iff,
    decide_eq_true_eq]

theorem unreadableAt_eq_iff {s : Nat} :
    script.unreadableAt = s ↔ script.failScanAt = some s ∧ 1 ≤ s ∧ s ≤ script.rows.length := by
  rw [Scripted.Script.unreadableAt, place_eq_natCast_iff, Option.filter_eq_some_iff,
    decide_eq_true_eq]

theorem misfitAt_eq_iff {w : Nat} :
    script.misfitAt = w ↔ ∃ k, (∃ hk : k < script.rows.length,
      script.rows[k].length ≠ script.columns.length ∧
        ∀ (i : Nat) (hi : i < k), script.rows[i].length = script.columns.length) ∧ k + 1 = w := by
  simp only [Scripted.Script.misfitAt, place_eq_natCast_iff, Option.map_eq_some_iff,
    List.findIdx?_eq_some_iff_getElem, decide_eq_true_eq, not_not]

/-- A breakdown does not come before a row that is passed. -/
theorem le_breakdownAt_of_passes (h : ∀ i < kept, ∃ cells, script.Passes i cells) :
    (kept : ℕ∞) ≤ script.breakdownAt := by
  refine natCast_le_of_forall fun d hd => ?_
  by_contra hlt
  obtain ⟨cells, hpass⟩ := h d (Nat.not_le.mp hlt)
  exact hpass.failAfter_ne (breakdownAt_eq_iff.mp hd).1

/-- A row that is passed can be scanned. -/
theorem lt_unreadableAt_of_passes (h : ∀ i < kept, ∃ cells, script.Passes i cells) :
    (kept : ℕ∞) < script.unreadableAt := by
  refine natCast_lt_of_forall fun s hs => ?_
  obtain ⟨hscan, hpos, -⟩ := unreadableAt_eq_iff.mp hs
  by_contra hle
  obtain ⟨cells, hpass⟩ := h (s - 1) (by omega)
  rw [← Nat.sub_add_cancel hpos] at hscan
  exact hpass.failScanAt_ne hscan

/-- A row that is passed has the width of the columns. -/
theorem lt_misfitAt_of_passes (h : ∀ i < kept, ∃ cells, script.Passes i cells) :
    (kept : ℕ∞) < script.misfitAt := by
  refine natCast_lt_of_forall fun w hw => ?_
  obtain ⟨k, ⟨hk, hwidth, -⟩, rfl⟩ := misfitAt_eq_iff.mp hw
  by_contra hle
  obtain ⟨cells, hpass⟩ := h k (by omega)
  rw [hpass.getElem_eq hk] at hwidth
  exact hwidth hpass.length_eq

/-- The first row that does not fit is the first one with another width. -/
theorem misfitAt_eq {cells : List RawCell} (h : ∀ i < kept, ∃ cells, script.Passes i cells)
    (hcells : script.rows[kept]? = some cells) (hwidth : cells.length ≠ script.columns.length) :
    script.misfitAt = (kept + 1 : Nat) := by
  obtain ⟨hlt, rfl⟩ := List.getElem?_eq_some_iff.mp hcells
  refine misfitAt_eq_iff.mpr ⟨kept, ⟨hlt, hwidth, fun i hi => ?_⟩, rfl⟩
  obtain ⟨before, hpass⟩ := h i hi
  rw [hpass.getElem_eq]
  exact hpass.length_eq

/-- Past the last row no row is left to fail. -/
theorem places_eq_top (h : ∀ i < kept, ∃ cells, script.Passes i cells)
    (hfail : script.failAfter ≠ some kept) (hle : script.rows.length ≤ kept) :
    script.breakdownAt = ⊤ ∧ script.unreadableAt = ⊤ ∧ script.misfitAt = ⊤ := by
  refine ⟨ENat.eq_top_iff_forall_ne.mpr fun d hd => ?_,
    ENat.eq_top_iff_forall_ne.mpr fun s hs => ?_, ENat.eq_top_iff_forall_ne.mpr fun w hw => ?_⟩
  · have hkept := le_breakdownAt_of_passes h
    rw [← hd, Nat.cast_le] at hkept
    obtain ⟨hbreak, hbound⟩ := breakdownAt_eq_iff.mp hd.symm
    exact hfail (Nat.le_antisymm (hbound.trans hle) hkept ▸ hbreak)
  · have hkept := lt_unreadableAt_of_passes h
    rw [← hs, Nat.cast_lt] at hkept
    obtain ⟨-, -, hbound⟩ := unreadableAt_eq_iff.mp hs.symm
    omega
  · have hkept := lt_misfitAt_of_passes h
    rw [← hw, Nat.cast_lt] at hkept
    obtain ⟨k, ⟨hk, -⟩, rfl⟩ := misfitAt_eq_iff.mp hw.symm
    omega

/-- A breakdown that does not come at once comes after the next row. -/
theorem lt_breakdownAt_of_passes (h : ∀ i < kept, ∃ cells, script.Passes i cells)
    (hfail : script.failAfter ≠ some kept) : (kept : ℕ∞) < script.breakdownAt := by
  refine lt_of_le_of_ne (le_breakdownAt_of_passes h) fun heq => ?_
  exact hfail (breakdownAt_eq_iff.mp heq.symm).1

/-- If the next row can be scanned, the one that cannot be comes later. -/
theorem succ_lt_unreadableAt_of_passes (h : ∀ i < kept, ∃ cells, script.Passes i cells)
    (hscan : script.failScanAt ≠ some (kept + 1)) :
    ((kept + 1 : Nat) : ℕ∞) < script.unreadableAt := by
  refine lt_of_le_of_ne ?_ fun heq => ?_
  · rw [Nat.cast_succ]
    exact ENat.natCast_add_one_le_iff.mpr (lt_unreadableAt_of_passes h)
  · exact hscan (unreadableAt_eq_iff.mp heq.symm).1

theorem natCast_succ_sub_one (k : Nat) : ((k + 1 : Nat) : ℕ∞) - 1 = k :=
  (ENat.natCast_sub (k + 1) 1).symm

/-- The number of rows that are passed is the least of the three places and the number of all
rows. -/
theorem eq_min_of_stopsAt (h : ∀ i < kept, ∃ cells, script.Passes i cells)
    (hle : kept ≤ script.rows.length) (hstop : script.StopsAt kept ending) :
    (kept : ℕ∞) = min (script.rows.length : ℕ∞) (min script.breakdownAt
      (min (script.unreadableAt - 1) (script.misfitAt - 1))) := by
  have hs := ENat.le_sub_one_of_lt (lt_unreadableAt_of_passes h)
  have hw := ENat.le_sub_one_of_lt (lt_misfitAt_of_passes h)
  refine le_antisymm
    (le_min (Nat.cast_le.mpr hle) (le_min (le_breakdownAt_of_passes h) (le_min hs hw))) ?_
  cases hstop with
  | broken hfail =>
    rw [breakdownAt_eq_iff.mpr ⟨hfail, hle⟩]
    exact (min_le_right _ _).trans (min_le_left _ _)
  | unreadable _ hn hscan =>
    rw [unreadableAt_eq_iff.mpr ⟨hscan, Nat.succ_pos kept, hn⟩, natCast_succ_sub_one]
    exact (min_le_right _ _).trans ((min_le_right _ _).trans (min_le_left _ _))
  | misfit _ _ hcells hwidth =>
    rw [misfitAt_eq h hcells hwidth, natCast_succ_sub_one]
    exact (min_le_right _ _).trans ((min_le_right _ _).trans (min_le_right _ _))
  | exhausted _ hn => exact (min_le_left _ _).trans (Nat.cast_le.mpr hn)

/-- **The ending of a run is the verdict of its script.** -/
theorem verdict_of_stopsAt (h : ∀ i < kept, ∃ cells, script.Passes i cells)
    (hle : kept ≤ script.rows.length) (hstop : script.StopsAt kept ending) :
    script.Verdict (ending.failure? kept) := by
  have hs := lt_unreadableAt_of_passes h
  have hw := lt_misfitAt_of_passes h
  cases hstop with
  | broken hfail =>
    have hd := breakdownAt_eq_iff.mpr ⟨hfail, hle⟩
    refine .broken hd ?_ ?_
    · rw [hd]
      exact ENat.le_sub_one_of_lt hs
    · rw [hd]
      exact ENat.le_sub_one_of_lt hw
  | unreadable hfail hn hscan =>
    have hat := unreadableAt_eq_iff.mpr ⟨hscan, Nat.succ_pos kept, hn⟩
    refine .unreadable hat ?_ ?_
    · rintro ⟨hbefore, -⟩
      rw [hat, natCast_succ_sub_one] at hbefore
      exact not_le_of_gt (lt_breakdownAt_of_passes h hfail) hbefore
    · rw [hat, Nat.cast_succ]
      exact ENat.natCast_add_one_le_iff.mpr hw
  | misfit hfail hscan hcells hwidth =>
    have hat := misfitAt_eq h hcells hwidth
    refine .misfit hat hcells ?_ ?_
    · rintro ⟨-, hbefore⟩
      rw [hat, natCast_succ_sub_one] at hbefore
      exact not_le_of_gt (lt_breakdownAt_of_passes h hfail) hbefore
    · rw [hat]
      exact not_le_of_gt (succ_lt_unreadableAt_of_passes h hscan)
  | exhausted hfail hn =>
    obtain ⟨hd, hs, hw⟩ := places_eq_top h hfail hn
    exact .complete hd hs hw

end Places

/-! ## Queries -/

/-- **A query keeps the rows before the first fault of its script**, and what comes first decides
how it ends.  Faults change nothing before the first of them: the rows are those that the script
without its faults gives, up to their number. -/
theorem materialize_stops_at_first_fault (book : Book) (q : Quoting) (sql : String)
    (w : Watched Scripted.State) (hexecute : (book.scriptFor sql).failExecute = none)
    (hdescribe : (book.scriptFor sql).failDescribe = none) :
    let script := book.scriptFor sql
    let columns := script.columns.map fun c =>
      { name := c.1, typeName := c.2, cls := book.backend.classify c.2 }
    let m := (book.source.materialize q sql w).1
    ∃ kept : Nat,
      (kept : ℕ∞) = min (script.rows.length : ℕ∞) (min script.breakdownAt
        (min (script.unreadableAt - 1) (script.misfitAt - 1))) ∧
      m.result = { columns, rows := (script.rows.take kept).map (Token.ofRow q columns) } ∧
      script.Verdict m.failure? ∧
      ∀ (whole : Book) (v : Watched Scripted.State), whole.backend = book.backend →
        whole.scriptFor sql = { script with failScanAt := none, failAfter := none } →
        m.result.rows = (whole.source.materialize q sql v).1.result.rows.take kept := by
  intro script columns m
  obtain ⟨kept, ending, hle, hpass, hstop, hrun⟩ :=
    exists_passes_stopsAt columns q rfl hexecute hdescribe rfl w.state
  have hm : m = .drained { columns, rows := (script.rows.take kept).map (Token.ofRow q columns) }
    ending := hrun
  have hkept := eq_min_of_stopsAt hpass hle hstop
  refine ⟨kept, hkept, ?_, ?_, ?_⟩
  · rw [hm]
    rfl
  · have hverdict := verdict_of_stopsAt hpass hle hstop
    rw [hm, Materialization.failure?, ResultSet.rowCount, List.length_map, List.length_take,
      Nat.min_eq_left hle]
    exact hverdict
  · intro whole v hbackend hscript
    obtain ⟨all, ending', hle', hpass', hstop', hrun'⟩ :=
      exists_passes_stopsAt columns q hscript hexecute hdescribe
        (by rw [hbackend]) v.state
    -- without its faults a script has only the third of the three places
    have hall := eq_min_of_stopsAt hpass' hle' hstop'
    have hcast : (kept : ℕ∞) ≤ all := by
      rw [hkept, hall]
      exact min_le_min_left _ (min_le_min le_top
        (min_le_min_right _ (tsub_le_tsub_right le_top 1)))
    have hmore : kept ≤ all := Nat.cast_le.mp hcast
    have hwhole : (whole.source.materialize q sql v).1 =
      .drained { columns, rows := (script.rows.take all).map (Token.ofRow q columns) } ending' :=
      hrun'
    rw [hm, hwhole, Materialization.result, Materialization.result, ← List.map_take,
      List.take_take, Nat.min_eq_left hmore]

/-- Row three of three can neither be scanned nor has it the right width, and the breakdown lies
past the end: two rows are kept, and the scan is what fails. -/
theorem materialize_stops_at_first_fault_of_tie :
    let script : Script :=
      { columns := [("ID", "INT4"), ("NAME", "TEXT")],
        rows := [[some [0x31], none], [some [0x32], some [0x30]], [none]],
        failScanAt := some 3, failAfter := some 4 }
    let book : Book := { fallback := script }
    let m := (book.source.materialize {} "SELECT 1" { state := {} }).1
    (book.scriptFor "SELECT 1").failExecute = none ∧
      (book.scriptFor "SELECT 1").failDescribe = none ∧
      script.breakdownAt = ⊤ ∧ script.unreadableAt = 3 ∧ script.misfitAt = 3 ∧
      m.result.rowCount = 2 ∧ m.failure? = some (.rowScan 3 "cannot decode row 3") := by
  intro script book m
  have hs : script.unreadableAt = (3 : Nat) := rfl
  have hw : script.misfitAt = (3 : Nat) := rfl
  obtain ⟨kept, hkept, hresult, hverdict, -⟩ :=
    materialize_stops_at_first_fault book {} "SELECT 1" { state := {} } rfl rfl
  have htwo : kept = 2 := by
    have hmin : (kept : ℕ∞) = (2 : Nat) := hkept
    exact Nat.cast_inj.mp hmin
  refine ⟨rfl, rfl, rfl, hs, hw, ?_, ?_⟩
  · rw [ResultSet.rowCount, hresult, List.length_map, List.length_take, htwo]
    rfl
  · change script.Verdict m.failure? at hverdict
    generalize m.failure? = failure at hverdict ⊢
    cases hverdict with
    | complete _ hs' _ => cases hs'
    | broken hd => cases hd
    | unreadable hs' =>
      rw [hs, Nat.cast_inj] at hs'
      rw [← hs']
      rfl
    | misfit _ _ _ hs' =>
      rw [hs, hw] at hs'
      exact absurd le_rfl hs'

end LiteralRows
