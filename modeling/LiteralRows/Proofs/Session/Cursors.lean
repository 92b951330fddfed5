import LiteralRows.Proofs.Session.Observed

/-!
# The cursors of a session

A session opens cursors and gives them back in any order, and between that it materializes queries,
each over a cursor of its own.  What the source counts as in use is then held by the cursors of the
session and by nobody else.

* `heldBy` is what the cursors of a session hold, and `Accounted` says that nothing else is in use.
  `Accounted.step` keeps that for any source with a law about its cursors, and `Accounted.after`
  takes it through a session.
* `Tally` counts openings and drops from what a session answers.  `Balances.step` and
  `Balances.after` say that the difference is the number of live cursors.
* `openCursors_eq_opened_sub_dropped` puts both together for scripted sources.

A step that materializes leaves everything in use as it was, however its queries end
(`held_step_of_isWhole`).
-/

namespace LiteralRows

/-- A scripted source counts its open cursors. -/
theorem Scripted.Book.holding (book : Scripted.Book) :
    book.source.Holding Scripted.State.openCursors fun _ => 1 where
  refused {sql s cause s'} hopen := by
    simp only [Scripted.Book.source] at hopen
    cases hscript : (book.scriptFor sql).failExecute with
    | none =>
      rw [hscript] at hopen
      cases hopen
    | some message =>
      rw [hscript] at hopen
      cases hopen
      rfl
  opened {sql s k s'} hopen := by
    simp only [Scripted.Book.source] at hopen
    cases hscript : (book.scriptFor sql).failExecute with
    | none =>
      rw [hscript] at hopen
      cases hopen
      rfl
    | some message =>
      rw [hscript] at hopen
      cases hopen
  describe k s := by
    simp only [Scripted.Book.source]
    cases k.script.failDescribe <;> rfl
  advance _ _ _ := rfl
  release _ _ := rfl
  close _ := rfl

namespace Session

variable {σ κ : Type} {src : Source σ κ} {held : σ → Nat} {weight : κ → Nat} {s : Session σ κ}

/-! ## What cursors hold -/

/-- What the cursors that were not given back hold, all together. -/
def heldBy (weight : κ → Nat) : List (Option κ) → Nat
  | [] => 0
  | k? :: cursors => k?.elim 0 weight + heldBy weight cursors

theorem heldBy_cons (k? : Option κ) (cursors : List (Option κ)) :
    heldBy weight (k? :: cursors) = k?.elim 0 weight + heldBy weight cursors :=
  rfl

theorem heldBy_concat (k : κ) (cursors : List (Option κ)) :
    heldBy weight (cursors ++ [some k]) = heldBy weight cursors + weight k := by
  induction cursors with
  | nil => exact Nat.add_comm _ _
  | cons k? cursors ih => rw [List.cons_append, heldBy_cons, heldBy_cons, ih, Nat.add_assoc]

theorem heldBy_gone (cursors : List (Option κ)) :
    heldBy weight (cursors.map fun _ => none) = 0 := by
  induction cursors with
  | nil => rfl
  | cons k? cursors ih => rw [List.map_cons, heldBy_cons, ih]; rfl

/-- Another cursor in the place of one changes what is held by the difference. -/
theorem heldBy_set (weight : κ → Nat) {cursors : List (Option κ)} {number : Nat} {k : κ}
    (h : cursors[number]? = some (some k)) (k? : Option κ) :
    heldBy weight (cursors.set number k?) + weight k =
      heldBy weight cursors + k?.elim 0 weight := by
  induction cursors generalizing number with
  | nil => cases h
  | cons first cursors ih =>
    cases number with
    | zero =>
      cases h
      rw [List.set_cons_zero, heldBy_cons, heldBy_cons, Option.elim_some]
      omega
    | succ number =>
      have hrest := ih h
      rw [List.set_cons_succ, heldBy_cons, heldBy_cons]
      omega

/-- No cursor holds more than all of them. -/
theorem weight_le_heldBy {cursors : List (Option κ)} {number : Nat} {k : κ}
    (h : cursors[number]? = some (some k)) : weight k ≤ heldBy weight cursors := by
  have hremoved := heldBy_set weight h none
  rw [Option.elim_none] at hremoved
  omega

theorem getElem?_of_cursor? {number : Nat} {k : κ} (h : s.cursor? number = some k) :
    s.cursors[number]? = some (some k) := by
  rw [cursor?] at h
  exact Option.join_eq_some_iff.mp h

/-! ## Steps that materialize -/

/-- The step materializes queries and has no cursor left of them. -/
def Step.isWhole : Step → Bool
  | .materialize _ _ _ => true
  | st => st.isObserved

/-- Only the materialization of a query can go without an observer. -/
theorem Step.isObserved_or_of_isWhole {st : Step} (h : st.isWhole) :
    st.isObserved ∨ ∃ q sql, st = .materialize q false sql := by
  cases st with
  | materialize q observed sql =>
    cases observed with
    | false => exact .inr ⟨q, sql, rfl⟩
    | true => exact .inl rfl
  | _ => exact .inl h

theorem cursors_step_of_isWhole {st : Step} (h : st.isWhole) :
    (step src st s).2.cursors = s.cursors := by
  cases st <;> first | rfl | cases h

/-- **A step that materializes leaves in use what was in use**, on every way that it can end. -/
theorem held_step_of_isWhole (hholding : src.Holding held weight) {st : Step} (h : st.isWhole) :
    held (step src st s).2.source.state = held s.source.state := by
  rcases Step.isObserved_or_of_isWhole h with hobserved | ⟨q, sql, rfl⟩
  · obtain ⟨_, -, hasks⟩ := exists_asks_step src hobserved s
    exact hholding.asks hasks
  · exact hholding.run q sql s.source.state

/-! ## Nothing else is in use -/

/-- What is in use of the source is held by the cursors of the session. -/
def Accounted (held : σ → Nat) (weight : κ → Nat) (s : Session σ κ) : Prop :=
  held s.source.state = heldBy weight s.cursors

/-- Giving every cursor back leaves nothing in use. -/
theorem held_releaseAll (hholding : src.Holding held weight) (hs : Accounted held weight s) :
    held (s.releaseAll src).source.state = 0 := by
  obtain ⟨⟨state, notes⟩, cursors⟩ := s
  change held state = heldBy weight cursors at hs
  change held ((cursors.filterMap id).foldl (fun state k => src.release k state) state) = 0
  induction cursors generalizing state with
  | nil => exact hs
  | cons k? cursors ih =>
    rw [heldBy_cons] at hs
    cases k? with
    | none => exact ih state (hs.trans (Nat.zero_add _))
    | some k =>
      refine ih (src.release k state) ?_
      rw [hholding.release, hs]
      exact Nat.add_sub_cancel_left _ _

/-- **One step** leaves nothing in use but what cursors hold. -/
theorem Accounted.step (hs : Accounted held weight s) (hholding : src.Holding held weight)
    (st : Step) : Accounted held weight (step src st s).2 := by
  by_cases hwhole : st.isWhole
  · rw [Accounted, held_step_of_isWhole hholding hwhole, cursors_step_of_isWhole hwhole]
    exact hs
  · cases st with
    | openCursor sql =>
      rcases hopen : src.openCursor sql s.source.state with ⟨cause | k, state⟩
      · simp only [Session.step, hopen]
        exact (hholding.refused hopen).trans hs
      · simp only [Session.step, hopen]
        change held state = heldBy weight (s.cursors ++ [some k])
        rw [hholding.opened hopen, heldBy_concat, hs]
    | describe number =>
      cases hk : s.cursor? number with
      | none =>
        simp only [Session.step, hk]
        exact hs
      | some k =>
        simp only [Session.step, hk]
        exact (hholding.describe k s.source.state).trans hs
    | classify number typeName =>
      cases hk : s.cursor? number <;> simp only [Session.step, hk] <;> exact hs
    | advance number =>
      cases hk : s.cursor? number with
      | none =>
        simp only [Session.step, hk]
        exact hs
      | some k =>
        simp only [Session.step, hk]
        have hlive := getElem?_of_cursor? hk
        have hle : weight k ≤ held s.source.state := by
          rw [hs]
          exact weight_le_heldBy hlive
        have hadvance := hholding.advance k s.source.state hle
        have hmoved := heldBy_set weight hlive
          (some (src.advance k s.source.state).2.1)
        change held s.source.state = _ at hs
        change held (src.advance k s.source.state).2.2 =
          heldBy weight (s.cursors.set number (some (src.advance k s.source.state).2.1))
        rw [Option.elim_some] at hmoved
        omega
    | scan number =>
      cases hk : s.cursor? number <;> simp only [Session.step, hk] <;> exact hs
    | drop number =>
      cases hk : s.cursor? number with
      | none =>
        simp only [Session.step, hk]
        exact hs
      | some k =>
        simp only [Session.step, hk]
        have hremoved := heldBy_set weight (getElem?_of_cursor? hk) none
        change held s.source.state = _ at hs
        change held (src.release k s.source.state) = heldBy weight (s.cursors.set number none)
        rw [hholding.release]
        rw [Option.elim_none] at hremoved
        omega
    | execute sql =>
      change held (src.execute sql s.source.state).2 = _
      rcases hopen : src.openCursor sql s.source.state with ⟨cause | k, state⟩
      · simp only [Source.execute, hopen]
        exact (hholding.refused hopen).trans hs
      · simp only [Source.execute, hopen]
        rw [hholding.release, hholding.opened hopen, Nat.add_sub_cancel]
        exact hs
    | close =>
      change held (src.close (s.releaseAll src).source.state) =
        heldBy weight (s.cursors.map fun _ => none)
      rw [hholding.close, held_releaseAll hholding hs, heldBy_gone]
    | _ => exact absurd rfl hwhole

/-- **A whole session** leaves nothing in use but what cursors hold. -/
theorem Accounted.after (hs : Accounted held weight s) (hholding : src.Holding held weight)
    (steps : List Step) : Accounted held weight (after src steps s) := by
  induction steps generalizing s with
  | nil => exact hs
  | cons st steps ih => exact ih (hs.step hholding st)

/-! ## Counting -/

/-- The steps of a session with their answers. -/
def transcript (src : Source σ κ) : List Step → Session σ κ → List (Step × Answer)
  | [], _ => []
  | st :: steps, s => (st, (step src st s).1) :: transcript src steps (step src st s).2

/-- How many cursors were opened so far, and how many of them were dropped. -/
structure Tally where
  opened : Nat := 0
  dropped : Nat := 0
  deriving DecidableEq, Repr

namespace Tally

/-- Counts one step.  Only an opening that succeeds opens a cursor, and only the drop of a cursor
that is there drops one; closing the source drops all that are left. -/
def count (t : Tally) : Step × Answer → Tally
  | (.openCursor _, .opened (.ok _)) => { t with opened := t.opened + 1 }
  | (.drop _, .done) => { t with dropped := t.dropped + 1 }
  | (.close, _) => { t with dropped := t.opened }
  | _ => t

/-- Counts a whole history. -/
def ofHistory (history : List (Step × Answer)) : Tally :=
  history.foldl count {}

end Tally

/-- The cursors that are there are those that were opened and not dropped. -/
def Balances (t : Tally) (s : Session σ κ) : Prop :=
  heldBy (fun _ => 1) s.cursors + t.dropped = t.opened

/-- **One step** is counted for what it does to the cursors. -/
theorem Balances.step {t : Tally} (hs : Balances t s) (src : Source σ κ) (st : Step) :
    Balances (t.count (st, (step src st s).1)) (step src st s).2 := by
  cases st with
  | openCursor sql =>
    rcases hopen : src.openCursor sql s.source.state with ⟨cause | k, state⟩
    · simp only [Session.step, hopen]
      exact hs
    · simp only [Session.step, hopen]
      change heldBy (fun _ => 1) (s.cursors ++ [some k]) + t.dropped = t.opened + 1
      rw [Balances] at hs
      rw [heldBy_concat]
      omega
  | describe number =>
    cases hk : s.cursor? number <;> simp only [Session.step, hk] <;> exact hs
  | classify number typeName =>
    cases hk : s.cursor? number <;> simp only [Session.step, hk] <;> exact hs
  | advance number =>
    cases hk : s.cursor? number with
    | none =>
      simp only [Session.step, hk]
      exact hs
    | some k =>
      simp only [Session.step, hk]
      have hmoved := heldBy_set (fun _ => 1) (getElem?_of_cursor? hk)
        (some (src.advance k s.source.state).2.1)
      change heldBy (fun _ => 1) (s.cursors.set number _) + t.dropped = t.opened
      rw [Nat.add_right_cancel hmoved]
      exact hs
  | scan number =>
    cases hk : s.cursor? number <;> simp only [Session.step, hk] <;> exact hs
  | drop number =>
    cases hk : s.cursor? number with
    | none =>
      simp only [Session.step, hk]
      exact hs
    | some k =>
      simp only [Session.step, hk]
      have hremoved := heldBy_set (fun _ => 1) (getElem?_of_cursor? hk) none
      change heldBy (fun _ => 1) (s.cursors.set number none) + (t.dropped + 1) = t.opened
      rw [Balances] at hs
      rw [Option.elim_none] at hremoved
      omega
  | close =>
    change heldBy (fun _ => 1) (s.cursors.map fun _ => none) + t.opened = t.opened
    rw [heldBy_gone, Nat.zero_add]
  | _ => exact hs

/-- **A whole session** is counted for what it does to the cursors. -/
theorem Balances.after {t : Tally} (hs : Balances t s) (src : Source σ κ) (steps : List Step) :
    Balances ((transcript src steps s).foldl Tally.count t) (after src steps s) := by
  induction steps generalizing s t with
  | nil => exact hs
  | cons st steps ih => exact ih (hs.step src st)

/-- **A scripted source counts its cursors right.**  After any steps, in any order and with any
scripts, the open cursors are those that were opened and not dropped since, of which there are never
more than were opened.  An opening that fails does not count, and a step that materializes queries
leaves the number as it was, however it ends. -/
theorem openCursors_eq_opened_sub_dropped (book : Scripted.Book) (steps : List Step) :
    let start : Session Scripted.State Scripted.Cursor := fresh {}
    let s := after book.source steps start
    let t := Tally.ofHistory (transcript book.source steps start)
    t.dropped ≤ t.opened ∧ s.source.state.openCursors = t.opened - t.dropped ∧
      (∀ sql cause, (step book.source (.openCursor sql) s).1 = .opened (.error cause) →
        (step book.source (.openCursor sql) s).2.source.state.openCursors =
          s.source.state.openCursors) ∧
      ∀ st : Step, st.isWhole →
        (step book.source st s).2.source.state.openCursors = s.source.state.openCursors := by
  intro start s t
  have hstart : Accounted Scripted.State.openCursors (fun _ => 1) start := rfl
  have haccounted : Accounted Scripted.State.openCursors (fun _ => 1) s :=
    hstart.after book.holding steps
  have hnothing : Balances {} start := rfl
  have hbalances : Balances t s := hnothing.after book.source steps
  rw [Accounted] at haccounted
  rw [Balances] at hbalances
  refine ⟨by omega, by omega, ?_, fun st hst => held_step_of_isWhole book.holding hst⟩
  intro sql cause hanswer
  rcases hopen : book.source.openCursor sql s.source.state with ⟨refusal | k, state⟩
  · simp only [step, hopen]
    exact book.holding.refused hopen
  · simp only [step, hopen] at hanswer
    cases hanswer

/-- Two cursors are opened and a third is refused; one of the two breaks down, the other is dropped
twice.  One cursor is left, and a check that breaks down as well leaves it alone. -/
theorem openCursors_eq_opened_sub_dropped_of_interleaved :
    let listing : Scripted.Script :=
      { columns := [("name", "NAME")], rows := [[some [0x6d]]], failAfter := some 1 }
    let book : Scripted.Book :=
      { fallback := listing, entries := [("t1", { failExecute := some "no such table" })] }
    let steps : List Step :=
      [.openCursor "SELECT 1", .openCursor "SELECT * FROM t1", .advance 0, .openCursor "SELECT 2",
        .drop 1, .advance 0, .drop 1]
    let s : Session Scripted.State Scripted.Cursor := after book.source steps (fresh {})
    s.source.state.openCursors = 1 ∧
      (step book.source (.ensureTables "m" ["t1"]) s).2.source.state.openCursors = 1 := by
  intro listing book steps s
  obtain ⟨-, hcount, -, hwhole⟩ := openCursors_eq_opened_sub_dropped book steps
  have hone : s.source.state.openCursors = 1 := hcount.trans (by decide +kernel)
  exact ⟨hone, (hwhole (.ensureTables "m" ["t1"]) rfl).trans hone⟩

end Session
end LiteralRows
