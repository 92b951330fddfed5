import LiteralRows.Proofs.Catalog.Requirements
import LiteralRows.Proofs.Source.Accounts
import LiteralRows.Session
import LiteralRows.Source.Scripted

/-!
# What the observer of a session sees

The materializer shows a query to the observer and then has it executed, and listings and checks
have no other way to a source.  So the observer and the source see the same queries, in the same
order and as often, whatever the source makes of them.

* `Session.after` is a session after some steps.
* `Step.isObserved` says that a step goes through the materializer with its observer, and `Queries`
  which queries a step makes.  The check of tables is the only one whose queries depend on an
  answer.
* `exists_asks_step`: such a step asks for its queries and does nothing else to the source.
* `Recorded` is the invariant: a ledger of the source agrees with what the observer was shown.
  `Recorded.step` keeps it, `Recorded.after` takes it through a session.
* `shown_eq_executed` is the result for scripted sources, whose ledger is what they executed.
-/

namespace LiteralRows

open Catalog

/-- A scripted source keeps a ledger of what it executed. -/
theorem Scripted.Book.ledger (book : Scripted.Book) :
    book.source.Ledger Scripted.State.executed where
  openCursor sql s := by
    simp only [Scripted.Book.source]
    cases (book.scriptFor sql).failExecute <;> rfl
  describe k s := by
    simp only [Scripted.Book.source]
    cases k.script.failDescribe <;> rfl
  advance _ _ := rfl
  release _ _ := rfl

namespace Session

variable {σ κ : Type}

/-- A session that begins with the source in this state. -/
def fresh (state : σ) : Session σ κ :=
  { source := { state } }

/-- The session after some steps. -/
def after (src : Source σ κ) (steps : List Step) (s : Session σ κ) : Session σ κ :=
  steps.foldl (fun s st => (step src st s).2) s

/-! ## The queries of a step -/

/-- The step goes through the materializer, and the observer is told. -/
def Step.isObserved : Step → Bool
  | .materialize _ observed _ => observed
  | .listSchemas | .listTables _ | .ensureSchema _ | .ensureTables _ _ => true
  | _ => false

/-- The queries that an observed step makes.  Tables are looked up only in a schema that the source
has listed just before. -/
inductive Queries (src : Source σ κ) (w : Watched σ) : Step → List String → Prop
  | materialize (q : Quoting) (sql : String) : Queries src w (.materialize q true sql) [sql]
  | listSchemas : Queries src w .listSchemas [Lookup.schemas.sql src.backend]
  | listTables (schema : String) :
    Queries src w (.listTables schema)
      [(Lookup.tables (src.backend.fold schema)).sql src.backend]
  | ensureSchema (schema : String) :
    Queries src w (.ensureSchema schema) [Lookup.schemas.sql src.backend]
  | ensureTables (schema : String) (tables : List String)
    (h : ∃ found, (schemas src w).1 = .ok found ∧ src.backend.fold schema ∈ found) :
    Queries src w (.ensureTables schema tables)
      [Lookup.schemas.sql src.backend,
        (Lookup.tables (src.backend.fold schema)).sql src.backend]
  | ensureTablesOfMissing (schema : String) (tables : List String)
    (h : ¬ ∃ found, (schemas src w).1 = .ok found ∧ src.backend.fold schema ∈ found) :
    Queries src w (.ensureTables schema tables) [Lookup.schemas.sql src.backend]

/-- **An observed step asks for its queries**, and does nothing else to the source. -/
theorem exists_asks_step (src : Source σ κ) {st : Step} (h : st.isObserved) (s : Session σ κ) :
    ∃ texts, Queries src s.source st texts ∧ src.Asks s.source texts (step src st s).2.source := by
  cases st with
  | materialize q observed sql =>
    cases observed with
    | false => cases h
    | true => exact ⟨_, .materialize q sql, .one src q sql s.source⟩
  | listSchemas => exact ⟨_, .listSchemas, asks_names src .schemas s.source⟩
  | listTables schema => exact ⟨_, .listTables schema, asks_names src _ s.source⟩
  | ensureSchema schema =>
    exact ⟨_, .ensureSchema schema, (checked_ensureSchema src schema s.source).asks_singleton⟩
  | ensureTables schema tables =>
    have hchecked := checked_ensureTables src schema tables s.source
    by_cases hschema : (schemaRequirement src.backend schema).MetBy src s.source
    · have hasks := (asks_names src .schemas s.source).trans (hchecked.tail hschema).asks_singleton
      exact ⟨_, .ensureTables schema tables (metBy_schemaRequirement.mp hschema), hasks⟩
    · have hmissing := mt metBy_schemaRequirement.mpr hschema
      exact ⟨_, .ensureTablesOfMissing schema tables hmissing, hchecked.asks_of_unmet hschema⟩
  | _ => cases h

/-! ## The observer and the ledger -/

/-- The observer was shown what stands in the ledger, and each query right before it was sent. -/
structure Recorded (ledger : σ → List String) (s : Session σ κ) : Prop where
  shown_eq : s.source.shown = ledger s.source.state
  exchanges_eq : s.source.notes.filter Note.isQuery =
    (ledger s.source.state).flatMap Note.exchange

variable {src : Source σ κ} {ledger : σ → List String} {s : Session σ κ}

theorem recorded_fresh {state : σ} (h : ledger state = []) :
    Recorded ledger (fresh state : Session σ κ) := by
  constructor
  · exact h.symm
  · change [] = (ledger state).flatMap Note.exchange
    rw [h, List.flatMap_nil]

/-- **One step** adds the same queries to the ledger and to what the observer was shown. -/
theorem Recorded.step (hs : Recorded ledger s) (hledger : src.Ledger ledger) {st : Step}
    (hst : st.isObserved) : Recorded ledger (step src st s).2 := by
  obtain ⟨texts, -, hasks⟩ := exists_asks_step src hst s
  constructor
  · rw [hasks.shown_eq, hledger.asks hasks, hs.shown_eq]
  · rw [hasks.exchanges_eq, hledger.asks hasks, hs.exchanges_eq, List.flatMap_append]

/-- **A whole session** keeps them alike. -/
theorem Recorded.after (hs : Recorded ledger s) (hledger : src.Ledger ledger) {steps : List Step}
    (hsteps : ∀ st ∈ steps, st.isObserved) : Recorded ledger (after src steps s) := by
  induction steps generalizing s with
  | nil => exact hs
  | cons st steps ih =>
    have hst := hsteps st List.mem_cons_self
    exact ih (hs.step hledger hst) fun later hlater => hsteps later (List.mem_cons_of_mem st hlater)

/-- **The observer sees what is executed.**  After any observed steps on a scripted source, the
observer was shown the queries that were executed, in the same order and as often, and each of them
right before it was sent, whether it failed or not.  One more step adds the queries that are its
own: one, or two for a check of tables whose schema the first lookup has listed. -/
theorem shown_eq_executed (book : Scripted.Book) {steps : List Step}
    (hsteps : ∀ st ∈ steps, st.isObserved) :
    let s : Session Scripted.State Scripted.Cursor := after book.source steps (fresh {})
    s.source.shown = s.source.state.executed ∧
      s.source.notes.filter Note.isQuery = s.source.state.executed.flatMap Note.exchange ∧
      ∀ st : Step, st.isObserved → ∃ texts, Queries book.source s.source st texts ∧
        (step book.source st s).2.source.state.executed = s.source.state.executed ++ texts := by
  intro s
  have hrecorded : Recorded Scripted.State.executed s :=
    (recorded_fresh rfl).after book.ledger hsteps
  refine ⟨hrecorded.shown_eq, hrecorded.exchanges_eq, ?_⟩
  intro st hst
  obtain ⟨texts, hqueries, hasks⟩ := exists_asks_step book.source hst s
  exact ⟨texts, hqueries, book.ledger.asks hasks⟩

/-- A query that is refused, a check of a table that is missing, and a check in a schema that is
missing: the observer has seen all four queries. -/
theorem shown_eq_executed_of_failures :
    let listing : Scripted.Script :=
      { columns := [("name", "NAME")], rows := [[some [0x6d]]] }
    let book : Scripted.Book :=
      { fallback := listing, entries := [("t1", { failExecute := some "no such table" })] }
    let steps : List Step :=
      [.materialize {} true "SELECT * FROM t1", .ensureTables "M" ["t1"], .ensureTables "n" ["t1"]]
    (after book.source steps (fresh {})).source.shown =
      ["SELECT * FROM t1", Lookup.schemas.sql .postgres, (Lookup.tables "m").sql .postgres,
        Lookup.schemas.sql .postgres] := by
  intro listing book steps
  have hobserved : ∀ st ∈ steps, st.isObserved := by simp [steps, Step.isObserved]
  obtain ⟨hshown, -, -⟩ := shown_eq_executed book hobserved
  exact hshown.trans (by decide +kernel)

end Session
end LiteralRows
