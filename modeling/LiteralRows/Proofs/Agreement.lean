import LiteralRows.Proofs.Session.Cursors

/-!
# Sources that agree

Two sources with the same kind of cursor can give the very same answers although their states have
nothing to do with each other.  `Simulation` compares runs up to the texts of failures; here
nothing is left out.

* `Source.SameRows`: a cursor is moved, scanned and classified alike by both sources, whatever
  states they are in.  Then both read the same rows from it (`SameRows.reads`), and the run of a
  query gives the same where its opening and its description do (`SameRows.run_fst_eq`).
* `Source.Agree`: from related states every query gives the same and leaves related states behind.
* `Agree.names`, `Agree.ensureSchema` and `Agree.ensureTables` carry this to the catalog,
  `Agree.step` to every step of a session that materializes queries, and `Agree.transcript` to any
  sequence of such steps.
-/

namespace LiteralRows
namespace Source

/-! ## One cursor on two sources -/

section Rows

variable {σ τ κ : Type} {src : Source σ κ} {tgt : Source τ κ} {width : Nat}

/-- Both sources move, scan and classify a cursor alike, whatever states they are in. -/
structure SameRows (src : Source σ κ) (tgt : Source τ κ) : Prop where
  answer : ∀ k s t, (src.advance k s).1 = (tgt.advance k t).1
  cursor : ∀ k s t, (src.advance k s).2.1 = (tgt.advance k t).2.1
  scan : ∀ k, src.scan k = tgt.scan k
  classify : ∀ k typeName, src.classify k typeName = tgt.classify k typeName

namespace SameRows

theorem turn_eq (h : src.SameRows tgt) (width : Nat) (k : κ) (s : σ) (t : τ) :
    src.turn width (k, s) = tgt.turn width (k, t) := by
  rw [turn, turn, next, next, h.answer k s t, h.cursor k s t, h.scan]

/-- **Both sources read the same rows from a cursor** and end alike. -/
theorem reads (h : src.SameRows tgt) {p : κ × σ} {rows : List (List RawCell)} {ending : Ending}
    (hreads : src.Reads width p rows ending) :
    ∀ t : τ, tgt.Reads width (p.1, t) rows ending := by
  induction hreads with
  | @stop p ending hturn =>
    intro t
    exact .stop ((h.turn_eq width p.1 p.2 t).symm.trans hturn)
  | @row p cells rows ending hturn _ ih =>
    intro t
    have hmore := ih (tgt.next (p.1, t)).2
    have hcursor : (src.next p).1 = (tgt.next (p.1, t)).1 := h.cursor p.1 p.2 t
    rw [hcursor] at hmore
    exact .row ((h.turn_eq width p.1 p.2 t).symm.trans hturn) hmore

theorem columnsOf_eq (h : src.SameRows tgt) (k : κ) (described : List (String × String)) :
    src.columnsOf k described = tgt.columnsOf k described := by
  simp only [columnsOf, h.classify]

/-- **A query that is opened and described alike gives the same on both sources.** -/
theorem run_fst_eq (h : src.SameRows tgt) {sql : String} {s : σ} {t : τ} (q : Quoting)
    (hopen : (src.openCursor sql s).1 = (tgt.openCursor sql t).1)
    (hdescribe : ∀ k, (src.openCursor sql s).1 = .ok k →
      (src.describe k (src.openCursor sql s).2).1 =
        (tgt.describe k (tgt.openCursor sql t).2).1) :
    (src.run q sql s).1 = (tgt.run q sql t).1 := by
  rcases hsrc : src.openCursor sql s with ⟨outcome, opened⟩
  rcases htgt : tgt.openCursor sql t with ⟨outcome', opened'⟩
  rw [hsrc, htgt] at hopen hdescribe
  change outcome = outcome' at hopen
  subst hopen
  cases outcome with
  | error cause => simp only [run, hsrc, htgt]
  | ok k =>
    have hdescribe := hdescribe k rfl
    rcases hready : src.describe k opened with ⟨described, ready⟩
    rcases hready' : tgt.describe k opened' with ⟨described', ready'⟩
    rw [hready, hready'] at hdescribe
    change described = described' at hdescribe
    subst hdescribe
    cases described with
    | error cause => simp only [run, hsrc, htgt, hready, hready']
    | ok described =>
      obtain ⟨rows, ending, hreads⟩ := src.exists_reads described.length (k, ready)
      have hreads' := h.reads hreads ready'
      rw [hreads.run_eq q hsrc hready, hreads'.run_eq q htgt hready', h.columnsOf_eq]

end SameRows
end Rows

/-! ## Whole queries -/

variable {σ κ τ μ : Type} {src : Source σ κ} {tgt : Source τ μ} {R : σ → τ → Prop}

/-- From related states every query gives the same, and leads to related states. -/
structure Agree (src : Source σ κ) (tgt : Source τ μ) (R : σ → τ → Prop) : Prop where
  backend : src.backend = tgt.backend
  run : ∀ q sql s t, R s t → (src.run q sql s).1 = (tgt.run q sql t).1
  related : ∀ q sql s t, R s t → R (src.run q sql s).2 (tgt.run q sql t).2

namespace Agree

variable (h : src.Agree tgt R) {w : Watched σ} {v : Watched τ}

include h

/-- A lookup answers the same. -/
theorem names (lookup : Catalog.Lookup) (hR : R w.state v.state) :
    (Catalog.names src lookup w).1 = (Catalog.names tgt lookup v).1 ∧
      R (Catalog.names src lookup w).2.state (Catalog.names tgt lookup v).2.state := by
  have hrun := h.run {} (lookup.sql tgt.backend) w.state v.state hR
  have hleft := h.related {} (lookup.sql tgt.backend) w.state v.state hR
  simp only [Catalog.names, materialize, runUnseen, Watched.note, h.backend, hrun]
  exact ⟨trivial, hleft⟩

/-- The check of a schema answers the same. -/
theorem ensureSchema (schema : String) (hR : R w.state v.state) :
    (Catalog.ensureSchema src schema w).1 = (Catalog.ensureSchema tgt schema v).1 ∧
      R (Catalog.ensureSchema src schema w).2.state
        (Catalog.ensureSchema tgt schema v).2.state := by
  obtain ⟨hanswer, hleft⟩ := h.names .schemas hR
  rcases hsrc : Catalog.schemas src w with ⟨outcome, w'⟩
  rcases htgt : Catalog.schemas tgt v with ⟨outcome', v'⟩
  change (Catalog.schemas src w).1 = (Catalog.schemas tgt v).1 at hanswer
  change R (Catalog.schemas src w).2.state (Catalog.schemas tgt v).2.state at hleft
  rw [hsrc, htgt] at hanswer hleft
  change outcome = outcome' at hanswer
  subst hanswer
  cases outcome with
  | error failure =>
    rw [Catalog.ensureSchema_of_error hsrc, Catalog.ensureSchema_of_error htgt]
    exact ⟨rfl, hleft⟩
  | ok found =>
    by_cases hmem : tgt.backend.fold schema ∈ found
    · rw [Catalog.ensureSchema_of_mem hsrc (h.backend ▸ hmem),
        Catalog.ensureSchema_of_mem htgt hmem]
      exact ⟨rfl, hleft⟩
    · rw [Catalog.ensureSchema_of_notMem hsrc (h.backend ▸ hmem),
        Catalog.ensureSchema_of_notMem htgt hmem, h.backend]
      exact ⟨rfl, hleft⟩

/-- The check of tables answers the same. -/
theorem ensureTables (schema : String) (wanted : List String) (hR : R w.state v.state) :
    (Catalog.ensureTables src schema wanted w).1 =
        (Catalog.ensureTables tgt schema wanted v).1 ∧
      R (Catalog.ensureTables src schema wanted w).2.state
        (Catalog.ensureTables tgt schema wanted v).2.state := by
  obtain ⟨hchecked, hbetween⟩ := h.ensureSchema schema hR
  rcases hsrc : Catalog.ensureSchema src schema w with ⟨outcome, w'⟩
  rcases htgt : Catalog.ensureSchema tgt schema v with ⟨outcome', v'⟩
  rw [hsrc, htgt] at hchecked hbetween
  change outcome = outcome' at hchecked
  subst hchecked
  cases outcome with
  | error failure =>
    rw [Catalog.ensureTables_of_schema_error hsrc, Catalog.ensureTables_of_schema_error htgt]
    exact ⟨rfl, hbetween⟩
  | ok =>
    obtain ⟨hanswer, hleft⟩ := h.names (.tables (tgt.backend.fold schema)) hbetween
    simp only [Catalog.ensureTables, Catalog.tables, hsrc, htgt, h.backend]
    generalize Catalog.names src (.tables (tgt.backend.fold schema)) w' = listed at hanswer hleft ⊢
    generalize Catalog.names tgt (.tables (tgt.backend.fold schema)) v' = listed' at hanswer hleft ⊢
    obtain ⟨outcome, left⟩ := listed
    obtain ⟨outcome', left'⟩ := listed'
    change outcome = outcome' at hanswer
    subst hanswer
    cases outcome with
    | error failure => exact ⟨rfl, hleft⟩
    | ok found => dsimp only; split <;> exact ⟨rfl, hleft⟩

end Agree
end Source

/-! ## Sessions -/

namespace Source.Agree

open Session

variable {σ κ τ μ : Type} {src : Source σ κ} {tgt : Source τ μ} {R : σ → τ → Prop}
  (h : src.Agree tgt R)

include h

/-- **A step that materializes queries answers the same** from related states. -/
theorem step {st : Step} (hst : st.isWhole) {s : Session σ κ} {t : Session τ μ}
    (hR : R s.source.state t.source.state) :
    (Session.step src st s).1 = (Session.step tgt st t).1 ∧
      R (Session.step src st s).2.source.state (Session.step tgt st t).2.source.state := by
  cases st with
  | materialize q observed sql =>
    have hrun := h.run q sql s.source.state t.source.state hR
    have hleft := h.related q sql s.source.state t.source.state hR
    cases observed with
    | false => exact ⟨congrArg Answer.materialized hrun, hleft⟩
    | true => exact ⟨congrArg Answer.materialized hrun, hleft⟩
  | listSchemas =>
    obtain ⟨hanswer, hleft⟩ := h.names .schemas hR
    exact ⟨congrArg Answer.names hanswer, hleft⟩
  | listTables schema =>
    obtain ⟨hanswer, hleft⟩ := h.names (.tables (tgt.backend.fold schema)) hR
    simp only [Session.step, Catalog.tables, h.backend]
    exact ⟨congrArg Answer.names hanswer, hleft⟩
  | ensureSchema schema =>
    obtain ⟨hanswer, hleft⟩ := h.ensureSchema schema hR
    exact ⟨congrArg Answer.checked hanswer, hleft⟩
  | ensureTables schema wanted =>
    obtain ⟨hanswer, hleft⟩ := h.ensureTables schema wanted hR
    exact ⟨congrArg Answer.checked hanswer, hleft⟩
  | _ => cases hst

/-- **Any sequence of such steps answers the same**, and leads to related states. -/
theorem transcript {steps : List Step} (hsteps : ∀ st ∈ steps, st.isWhole) {s : Session σ κ}
    {t : Session τ μ} (hR : R s.source.state t.source.state) :
    Session.transcript src steps s = Session.transcript tgt steps t ∧
      R (after src steps s).source.state (after tgt steps t).source.state := by
  induction steps generalizing s t with
  | nil => exact ⟨rfl, hR⟩
  | cons st steps ih =>
    obtain ⟨hanswer, hleft⟩ := h.step (hsteps st List.mem_cons_self) hR
    obtain ⟨hmore, hend⟩ := ih (fun st' hst' => hsteps st' (List.mem_cons_of_mem st hst')) hleft
    rw [Session.transcript, Session.transcript, hanswer, hmore]
    exact ⟨rfl, hend⟩

end Source.Agree
end LiteralRows
