import LiteralRows.Proofs.Draining

/-!
# Sources in step

Two sources may keep quite different states and still give the same run.  All that has to be shown
is a relation between their places under which one turn does the same on both sides and leads to
related places again; the texts of failures are left open, since every driver has its own.

* `Failure.outline` and `Ending.outline` forget that text and keep everything else.
* `Source.InStep` is the condition on single turns.
* `Reads.of_inStep` carries it to whole runs of rows, and `run_alike_of_inStep` to queries.
-/

namespace LiteralRows

/-- The failure without the text of its cause: the stage, and the row or the number of rows. -/
def Failure.outline : Failure → Failure
  | connectionOpen _ => connectionOpen ""
  | unreachable _ => unreachable ""
  | execution _ => execution ""
  | describe _ => describe ""
  | rowScan row _ => rowScan row ""
  | cursorTerminal rows _ => cursorTerminal rows ""
  | schema _ => schema ""
  | config _ => config ""

/-- The ending without the text of its cause. -/
def Ending.outline : Ending → Ending
  | exhausted => exhausted
  | faulted _ => faulted ""
  | unreadable _ => unreadable ""
  | misfit expected got => misfit expected got

theorem Ending.map_outline_failure? {e e' : Ending} (h : e.outline = e'.outline) (rows : Nat) :
    (e.failure? rows).map Failure.outline = (e'.failure? rows).map Failure.outline := by
  cases e <;> cases e' <;> cases h <;> rfl

/-- Two runs have the same columns and rows, and both succeed or fail in the same way at the same
row. -/
structure Materialization.Alike (m m' : Materialization) : Prop where
  result_eq : m.result = m'.result
  outline_eq : m.failure?.map Failure.outline = m'.failure?.map Failure.outline

namespace Source

variable {σ κ τ μ : Type} {src : Source σ κ} {tgt : Source τ μ} {width : Nat}
  {R : κ × σ → μ × τ → Prop}

/-- What a row comes to, the text of a failure apart, depends on its cells alone. -/
theorem mapError_outline_fitted (width : Nat) {a b : Except String (List RawCell)}
    (h : a.mapError (fun _ => "") = b.mapError fun _ => "") :
    (fitted width a).mapError Ending.outline = (fitted width b).mapError Ending.outline := by
  match a, b with
  | .error _, .error _ => rfl
  | .ok _, .ok _ =>
    cases h
    rfl

/-- Turns from related places do the same, and lead to related places if they go on. -/
def InStep (src : Source σ κ) (tgt : Source τ μ) (width : Nat) (R : κ × σ → μ × τ → Prop) : Prop :=
  ∀ p r, R p r →
    (src.turn width p).mapError Ending.outline = (tgt.turn width r).mapError Ending.outline ∧
      ∀ cells, src.turn width p = .ok cells → R (src.next p) (tgt.next r)

/-- **Sources in step read the same rows** and end alike. -/
theorem Reads.of_inStep (hstep : src.InStep tgt width R) {p : κ × σ}
    {rows : List (List RawCell)} {ending : Ending} (h : src.Reads width p rows ending) :
    ∀ {r : μ × τ}, R p r → ∃ ending', tgt.Reads width r rows ending' ∧
      ending.outline = ending'.outline := by
  induction h with
  | @stop p ending hturn =>
    intro r hR
    have hsame := (hstep p r hR).1
    rw [hturn] at hsame
    cases hturn' : tgt.turn width r with
    | error ending' =>
      rw [hturn'] at hsame
      exact ⟨ending', .stop hturn', Except.error.inj hsame⟩
    | ok cells =>
      rw [hturn'] at hsame
      cases hsame
  | @row p cells rows ending hturn _ ih =>
    intro r hR
    obtain ⟨hsame, hnext⟩ := hstep p r hR
    obtain ⟨ending', hmore, houtline⟩ := ih (hnext cells hturn)
    rw [hturn] at hsame
    cases hturn' : tgt.turn width r with
    | error ending' =>
      rw [hturn'] at hsame
      cases hsame
    | ok cells' =>
      rw [hturn'] at hsame
      cases hsame
      exact ⟨ending', .row hturn' hmore, houtline⟩

/-- Queries that are described alike and lead to related places are alike. -/
theorem run_alike_of_inStep {sql : String} {state opened ready : σ} {cursor : κ}
    {state' opened' ready' : τ} {cursor' : μ} {described : List (String × String)} (q : Quoting)
    (hstep : src.InStep tgt described.length R) (hR : R (cursor, ready) (cursor', ready'))
    (hopen : src.openCursor sql state = (.ok cursor, opened))
    (hdescribe : src.describe cursor opened = (.ok described, ready))
    (hopen' : tgt.openCursor sql state' = (.ok cursor', opened'))
    (hdescribe' : tgt.describe cursor' opened' = (.ok described, ready'))
    (hclassify : src.classify cursor = tgt.classify cursor') :
    (src.run q sql state).1.Alike (tgt.run q sql state').1 := by
  obtain ⟨rows, ending, hreads⟩ := src.exists_reads described.length (cursor, ready)
  obtain ⟨ending', hreads', houtline⟩ := hreads.of_inStep hstep hR
  have hcolumns : src.columnsOf cursor described = tgt.columnsOf cursor' described := by
    rw [columnsOf, columnsOf, hclassify]
  rw [hreads.run_eq q hopen hdescribe, hreads'.run_eq q hopen' hdescribe', hcolumns]
  exact ⟨rfl, Ending.map_outline_failure? houtline _⟩

end Source
end LiteralRows
