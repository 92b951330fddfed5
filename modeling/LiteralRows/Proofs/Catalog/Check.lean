import LiteralRows.Proofs.Catalog.Lookup
import LiteralRows.Source.Scripted

/-!
# What the check of tables reports

A check of tables asks two questions, and each answer may fail to come.  The check reports the
first obstacle that it meets:

    the schemas cannot be listed    that lookup's own failure    one query sent
    the schema is not listed        the schema does not exist    one query sent
    the tables cannot be listed     that lookup's own failure    two queries sent
    some tables are not listed      all of these tables          two queries sent
    none of these                   nothing                      two queries sent

`ensureTables_meets` says so.  A list counts only if its query was materialized completely
(`names_of_complete`); a list that breaks off is a failure of its query (`Failure.OfQuery`), so what
is missing from it is never reported as missing from the source.
-/

namespace LiteralRows

/-- A failure of a query: to execute it, to describe it, to scan a row, to reach the next row. -/
inductive Failure.OfQuery : Failure → Prop
  | execution (cause : String) : OfQuery (.execution cause)
  | describe (cause : String) : OfQuery (.describe cause)
  | rowScan (row : Nat) (cause : String) : OfQuery (.rowScan row cause)
  | cursorTerminal (rows : Nat) (cause : String) : OfQuery (.cursorTerminal rows cause)

theorem Ending.ofQuery_of_failure? {ending : Ending} {rows : Nat} {f : Failure}
    (h : ending.failure? rows = some f) : f.OfQuery := by
  cases ending with
  | exhausted => cases h
  | faulted cause =>
    cases h
    exact .cursorTerminal rows cause
  | unreadable cause =>
    cases h
    exact .rowScan (rows + 1) cause
  | misfit expected got =>
    cases h
    exact .rowScan (rows + 1) _

/-- A run that does not come to its end has a failure of its query. -/
theorem Materialization.ofQuery_of_failure? {m : Materialization} {f : Failure}
    (h : m.failure? = some f) : f.OfQuery := by
  cases m with
  | rejected cause =>
    cases h
    exact .execution cause
  | undescribed cause =>
    cases h
    exact .describe cause
  | drained result ending => exact Ending.ofQuery_of_failure? h

namespace Catalog

variable {σ κ : Type} {src : Source σ κ} {schema : String} {wanted : List String} {w : Watched σ}

/-! ## Lookups -/

/-- A lookup fails with the failure of its query. -/
theorem names_of_failure {lookup : Lookup} {f : Failure}
    (h : (src.materialize {} (lookup.sql src.backend) w).1.failure? = some f) :
    names src lookup w = (.error f, (src.materialize {} (lookup.sql src.backend) w).2) := by
  simp only [names, Materialization.toExcept, h, Except.map]

/-- A lookup that answers has read its whole list. -/
theorem names_of_complete {lookup : Lookup}
    (h : (src.materialize {} (lookup.sql src.backend) w).1.failure? = none) :
    names src lookup w =
      (.ok (firstTexts (src.materialize {} (lookup.sql src.backend) w).1.result),
        (src.materialize {} (lookup.sql src.backend) w).2) := by
  simp only [names, Materialization.toExcept, h, Except.map]

/-! ## One obstacle after the other -/

section Obstacles

variable {found listed : List String} {f : Failure} {w₁ w₂ : Watched σ}

theorem ensureSchema_of_error (h : schemas src w = (.error f, w₁)) :
    ensureSchema src schema w = (.error f, w₁) := by
  rw [ensureSchema, h]

theorem ensureSchema_of_notMem (h : schemas src w = (.ok found, w₁))
    (hschema : src.backend.fold schema ∉ found) :
    ensureSchema src schema w =
      (.error (Missing.noSchema (src.backend.fold schema) src.backend).failure, w₁) := by
  simp only [ensureSchema, h, if_neg hschema]

theorem ensureSchema_of_mem (h : schemas src w = (.ok found, w₁))
    (hschema : src.backend.fold schema ∈ found) : ensureSchema src schema w = (.ok (), w₁) := by
  simp only [ensureSchema, h, if_pos hschema]

theorem ensureTables_of_schema_error (h : ensureSchema src schema w = (.error f, w₁)) :
    ensureTables src schema wanted w = (.error f, w₁) := by
  rw [ensureTables, h]

theorem ensureTables_of_tables_error (h : ensureSchema src schema w = (.ok (), w₁))
    (htables : tables src schema w₁ = (.error f, w₂)) :
    ensureTables src schema wanted w = (.error f, w₂) := by
  simp only [ensureTables, h, htables]

theorem ensureTables_of_listed (h : ensureSchema src schema w = (.ok (), w₁))
    (htables : tables src schema w₁ = (.ok listed, w₂))
    (hall : ∀ name ∈ wanted, src.backend.fold name ∈ listed) :
    ensureTables src schema wanted w = (.ok (), w₂) := by
  have hnone : (wanted.map src.backend.fold).filter (· ∉ listed) = [] := by
    rw [List.filter_eq_nil_iff, List.forall_mem_map]
    intro name hname
    rw [decide_eq_true_eq, Decidable.not_not]
    exact hall name hname
  simp only [ensureTables, h, htables, hnone]

theorem ensureTables_of_missing (h : ensureSchema src schema w = (.ok (), w₁))
    (htables : tables src schema w₁ = (.ok listed, w₂))
    (hsome : ∃ name ∈ wanted, src.backend.fold name ∉ listed) :
    ensureTables src schema wanted w =
      (.error (Missing.noTables (src.backend.fold schema)
        ((wanted.map src.backend.fold).filter (· ∉ listed))).failure, w₂) := by
  obtain ⟨name, hname, hnot⟩ := hsome
  have hmem : src.backend.fold name ∈ (wanted.map src.backend.fold).filter (· ∉ listed) :=
    List.mem_filter.mpr ⟨List.mem_map_of_mem hname, decide_eq_true hnot⟩
  simp only [ensureTables, h, htables]
  split
  · rename_i hnil
    rw [hnil] at hmem
    cases hmem
  · rfl

/-- The check succeeds exactly if both lookups answer and nothing is missing. -/
theorem ensureTables_eq_ok_iff :
    (ensureTables src schema wanted w).1 = .ok () ↔
      (∃ found, (schemas src w).1 = .ok found ∧ src.backend.fold schema ∈ found) ∧
        ∃ listed, (tables src schema (schemas src w).2).1 = .ok listed ∧
          ∀ name ∈ wanted, src.backend.fold name ∈ listed := by
  constructor
  · intro hok
    rcases hschemas : schemas src w with ⟨f | found, w₁⟩
    · rw [ensureTables_of_schema_error (ensureSchema_of_error hschemas)] at hok
      cases hok
    by_cases hschema : src.backend.fold schema ∈ found
    · have hensured := ensureSchema_of_mem hschemas hschema
      rcases htables : tables src schema w₁ with ⟨f | listed, w₂⟩
      · rw [ensureTables_of_tables_error hensured htables] at hok
        cases hok
      refine ⟨⟨found, rfl, hschema⟩, listed, rfl, fun name hname => ?_⟩
      refine Decidable.byContradiction fun hnot => ?_
      rw [ensureTables_of_missing hensured htables ⟨name, hname, hnot⟩] at hok
      cases hok
    · rw [ensureTables_of_schema_error (ensureSchema_of_notMem hschemas hschema)] at hok
      cases hok
  · rintro ⟨⟨found, hfound, hschema⟩, listed, hlisted, hall⟩
    have hensured : ensureSchema src schema w = (.ok (), (schemas src w).2) :=
      ensureSchema_of_mem (Prod.ext hfound rfl) hschema
    rw [ensureTables_of_listed hensured (Prod.ext hlisted rfl) hall]

end Obstacles

/-! ## The whole check -/

/-- **A check of tables reports the first obstacle.**  It succeeds exactly if both lookups answer,
the schema is among the schemas and every wanted table among the tables.  A lookup that does not
come to its end fails the check with its own failure; a schema that is not listed ends the check
before the tables are asked for; and the tables that are not listed are reported together, in the
order in which they are wanted and as often.  Every name is looked for, asked for and reported as
it is stored. -/
theorem ensureTables_meets (src : Source σ κ) (schema : String) (wanted : List String)
    (w : Watched σ) :
    let stored := src.backend.fold schema
    let first := src.materialize {} (Lookup.schemas.sql src.backend) w
    let second := src.materialize {} ((Lookup.tables stored).sql src.backend) first.2
    let found := firstTexts first.1.result
    let listed := firstTexts second.1.result
    let check := ensureTables src schema wanted w
    (check.1 = .ok () ↔
        (∃ names, (schemas src w).1 = .ok names ∧ stored ∈ names) ∧
          ∃ names, (tables src schema (schemas src w).2).1 = .ok names ∧
            ∀ name ∈ wanted, src.backend.fold name ∈ names) ∧
      (∀ f, first.1.failure? = some f → f.OfQuery ∧ check = (.error f, first.2)) ∧
      (first.1.failure? = none → stored ∉ found →
        check = (.error (.schema ("schema \"" ++ stored ++ "\" does not exist in " ++
          src.backend.name ++ " source")), first.2)) ∧
      (first.1.failure? = none → stored ∈ found → ∀ f, second.1.failure? = some f →
        f.OfQuery ∧ check = (.error f, second.2)) ∧
      (first.1.failure? = none → stored ∈ found → second.1.failure? = none →
        (∃ name ∈ wanted, src.backend.fold name ∉ listed) →
        check = (.error (.schema ("missing tables in schema \"" ++ stored ++ "\": " ++
          Text.joined ", " ((wanted.map src.backend.fold).filter (· ∉ listed)))), second.2)) ∧
      first.2.sent = w.sent ++ [Lookup.schemas.sql src.backend] ∧
      second.2.sent = first.2.sent ++ [(Lookup.tables stored).sql src.backend] := by
  intro stored first second found listed check
  refine ⟨ensureTables_eq_ok_iff, ?_, ?_, ?_, ?_, Source.sent_materialize _ _ _ _,
    Source.sent_materialize _ _ _ _⟩
  · intro f hfirst
    exact ⟨Materialization.ofQuery_of_failure? hfirst,
      ensureTables_of_schema_error (ensureSchema_of_error (names_of_failure hfirst))⟩
  · intro hfirst hnot
    exact ensureTables_of_schema_error (ensureSchema_of_notMem (names_of_complete hfirst) hnot)
  · intro hfirst hschema f hsecond
    exact ⟨Materialization.ofQuery_of_failure? hsecond,
      ensureTables_of_tables_error (ensureSchema_of_mem (names_of_complete hfirst) hschema)
        (names_of_failure hsecond)⟩
  · intro hfirst hschema hsecond hsome
    exact ensureTables_of_missing (ensureSchema_of_mem (names_of_complete hfirst) hschema)
      (names_of_complete hsecond) hsome

/-- A source that answers every lookup with the names `marvin` and `t1` holds the schema `Marvin`.
Two tables are missing, one of them wanted twice under two spellings: each is reported as it is
stored, where and as often as it is wanted. -/
theorem ensureTables_meets_of_repeated :
    let listing : Scripted.Script :=
      { columns := [("name", "NAME")],
        rows := [[some [0x6d, 0x61, 0x72, 0x76, 0x69, 0x6e]], [some [0x74, 0x31]]] }
    let book : Scripted.Book := { fallback := listing }
    let check := ensureTables book.source "Marvin" ["T3", "t1", "t4", "t3"] { state := {} }
    check.1 = .error (.schema "missing tables in schema \"marvin\": t3, t4, t3") := by
  intro listing book check
  obtain ⟨-, -, -, -, hmissing, -⟩ :=
    ensureTables_meets book.source "Marvin" ["T3", "t1", "t4", "t3"] { state := {} }
  have hcheck := hmissing (by decide +kernel) (by decide +kernel) (by decide +kernel)
    ⟨"T3", by decide +kernel, by decide +kernel⟩
  refine (congrArg Prod.fst hcheck).trans (congrArg Except.error (congrArg Failure.schema ?_))
  decide +kernel

end Catalog
end LiteralRows
