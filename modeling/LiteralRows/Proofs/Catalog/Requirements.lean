import LiteralRows.Proofs.Catalog.Check

/-!
# Checks as lists of requirements

A check asks for lists of names and wants certain names in each.  As a list of requirements it has
one shape, however many lookups it makes: they are gone through in order, and the first one that is
not met ends the check.

* `Requirement` is a lookup with the names that it has to list, and `Requirement.MetBy` says that
  it answers and lists them.
* `afterLookups` is what the lookups of some requirements leave behind, and `Meets` says that each
  of them is met when its turn comes.
* `Checked` is what a check with certain requirements comes to.  `checked_ensureSchema` and
  `checked_ensureTables` say that the two checks of a catalog are of this kind.
* `asks_afterLookups`: such a check sends the queries of its lookups and nothing else.
-/

namespace LiteralRows.Catalog

variable {σ κ : Type}

/-- A lookup, and the names that it has to list, as they are stored. -/
structure Requirement where
  lookup : Lookup
  names : List String
  deriving DecidableEq, Repr

/-- The lookup answers, and it lists every name. -/
def Requirement.MetBy (src : Source σ κ) (w : Watched σ) (r : Requirement) : Prop :=
  ∃ found, (Catalog.names src r.lookup w).1 = .ok found ∧ ∀ name ∈ r.names, name ∈ found

/-- The queries of the lookups. -/
def queries (b : Backend) (rs : List Requirement) : List String :=
  rs.map fun r => r.lookup.sql b

/-- The source after the lookups of these requirements. -/
def afterLookups (src : Source σ κ) (rs : List Requirement) (w : Watched σ) : Watched σ :=
  rs.foldl (fun w r => (names src r.lookup w).2) w

/-- Each of the requirements is met after the lookups of those before it. -/
def Meets (src : Source σ κ) : List Requirement → Watched σ → Prop
  | [], _ => True
  | r :: rs, w => r.MetBy src w ∧ Meets src rs (names src r.lookup w).2

/-! ## Lists of requirements -/

theorem meets_append {src : Source σ κ} {rs others : List Requirement} {w : Watched σ} :
    Meets src (rs ++ others) w ↔
      Meets src rs w ∧ Meets src others (afterLookups src rs w) := by
  induction rs generalizing w with
  | nil => exact ⟨fun h => ⟨trivial, h⟩, fun h => h.2⟩
  | cons r rs ih => rw [List.cons_append, Meets, Meets, ih, and_assoc]; rfl

/-- A requirement that is not met when its turn comes is not met in any longer list. -/
theorem not_meets_of_unmet {src : Source σ κ} {met rest : List Requirement} {r : Requirement}
    {w : Watched σ} (h : ¬ r.MetBy src (afterLookups src met w)) :
    ¬ Meets src (met ++ r :: rest) w := by
  intro hmeets
  obtain ⟨-, hr, -⟩ := meets_append.mp hmeets
  exact h hr

/-! ## What is sent -/

/-- A lookup is one query. -/
theorem asks_names (src : Source σ κ) (lookup : Lookup) (w : Watched σ) :
    src.Asks w [lookup.sql src.backend] (names src lookup w).2 :=
  .one src {} (lookup.sql src.backend) w

/-- **The lookups of some requirements send their queries**, in order, and do nothing else. -/
theorem asks_afterLookups (src : Source σ κ) (rs : List Requirement) (w : Watched σ) :
    src.Asks w (queries src.backend rs) (afterLookups src rs w) := by
  induction rs generalizing w with
  | nil => exact .nothing
  | cons r rs ih => exact (asks_names src r.lookup w).trans (ih (names src r.lookup w).2)

/-! ## The two checks -/

/-- What a check with these requirements comes to: all of them are met, or the first one that is not
met has its lookup, and no other comes after it. -/
inductive Checked (src : Source σ κ) (rs : List Requirement) (w : Watched σ) :
    Except Failure Unit × Watched σ → Prop
  | met (h : Meets src rs w) : Checked src rs w (.ok (), afterLookups src rs w)
  | unmet (met : List Requirement) {rest : List Requirement} {r : Requirement} (f : Failure)
    (hrs : rs = met ++ r :: rest) (hmet : Meets src met w)
    (h : ¬ r.MetBy src (afterLookups src met w)) :
    Checked src rs w (.error f, afterLookups src (met ++ [r]) w)

namespace Checked

variable {src : Source σ κ} {r : Requirement} {rs : List Requirement} {w : Watched σ}
  {outcome : Except Failure Unit × Watched σ}

/-- A check whose first requirement is met goes on with the others. -/
theorem tail (h : Checked src (r :: rs) w outcome) (hr : r.MetBy src w) :
    Checked src rs (names src r.lookup w).2 outcome := by
  cases h with
  | met hmeets => exact .met hmeets.2
  | unmet met f hrs hmet hunmet =>
    cases met with
    | nil =>
      obtain ⟨rfl, -⟩ := List.cons.inj hrs
      exact absurd hr hunmet
    | cons first met =>
      obtain ⟨rfl, rfl⟩ := List.cons.inj hrs
      exact .unmet met f rfl hmet.2 hunmet

/-- A check whose first requirement is not met makes one lookup. -/
theorem asks_of_unmet (h : Checked src (r :: rs) w outcome) (hr : ¬ r.MetBy src w) :
    src.Asks w [r.lookup.sql src.backend] outcome.2 := by
  cases h with
  | met hmeets => exact absurd hmeets.1 hr
  | unmet met f hrs hmet hunmet =>
    cases met with
    | nil =>
      obtain ⟨rfl, -⟩ := List.cons.inj hrs
      exact asks_names src r.lookup w
    | cons first met =>
      obtain ⟨rfl, -⟩ := List.cons.inj hrs
      exact absurd hmet.1 hr

/-- A check with one requirement makes one lookup. -/
theorem asks_singleton (h : Checked src [r] w outcome) :
    src.Asks w [r.lookup.sql src.backend] outcome.2 := by
  by_cases hr : r.MetBy src w
  · cases h.tail hr with
    | met => exact asks_names src r.lookup w
    | unmet met f hrs => simp at hrs
  · exact h.asks_of_unmet hr

end Checked

/-- What is required of a schema. -/
def schemaRequirement (b : Backend) (schema : String) : Requirement :=
  { lookup := .schemas, names := [b.fold schema] }

/-- What is required of the tables of a schema. -/
def tablesRequirement (b : Backend) (schema : String) (wanted : List String) : Requirement :=
  { lookup := .tables (b.fold schema), names := wanted.map b.fold }

variable {src : Source σ κ} {schema : String} {wanted : List String} {w : Watched σ}

theorem metBy_schemaRequirement :
    (schemaRequirement src.backend schema).MetBy src w ↔
      ∃ found, (schemas src w).1 = .ok found ∧ src.backend.fold schema ∈ found := by
  simp only [Requirement.MetBy, schemaRequirement, schemas, List.forall_mem_singleton]

theorem metBy_tablesRequirement :
    (tablesRequirement src.backend schema wanted).MetBy src w ↔
      ∃ listed, (tables src schema w).1 = .ok listed ∧
        ∀ name ∈ wanted, src.backend.fold name ∈ listed := by
  simp only [Requirement.MetBy, tablesRequirement, tables, List.forall_mem_map]

/-- A schema whose requirement is met passes the check. -/
theorem ensureSchema_of_met (h : (schemaRequirement src.backend schema).MetBy src w) :
    ensureSchema src schema w = (.ok (), (schemas src w).2) := by
  obtain ⟨found, hfound, hmem⟩ := metBy_schemaRequirement.mp h
  exact ensureSchema_of_mem (Prod.ext hfound rfl) hmem

/-- A schema whose requirement is not met fails the check, after the same lookup. -/
theorem ensureSchema_of_unmet (h : ¬ (schemaRequirement src.backend schema).MetBy src w) :
    ∃ f, ensureSchema src schema w = (.error f, (schemas src w).2) := by
  rw [metBy_schemaRequirement] at h
  rcases hschemas : schemas src w with ⟨f | found, left⟩
  · exact ⟨f, ensureSchema_of_error hschemas⟩
  · have hnot : src.backend.fold schema ∉ found := by
      intro hmem
      exact h ⟨found, by rw [hschemas], hmem⟩
    exact ⟨_, ensureSchema_of_notMem hschemas hnot⟩

/-- Tables whose requirement is not met fail the check, after both lookups. -/
theorem ensureTables_of_unmet (hschema : (schemaRequirement src.backend schema).MetBy src w)
    (h : ¬ (tablesRequirement src.backend schema wanted).MetBy src (schemas src w).2) :
    ∃ f, ensureTables src schema wanted w =
      (.error f, (tables src schema (schemas src w).2).2) := by
  have hensured := ensureSchema_of_met hschema
  rw [metBy_tablesRequirement] at h
  rcases htables : tables src schema (schemas src w).2 with ⟨f | listed, left⟩
  · exact ⟨f, ensureTables_of_tables_error hensured htables⟩
  · by_cases hsome : ∃ name ∈ wanted, src.backend.fold name ∉ listed
    · exact ⟨_, ensureTables_of_missing hensured htables hsome⟩
    · have hall : ∀ name ∈ wanted, src.backend.fold name ∈ listed := by
        intro name hname
        exact Decidable.byContradiction fun hnot => hsome ⟨name, hname, hnot⟩
      exact absurd ⟨listed, by rw [htables], hall⟩ h

/-- The check of a schema has one requirement. -/
theorem checked_ensureSchema (src : Source σ κ) (schema : String) (w : Watched σ) :
    Checked src [schemaRequirement src.backend schema] w (ensureSchema src schema w) := by
  by_cases hschema : (schemaRequirement src.backend schema).MetBy src w
  · rw [ensureSchema_of_met hschema]
    exact .met ⟨hschema, trivial⟩
  · obtain ⟨f, hf⟩ := ensureSchema_of_unmet hschema
    rw [hf]
    exact .unmet [] f rfl trivial hschema

/-- The check of tables requires the schema first, and then the tables. -/
theorem checked_ensureTables (src : Source σ κ) (schema : String) (wanted : List String)
    (w : Watched σ) :
    Checked src
      [schemaRequirement src.backend schema, tablesRequirement src.backend schema wanted] w
      (ensureTables src schema wanted w) := by
  by_cases hschema : (schemaRequirement src.backend schema).MetBy src w
  · by_cases htables :
      (tablesRequirement src.backend schema wanted).MetBy src (schemas src w).2
    · obtain ⟨listed, hlisted, hall⟩ := metBy_tablesRequirement.mp htables
      rw [ensureTables_of_listed (ensureSchema_of_met hschema) (Prod.ext hlisted rfl) hall]
      exact .met ⟨hschema, htables, trivial⟩
    · obtain ⟨f, hf⟩ := ensureTables_of_unmet hschema htables
      rw [hf]
      exact .unmet [schemaRequirement src.backend schema] f rfl ⟨hschema, trivial⟩ htables
  · obtain ⟨f, hf⟩ := ensureSchema_of_unmet hschema
    rw [ensureTables_of_schema_error hf]
    exact .unmet [] f rfl trivial hschema

end LiteralRows.Catalog
