import LiteralRows.Command
import LiteralRows.Proofs.Catalog.Requirements
import LiteralRows.Proofs.Command.Acceptance
import Mathlib.Data.List.TakeWhile

/-!
# What a plan takes and what it requires

A command is carried out only if it has a plan, and it has one exactly if the configuration can be
loaded, a descriptor is found, the query is not blank and the format is known (`plan_eq_ok_iff`).

The plan says what the source has to hold before the query is sent.  `Plan.requirements` is that as
a list of requirements, and `checked_check` says that the check of a plan goes through exactly that
list: none without a schema, one for a schema alone, and two as soon as a single table is named.
-/

namespace LiteralRows

/-- Nothing is left of a text exactly if it holds nothing but blanks. -/
theorem Text.trim_eq_nil_iff {s : List Char} : trim s = [] ↔ isAllBlank s = true := by
  rw [trim, List.reverse_eq_nil_iff, List.dropWhile_eq_nil_iff, isAllBlank, List.all_eq_true]
  constructor
  · intro h
    -- The first character that is not blank would have been kept.
    rw [← List.dropWhile_eq_nil_iff]
    cases hkept : s.dropWhile isBlank with
    | nil => rfl
    | cons c rest =>
      have hblank := h c (by rw [hkept, List.mem_reverse]; exact List.mem_cons_self)
      have hnot := List.head?_dropWhile_not isBlank s
      rw [hkept, List.head?_cons] at hnot
      dsimp only at hnot
      rw [hblank] at hnot
      cases hnot
  · intro h c hc
    rw [List.dropWhile_eq_nil_iff.mpr h] at hc
    cases hc

/-- The query is the text that is given for it, without the blanks around it, unless nothing else is
in it. -/
theorem Arguments.queryText_eq_ok_iff {a : Arguments} {files : Files} {sql : String} :
    a.queryText files = .ok sql ↔
      ∃ text, a.givenQuery files = .ok text ∧ Text.isAllBlank text.toList = false ∧
        sql = String.ofList (Text.trim text.toList) := by
  constructor
  · intro h
    obtain ⟨text, hgiven, h⟩ := exists_of_bind_eq_ok h
    dsimp only at h
    split at h
    · cases h
    · rename_i hempty
      cases h
      refine ⟨text, hgiven, ?_, rfl⟩
      rw [List.isEmpty_iff, Text.trim_eq_nil_iff] at hempty
      exact eq_false_of_ne_true hempty
  · rintro ⟨text, hgiven, hblank, rfl⟩
    have hempty : ¬ (Text.trim text.toList).isEmpty = true := by
      rw [List.isEmpty_iff, Text.trim_eq_nil_iff, hblank]
      exact Bool.false_ne_true
    rw [queryText, hgiven]
    exact if_neg hempty

namespace Command

variable {world : World} {a : Arguments} {p : Plan}

/-- A plan is what the arguments, the configuration and the environment together ask for, and all of
them can be used. -/
structure Planned (world : World) (a : Arguments) (p : Plan) : Prop where
  exists_config : ∃ config,
    Config.load (world.configFile a) (world.files (world.configFile a)) = .ok config ∧
    config.resolveDescriptor a.descriptor world.valueOf = .ok p.descriptor ∧
    p.pool = config.pool ∧
    p.quoting = { escapeQuotes := config.quoting.escapeQuotes || a.escapeQuotes }
  exists_query : ∃ text, a.givenQuery world.files = .ok text ∧
    Text.isAllBlank text.toList = false ∧ p.sql = String.ofList (Text.trim text.toList)
  format_eq : a.outputFormat = .ok p.format
  schema_eq : p.schema = a.schema
  tables_eq : p.tables = a.tables

theorem plan_eq_ok_iff : plan world a = .ok p ↔ Planned world a p := by
  constructor
  · intro h
    obtain ⟨config, hconfig, h⟩ := exists_of_bind_eq_ok h
    obtain ⟨descriptor, hdescriptor, h⟩ := exists_of_bind_eq_ok h
    obtain ⟨sql, hsql, h⟩ := exists_of_bind_eq_ok h
    obtain ⟨format, hformat, h⟩ := exists_of_bind_eq_ok h
    cases h
    exact ⟨⟨config, hconfig, hdescriptor, rfl, rfl⟩, Arguments.queryText_eq_ok_iff.mp hsql, hformat,
      rfl, rfl⟩
  · rintro ⟨⟨config, hconfig, hdescriptor, hpool, hquoting⟩, hquery, hformat, hschema, htables⟩
    obtain ⟨descriptor, pool, sql, format, quoting, schema, tables⟩ := p
    have hsql := Arguments.queryText_eq_ok_iff.mpr hquery
    dsimp only at *
    subst hpool hquoting hschema htables
    simp only [plan, bind, Except.bind, hconfig, hdescriptor, hsql, hformat]

/-! ## Requirements -/

/-- What a plan requires of its source. -/
def Plan.requirements (b : Backend) (p : Plan) : List Catalog.Requirement :=
  match p.schema with
  | none => []
  | some schema =>
    if p.tables.isEmpty then [Catalog.schemaRequirement b schema]
    else [Catalog.schemaRequirement b schema, Catalog.tablesRequirement b schema p.tables]

/-- **The check of a plan goes through its requirements.** -/
theorem checked_check {σ κ : Type} (src : Source σ κ) (p : Plan) (w : Watched σ) :
    Catalog.Checked src (p.requirements src.backend) w (check src p w) := by
  rw [check, Plan.requirements]
  cases p.schema with
  | none => exact .met trivial
  | some schema =>
    dsimp only
    by_cases htables : p.tables.isEmpty = true
    · rw [if_pos htables, if_pos htables]
      exact Catalog.checked_ensureSchema src schema w
    · rw [if_neg htables, if_neg htables]
      exact Catalog.checked_ensureTables src schema p.tables w

end Command
end LiteralRows
