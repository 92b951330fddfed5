import LiteralRows.Proofs.Command.Planning

/-!
# The course of a command

A command makes a plan, opens a source, checks what the plan requires, sends the query of its user
and closes the source.  Every one of these steps can fail, and what comes after it is left out.

* `Provides` says that a command came to have a source, and `Plan.Passes` that the source holds what
  the plan requires.  `Plan.ready` is the source when its turn comes to answer the query.
* `perform_of_provides` and `perform_of_not_provides` are the two courses of a command, with a
  source and without one; `execute_of_passes` and `execute_of_not_passes` are the two courses on a
  source.
* `perform_sends_query_last`: which queries a command sends, and when.
-/

namespace LiteralRows
namespace Command

variable {open? : Opener} {world : World} {a : Arguments} {p : Plan} {opened : OpenSource}

/-! ## On a source -/

/-- The source holds what the plan requires. -/
def Plan.Passes (p : Plan) (opened : OpenSource) : Prop :=
  Catalog.Meets opened.source (p.requirements opened.source.backend) { state := opened.state }

/-- The source after the lookups of the plan. -/
def Plan.ready (p : Plan) (opened : OpenSource) : Watched opened.σ :=
  Catalog.afterLookups opened.source (p.requirements opened.source.backend)
    { state := opened.state }

/-- What it means that a source passes: the schema is listed as it is stored, and so is every one of
the tables. -/
theorem passes_iff : p.Passes opened ↔ ∀ schema, p.schema = some schema →
    (∃ found, (Catalog.schemas opened.source { state := opened.state }).1 = .ok found ∧
      opened.source.backend.fold schema ∈ found) ∧
    (p.tables ≠ [] → ∃ listed,
      (Catalog.tables opened.source schema
        (Catalog.schemas opened.source { state := opened.state }).2).1 = .ok listed ∧
      ∀ name ∈ p.tables, opened.source.backend.fold name ∈ listed) := by
  rw [Plan.Passes, Plan.requirements]
  cases p.schema with
  | none =>
    constructor
    · intro _ schema hschema
      cases hschema
    · intro _
      trivial
  | some schema =>
    simp only [Option.some.injEq, forall_eq', ← Catalog.metBy_schemaRequirement,
      ← Catalog.metBy_tablesRequirement]
    by_cases htables : p.tables = []
    · rw [if_pos (List.isEmpty_iff.mpr htables)]
      constructor
      · rintro ⟨hschema, -⟩
        exact ⟨hschema, fun hne => absurd htables hne⟩
      · rintro ⟨hschema, -⟩
        exact ⟨hschema, trivial⟩
    · rw [if_neg (mt List.isEmpty_iff.mp htables)]
      constructor
      · rintro ⟨hschema, hlisted, -⟩
        exact ⟨hschema, fun _ => hlisted⟩
      · rintro ⟨hschema, hlisted⟩
        exact ⟨hschema, hlisted htables, trivial⟩

/-- **On a source that passes, the query is sent.** -/
theorem execute_of_passes (h : p.Passes opened) :
    execute opened.source p { state := opened.state } =
      (Report.ofMaterialization p.format
          (opened.source.run p.quoting p.sql (p.ready opened).state).1,
        (opened.source.materialize p.quoting p.sql (p.ready opened)).2) := by
  have hchecked := checked_check opened.source p { state := opened.state }
  rw [execute]
  generalize check opened.source p { state := opened.state } = outcome at hchecked
  cases hchecked with
  | met => rfl
  | unmet met f hrs hmet hunmet =>
    rw [Plan.Passes, hrs] at h
    exact absurd h (Catalog.not_meets_of_unmet hunmet)

/-- **On any other source, nothing is sent after the first requirement that is not met**, and
nothing is printed. -/
theorem execute_of_not_passes (h : ¬ p.Passes opened) :
    ∃ met unmet rest f,
      p.requirements opened.source.backend = met ++ unmet :: rest ∧
      Catalog.Meets opened.source met { state := opened.state } ∧
      ¬ unmet.MetBy opened.source
        (Catalog.afterLookups opened.source met { state := opened.state }) ∧
      execute opened.source p { state := opened.state } =
        ({ failure? := some f },
          Catalog.afterLookups opened.source (met ++ [unmet]) { state := opened.state }) := by
  have hchecked := checked_check opened.source p { state := opened.state }
  rw [execute]
  generalize check opened.source p { state := opened.state } = outcome at hchecked
  cases hchecked with
  | met hmeets => exact absurd hmeets h
  | unmet met f hrs hmet hunmet => exact ⟨_, _, _, f, hrs, hmet, hunmet, rfl⟩

/-- The command has a plan, and a source has been opened for it. -/
structure Provides (open? : Opener) (world : World) (a : Arguments) (p : Plan)
    (opened : OpenSource) : Prop where
  planned : Planned world a p
  opened_eq : open? p.descriptor p.pool = .ok opened

/-- **A command with a source** reports on its use, and the source has been closed. -/
theorem perform_of_provides (h : Provides open? world a p opened) :
    perform open? world a =
      (execute opened.source p { state := opened.state }).1.outcome
        (opened.source.shutDown (execute opened.source p { state := opened.state }).2) := by
  have hplan := plan_eq_ok_iff.mpr h.planned
  simp only [perform, hplan, h.opened_eq]
  rfl

/-- **A command without a source** fails before it has one. -/
theorem perform_of_not_provides (h : ∀ p opened, ¬ Provides open? world a p opened) :
    ∃ before f, perform open? world a = failed before f := by
  rw [perform]
  rcases hplan : plan world a with f | p
  · exact ⟨[], f, rfl⟩
  · dsimp only
    rcases hopen : open? p.descriptor p.pool with fault | opened
    · exact ⟨_, _, rfl⟩
    · exact absurd ⟨plan_eq_ok_iff.mp hplan, hopen⟩ (h p opened)

/-- Opens a scripted source, whatever the descriptor. -/
def scripted (book : Scripted.Book) : Opener := fun _ _ => .ok ⟨_, _, book.source, {}⟩

/-! ## Which queries are sent -/

/-- The queries that a command sent. -/
def Outcome.sent (o : Outcome) : List String :=
  o.notes.filterMap Note.sent?

/-- **The query of the user is sent last, once, and only if every check has passed.**  What an
accepted command line says about the schema, the query and the tables is what its options give, all
tables included; tables come with a schema, and the query comes from one place.  Without a source
nothing is sent.  With one, the lookups of the plan are sent in order, and after them the query, if
the source lists the schema and every table, each as it is stored; if it does not, the first lookup
that does not answer, or does not list what it has to, is the last query of all. -/
theorem perform_sends_query_last (open? : Opener) (world : World) {arguments : List String}
    {a : Arguments} (hparse : Arguments.parse arguments = .ok a) :
    (∃ closed given, Arguments.Gives closed arguments given ∧
        (∀ value, a.schema = some value ↔ (.schema, value) ∈ given) ∧
        (∀ value, a.query = some value ↔ (.query, value) ∈ given) ∧
        (∀ value, a.queryFile = some value ↔ (.queryFile, value) ∈ given) ∧
        a.tables = given.flatMap Arguments.tablesIn) ∧
      (a.tables ≠ [] → a.schema ≠ none) ∧
      (a.query = none ∨ a.queryFile = none) ∧
      ((∀ p opened, ¬ Provides open? world a p opened) → (perform open? world a).notes = []) ∧
      ∀ p opened, Provides open? world a p opened →
        let src := opened.source
        let start : Watched opened.σ := { state := opened.state }
        let sent := (perform open? world a).sent
        (p.Passes opened ↔ ∀ schema, a.schema = some schema →
          (∃ found, (Catalog.schemas src start).1 = .ok found ∧ src.backend.fold schema ∈ found) ∧
          (a.tables ≠ [] → ∃ listed,
            (Catalog.tables src schema (Catalog.schemas src start).2).1 = .ok listed ∧
            ∀ name ∈ a.tables, src.backend.fold name ∈ listed)) ∧
        (p.Passes opened →
          sent = Catalog.queries src.backend (p.requirements src.backend) ++ [p.sql]) ∧
        (¬ p.Passes opened → ∃ met unmet rest,
          p.requirements src.backend = met ++ unmet :: rest ∧
          Catalog.Meets src met start ∧ ¬ unmet.MetBy src (Catalog.afterLookups src met start) ∧
          sent = Catalog.queries src.backend (met ++ [unmet])) := by
  obtain ⟨closed, given, hgives, hunrepeated, rfl, hconflicts, hrequires⟩ :=
    Arguments.gives_of_parse hparse
  refine ⟨⟨closed, given, hgives, ?_, ?_, ?_, Arguments.tables_collected given⟩, ?_, ?_, ?_, ?_⟩
  · exact fun _ => Arguments.single?_collected_eq_some_iff hunrepeated .schema rfl
  · exact fun _ => Arguments.single?_collected_eq_some_iff hunrepeated .query rfl
  · exact fun _ => Arguments.single?_collected_eq_some_iff hunrepeated .queryFile rfl
  · exact Arguments.schema_ne_none_of_tables_ne_nil hunrepeated hrequires
  · exact Arguments.query_eq_none_or_queryFile_eq_none hunrepeated hconflicts
  · intro hnone
    obtain ⟨before, f, hfailed⟩ := perform_of_not_provides hnone
    rw [hfailed]
    rfl
  · intro p opened h src start sent
    have hsent : sent = (execute src p start).2.sent := by
      change (perform open? world _).sent = _
      rw [perform_of_provides h]
      exact Source.sent_shutDown src _
    refine ⟨?_, ?_, ?_⟩
    · rw [← h.planned.schema_eq, ← h.planned.tables_eq]
      exact passes_iff
    · intro hpasses
      rw [hsent, execute_of_passes hpasses]
      exact ((Catalog.asks_afterLookups src _ start).more p.quoting p.sql).sent_eq
    · intro hnot
      obtain ⟨met, unmet, rest, f, hrequirements, hmet, hunmet, hexecute⟩ :=
        execute_of_not_passes hnot
      refine ⟨met, unmet, rest, hrequirements, hmet, hunmet, ?_⟩
      rw [hsent, hexecute]
      exact (Catalog.asks_afterLookups src _ start).sent_eq

/-- A source lists one schema and two tables.  The tables are asked for in two options and under
other spellings, one of them twice, and all of them are looked up before the query is sent. -/
theorem perform_sends_query_last_of_repeated_tables :
    let listing : Scripted.Script :=
      { columns := [("name", "NAME")],
        rows := [[some [0x6d]], [some [0x74, 0x31]], [some [0x74, 0x33]]] }
    let open? := scripted { fallback := listing }
    let world : World := { around := .empty, beginLog := fun _ _ => .error (.file .missing) }
    let arguments := ["postgres:h", "-q", " SELECT 1 ", "-s", "M", "-tT1,t3", "--tables", "T3"]
    ∃ a, Arguments.parse arguments = .ok a ∧ a.tables = ["T1", "t3", "T3"] ∧
      (perform open? world a).sent =
        [Catalog.Lookup.schemas.sql .postgres, (Catalog.Lookup.tables "m").sql .postgres,
          "SELECT 1"] := by
  intro listing open? world arguments
  let a : Arguments :=
    { descriptor := some "postgres:h", query := some " SELECT 1 ", schema := some "M",
      tables := ["T1", "t3", "T3"] }
  let p : Plan :=
    { descriptor := "postgres:h", pool := {}, sql := "SELECT 1", format := .text, quoting := {},
      schema := some "M", tables := a.tables }
  let book : Scripted.Book := { fallback := listing }
  have hparse : Arguments.parse arguments = .ok a := by decide +kernel
  have hprovides : Provides open? world a p ⟨_, _, book.source, {}⟩ :=
    { planned := plan_eq_ok_iff.mp (by decide +kernel), opened_eq := rfl }
  obtain ⟨-, -, -, -, hsource⟩ := perform_sends_query_last open? world hparse
  obtain ⟨hpasses, hsent, -⟩ := hsource p _ hprovides
  refine ⟨a, hparse, rfl, hsent (hpasses.mpr ?_)⟩
  rintro _ ⟨⟩
  refine ⟨⟨["m", "t1", "t3"], ?_, ?_⟩, fun _ => ⟨["m", "t1", "t3"], ?_, ?_⟩⟩ <;> decide +kernel

end Command
end LiteralRows
