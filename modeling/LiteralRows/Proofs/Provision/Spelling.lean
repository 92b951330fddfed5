import LiteralRows.Proofs.Provision.Outcome

/-!
# How a scheme is spelled

The scheme of a descriptor is read twice: to choose the backend, and by the driver of that backend.
The choice does not look at letter case, and neither does the reader of URLs behind PostgreSQL.  The
driver of SQLite knows its prefix in lower case only, and takes any other spelling for the beginning
of the name of a file.

* `provision_spelling` says what follows for both backends.
* `provision_spelling_ne` is the smallest case in which the two readings fall apart.
-/

namespace LiteralRows

/-- The descriptor with this scheme, and with the rest behind its colon. -/
def descriptorOf (scheme rest : List Char) : String :=
  String.ofList (scheme ++ ':' :: rest)

theorem toList_descriptorOf (scheme rest : List Char) :
    (descriptorOf scheme rest).toList = scheme ++ ':' :: rest :=
  String.toList_ofList

variable {b : Backend} {scheme scheme' rest : List Char}

namespace Backend.Names

theorem selectedBy (h : b.Names scheme) (rest : List Char) :
    b.SelectedBy (descriptorOf scheme rest) :=
  ⟨scheme, rest, toList_descriptorOf scheme rest, h.colon_notMem, h⟩

/-- A URL is read alike in every spelling of its scheme. -/
theorem parse_descriptorOf (h : b.Names scheme) (h' : b.Names scheme')
    (hcase : Text.lower (String.ofList scheme') = Text.lower (String.ofList scheme))
    (rest : List Char) :
    Url.parse (descriptorOf scheme' rest) = Url.parse (descriptorOf scheme rest) := by
  refine h'.isScheme.parse_congr h.isScheme ?_ (toList_descriptorOf _ _) (toList_descriptorOf _ _)
  rw [h.lowerAscii_eq, h'.lowerAscii_eq, hcase]

theorem redacted_descriptorOf (h : b.Names scheme) (h' : b.Names scheme')
    (hcase : Text.lower (String.ofList scheme') = Text.lower (String.ofList scheme))
    (rest : List Char) :
    Url.redacted (descriptorOf scheme' rest) = Url.redacted (descriptorOf scheme rest) := by
  rw [Url.redacted, Url.redacted, h.parse_descriptorOf h' hcase]

/-! ## PostgreSQL -/

theorem ofDescriptor_postgres (h : Backend.postgres.Names scheme)
    (h' : Backend.postgres.Names scheme')
    (hcase : Text.lower (String.ofList scheme') = Text.lower (String.ofList scheme))
    (rest : List Char) :
    Target.ofDescriptor (descriptorOf scheme' rest) =
      Target.ofDescriptor (descriptorOf scheme rest) := by
  rw [Target.ofDescriptor_of_selectedBy (h.selectedBy rest),
    Target.ofDescriptor_of_selectedBy (h'.selectedBy rest), Target.ofBackend, Target.ofBackend,
    Postgres.Target.ofDescriptor, Postgres.Target.ofDescriptor, h.parse_descriptorOf h' hcase]

/-! ## SQLite -/

/-- Only the spelling in lower case is the prefix of the driver. -/
theorem not_prefix_descriptorOf (h : Backend.sqlite.Names scheme)
    (hspelled : scheme ≠ "sqlite".toList) (rest : List Char) :
    ¬ "sqlite:".toList <+: (descriptorOf scheme rest).toList := by
  rintro ⟨more, hmore⟩
  rw [toList_descriptorOf] at hmore
  have hcolon : "sqlite".toList ++ ':' :: more = "sqlite:".toList ++ more := rfl
  have hcut := congrArg (Text.cutAt ':') (hcolon.trans hmore)
  rw [Text.cutAt_append_cons (by decide), Text.cutAt_append_cons h.colon_notMem] at hcut
  cases hcut
  exact hspelled rfl

theorem ofDescriptor_sqlite (h : Backend.sqlite.Names scheme) (hspelled : scheme ≠ "sqlite".toList)
    (rest : List Char) :
    Sqlite.Target.ofDescriptor (descriptorOf scheme rest) =
        Sqlite.Target.ofText (scheme ++ ':' :: rest) ∧
      Sqlite.Target.ofDescriptor ("sqlite:" ++ descriptorOf scheme rest) =
        Sqlite.Target.ofText (scheme ++ ':' :: rest) := by
  have hother := h.not_prefix_descriptorOf hspelled rest
  have hslashes : ¬ "//".toList <+: (descriptorOf scheme rest).toList := by
    rintro ⟨more, hmore⟩
    obtain ⟨c, cs, rfl, hc⟩ := h.exists_head
    rw [toList_descriptorOf] at hmore
    have hslash : '/' = c := Option.some.inj (congrArg List.head? hmore)
    rw [← hslash] at hc
    exact absurd hc (by decide)
  have hread := Sqlite.Target.ofDescriptor_unprefixed hother
  have hread' := Sqlite.Target.ofDescriptor_prefixed hother hslashes
  rw [toList_descriptorOf] at hread hread'
  exact ⟨hread, hread'⟩

/-- A scheme and its colon are plain characters. -/
theorem isPlain (h : b.Names scheme) :
    (∀ c ∈ scheme ++ [':'], Url.Percent.IsPlain c) ∧ '?' ∉ scheme ++ [':'] := by
  refine ⟨fun c hc => ?_, ?_⟩
  · rcases List.mem_append.mp hc with hc | hc
    · exact ⟨h.isAscii c hc, ne_of_mem_of_not_mem hc (h.notMem (by decide))⟩
    · rw [List.mem_singleton.mp hc]
      exact ⟨by decide, by decide⟩
  · rw [List.mem_append, not_or]
    exact ⟨h.notMem (by decide), by decide⟩

/-- What looks like a scheme is the beginning of the path. -/
theorem prefix_path (h : b.Names scheme) {t : Sqlite.Target}
    (ht : Sqlite.Target.ofText (scheme ++ ':' :: rest) = .ok t) :
    scheme ++ [':'] <+: t.path.toList := by
  obtain ⟨hplain, hmark⟩ := h.isPlain
  have hname : ¬ scheme ++ [':'] <+: ":memory:".toList := by
    rintro ⟨more, hmore⟩
    obtain ⟨c, cs, rfl, hc⟩ := h.exists_head
    have hcolon : c = ':' := Option.some.inj (congrArg List.head? hmore)
    rw [hcolon] at hc
    exact absurd hc (by decide)
  have htext : Sqlite.Target.ofText (scheme ++ [':'] ++ rest) = .ok t := by
    rwa [List.append_assoc]
  exact Sqlite.Target.prefix_path_of_ofText hplain hmark hname htext

/-- Whether the driver of SQLite rejects a descriptor depends on what stands behind the scheme. -/
theorem isOk_ofDescriptor_sqlite (h : b.Names scheme) (rest : List Char) :
    (Sqlite.Target.ofDescriptor (descriptorOf scheme rest)).isOk =
      (Sqlite.Target.ofText rest).isOk := by
  obtain ⟨hplain, hmark⟩ := h.isPlain
  have hrest := Sqlite.Target.isOk_ofText_append hplain hmark rest
  rw [List.append_assoc, List.singleton_append] at hrest
  rw [Sqlite.Target.isOk_ofDescriptor, toList_descriptorOf, hrest]

end Backend.Names

/-! ## Both backends -/

namespace Target

theorem isOk_ofDescriptor_eq_false_iff {descriptor : String} :
    (ofDescriptor descriptor).isOk = false ↔ ∃ cause, Refused descriptor cause := by
  constructor
  · intro h
    refine (exists_reads_or_refused descriptor).resolve_left ?_
    rintro ⟨t, hreads⟩
    rw [ofDescriptor_of_reads hreads] at h
    cases h
  · rintro ⟨cause, hrefused⟩
    obtain ⟨refusal, hrefusal, -⟩ := ofDescriptor_of_refused hrefused
    rw [hrefusal]
    rfl

theorem isOk_ofBackend_sqlite (descriptor : String) :
    (ofBackend .sqlite descriptor).isOk = (Sqlite.Target.ofDescriptor descriptor).isOk := by
  rw [ofBackend]
  cases Sqlite.Target.ofDescriptor descriptor <;> rfl

end Target

/-- **Where the letter case of a scheme counts.**  In every spelling of its scheme a descriptor
selects the same backend, is shown alike, and is refused or not.  A PostgreSQL descriptor gives the
same in every spelling.  An SQLite descriptor with a scheme that is not in lower case is read as if
`sqlite:` stood in front of it: what looks like its scheme is the beginning of the name of the
file that is looked for. -/
theorem provision_spelling (h : b.Names scheme)
    (hcase : Text.lower (String.ofList scheme') = Text.lower (String.ofList scheme))
    (rest : List Char) :
    b.SelectedBy (descriptorOf scheme rest) ∧ b.SelectedBy (descriptorOf scheme' rest) ∧
    Url.redacted (descriptorOf scheme' rest) = Url.redacted (descriptorOf scheme rest) ∧
    ((∃ cause, Refused (descriptorOf scheme' rest) cause) ↔
      ∃ cause, Refused (descriptorOf scheme rest) cause) ∧
    (b = .postgres → ∀ (drivers : Drivers) (settings : PoolSettings),
      drivers.provision (descriptorOf scheme' rest) settings =
        drivers.provision (descriptorOf scheme rest) settings) ∧
    (b = .sqlite → scheme ≠ "sqlite".toList →
      Target.ofDescriptor (descriptorOf scheme rest) =
        Target.ofDescriptor ("sqlite:" ++ descriptorOf scheme rest) ∧
      ∀ t, Target.ofDescriptor (descriptorOf scheme rest) = .ok (.sqlite t) →
        scheme ++ [':'] <+: t.path.toList) := by
  have h' : b.Names scheme' := by
    rw [Backend.Names, hcase]
    exact h
  have hselected := h.selectedBy rest
  have hselected' := h'.selectedBy rest
  have hshown := h.redacted_descriptorOf h' hcase rest
  refine ⟨hselected, hselected', hshown, ?_, ?_, ?_⟩
  · rw [← Target.isOk_ofDescriptor_eq_false_iff, ← Target.isOk_ofDescriptor_eq_false_iff]
    cases b with
    | postgres => rw [h.ofDescriptor_postgres h' hcase]
    | sqlite =>
      rw [Target.ofDescriptor_of_selectedBy hselected, Target.ofDescriptor_of_selectedBy hselected',
        Target.isOk_ofBackend_sqlite, Target.isOk_ofBackend_sqlite, h.isOk_ofDescriptor_sqlite,
        h'.isOk_ofDescriptor_sqlite]
  · rintro rfl drivers settings
    rw [Drivers.provision, Drivers.provision, h.ofDescriptor_postgres h' hcase, hshown]
  · rintro rfl hspelled
    obtain ⟨hread, hread'⟩ := h.ofDescriptor_sqlite hspelled rest
    have hprefixed : Backend.sqlite.SelectedBy ("sqlite:" ++ descriptorOf scheme rest) :=
      ⟨"sqlite".toList, (descriptorOf scheme rest).toList, String.toList_append, by decide,
        by decide +kernel⟩
    rw [Target.ofDescriptor_of_selectedBy hselected, Target.ofDescriptor_of_selectedBy hprefixed,
      Target.ofBackend, Target.ofBackend, hread, hread']
    refine ⟨rfl, fun t ht => ?_⟩
    cases htext : Sqlite.Target.ofText (scheme ++ ':' :: rest) with
    | error fault =>
      rw [htext] at ht
      cases ht
    | ok t' =>
      rw [htext] at ht
      cases ht
      exact h.prefix_path htext

/-- A server is found in upper case as in lower case, but a file by another name. -/
theorem provision_spelling_of_upper_case :
    (∀ (drivers : Drivers) (settings : PoolSettings),
      drivers.provision "PostgreSQL://marvin@localhost/db" settings =
        drivers.provision "postgresql://marvin@localhost/db" settings) ∧
    Target.ofDescriptor "SQLITE:data.db" = Target.ofDescriptor "sqlite:SQLITE:data.db" := by
  constructor
  · have hnames : Backend.postgres.Names "postgresql".toList := by decide +kernel
    have hcase : Text.lower (String.ofList "PostgreSQL".toList) =
        Text.lower (String.ofList "postgresql".toList) := by decide +kernel
    obtain ⟨-, -, -, -, halike, -⟩ :=
      provision_spelling hnames hcase "//marvin@localhost/db".toList
    have hupper : descriptorOf "PostgreSQL".toList "//marvin@localhost/db".toList =
        "PostgreSQL://marvin@localhost/db" := by decide +kernel
    have hlower : descriptorOf "postgresql".toList "//marvin@localhost/db".toList =
        "postgresql://marvin@localhost/db" := by decide +kernel
    rw [hupper, hlower] at halike
    exact halike rfl
  · have hnames : Backend.sqlite.Names "SQLITE".toList := by decide +kernel
    obtain ⟨-, -, -, -, -, hname⟩ := provision_spelling hnames rfl "data.db".toList
    have hdescriptor : descriptorOf "SQLITE".toList "data.db".toList = "SQLITE:data.db" := by
      decide +kernel
    have hprefixed : "sqlite:" ++ "SQLITE:data.db" = "sqlite:SQLITE:data.db" := by decide +kernel
    rw [hdescriptor, hprefixed] at hname
    exact (hname rfl (by decide +kernel)).1

/-- Everywhere a database in memory is had in lower case.  In upper case the same text is the name
of a file, and where there is no file it is not found. -/
theorem provision_spelling_ne :
    Text.lower "SQLITE" = Text.lower "sqlite" ∧
    (∃ source, Surroundings.empty.outcome "sqlite::memory:" {} = .ok source) ∧
    Surroundings.empty.outcome "SQLITE::memory:" {} =
      .error (.unreachable ("Cannot open sqlite::memory:: error returned from database: " ++
        "(code: 14) unable to open database file")) := by
  refine ⟨by decide +kernel, ?_, ?_⟩
  · have hreached : Surroundings.empty.drivers.Reached {} (.sqlite { inMemory := true }) _ :=
      Surroundings.reached_of_store_eq_ok (Surroundings.store_memory .empty) (by decide)
    exact ⟨_, Drivers.outcome_of_reached reads_memory hreached⟩
  · have hread : Sqlite.Target.ofDescriptor "SQLITE::memory:" =
        .ok { path := "SQLITE::memory:" } := by
      rw [Sqlite.Target.ofDescriptor_unprefixed (by decide +kernel),
        Sqlite.Target.ofText_of_isPlain (Url.Percent.forall_isPlain (by decide +kernel))
          (by decide +kernel) (by decide +kernel),
        String.ofList_toList]
    have hstore : Surroundings.empty.store { path := "SQLITE::memory:" } =
        .error ⟨Sqlite.OpenFault.cannotOpen.message⟩ := by
      have hnul : "SQLITE::memory:".contains '\x00' = false := by
        rw [String.contains_char_eq]
        decide +kernel
      have hscheme : Text.after? "file:".toList "SQLITE::memory:".toList = none := by
        decide +kernel
      have hresolved : Sqlite.Target.resolved { path := "SQLITE::memory:" } =
          .ok { path := "SQLITE::memory:" } := by
        simp only [Sqlite.Target.resolved, hnul, hscheme]
        rfl
      have hfile : Sqlite.Target.file? { path := "SQLITE::memory:" } =
          some "SQLITE::memory:" := by decide +kernel
      have hplain : Sqlite.plain? Surroundings.empty.files "SQLITE::memory:" =
          some ["SQLITE::memory:"] := by decide +kernel
      simp only [Surroundings.store, Sqlite.Target.openDatabase, hresolved, bind, Except.bind,
        hfile, Sqlite.openFile, hplain]
      rfl
    have hreads : Reads "SQLITE::memory:" (.sqlite { path := "SQLITE::memory:" }) :=
      .sqlite (Backend.ofDescriptor?_eq_some_iff.mp (by decide +kernel)) hread
    have hmessage : Target.unreachableMessage (.sqlite { path := "SQLITE::memory:" })
        (Url.redacted "SQLITE::memory:") ⟨Sqlite.OpenFault.cannotOpen.message⟩ =
          "Cannot open sqlite::memory:: error returned from database: " ++
            "(code: 14) unable to open database file" := by decide +kernel
    rw [Surroundings.outcome, Drivers.outcome_of_unreached hreads
      (Surroundings.unreached_of_store_eq_error hstore (by decide)), hmessage]

end LiteralRows
