import LiteralRows.Proofs.Provision.Scheme
import LiteralRows.Proofs.Sqlite.Naming
import LiteralRows.Surroundings

/-!
# What provisioning comes to

Provisioning either refuses a descriptor, or does not reach what it asks for, or gives a source.
Which of the first two it is depends on different things.

* `Refused` says when a descriptor is refused, and with which sentence: it is blank, or names no
  backend, or the driver of its backend cannot read it.  Nothing but the descriptor is mentioned.
  `Reads` is the other case (`exists_reads_or_refused`).
* `Drivers.Unreached` says when a target is not reached: the driver gives no connection, or one that
  does not answer a ping.  `Drivers.Reached` is the other case (`exists_unreached_or_reached`).
  Nothing is known of the drivers, so these are any answers at all.
* `outcome_cases` puts the two together, and `outcome_refused_or_unreached` is what follows for each
  outcome.

Drivers whose pools keep their bounds (`KeepBounds`) reach nothing through a pool that cannot be
used; the drivers of any surroundings are of this kind (`Surroundings.keepBounds`).
-/

namespace LiteralRows

variable {descriptor cause : String} {t : Target} {drivers : Drivers} {settings : PoolSettings}
  {outage : Outage} {source : Provisioned}

/-! ## Reading a descriptor -/

/-- The descriptor selects a backend whose driver reads this target from it. -/
inductive Reads (descriptor : String) : Target → Prop
  | postgres {t : Postgres.Target} (hselected : Backend.postgres.SelectedBy descriptor)
    (hdriver : Postgres.Target.ofDescriptor descriptor = .ok t) : Reads descriptor (.postgres t)
  | sqlite {t : Sqlite.Target} (hselected : Backend.sqlite.SelectedBy descriptor)
    (hdriver : Sqlite.Target.ofDescriptor descriptor = .ok t) : Reads descriptor (.sqlite t)

/-- The descriptor is refused, for this cause: there is nothing in it, or no backend knows its
scheme, or the driver of the backend that it selects rejects it. -/
inductive Refused (descriptor : String) : String → Prop
  | blank (hblank : ∀ c ∈ descriptor.toList, Text.isBlank c = true) :
    Refused descriptor "descriptor is empty"
  | unsupported (hvisible : ∃ c ∈ descriptor.toList, Text.isBlank c = false)
    (hnone : ∀ b : Backend, ¬ b.SelectedBy descriptor) :
    Refused descriptor ("unsupported descriptor " ++ Url.redacted descriptor ++
      "; expected postgres:// or sqlite:")
  | postgres {fault : Postgres.Target.Fault} (hselected : Backend.postgres.SelectedBy descriptor)
    (hdriver : Postgres.Target.ofDescriptor descriptor = .error fault) :
    Refused descriptor fault.message
  | sqlite {fault : Sqlite.Target.Fault} (hselected : Backend.sqlite.SelectedBy descriptor)
    (hdriver : Sqlite.Target.ofDescriptor descriptor = .error fault) :
    Refused descriptor fault.message

theorem Text.isAllBlank_eq_false_iff {s : List Char} :
    isAllBlank s = false ↔ ∃ c ∈ s, isBlank c = false := by
  rw [isAllBlank, List.all_eq_false]
  simp only [Bool.not_eq_true]

theorem Reads.selectedBy (h : Reads descriptor t) : t.backend.SelectedBy descriptor := by
  cases h with
  | postgres hselected _ => exact hselected
  | sqlite hselected _ => exact hselected

/-- Every descriptor is one or the other. -/
theorem exists_reads_or_refused (descriptor : String) :
    (∃ t, Reads descriptor t) ∨ ∃ cause, Refused descriptor cause := by
  cases hblank : Text.isAllBlank descriptor.toList with
  | true => exact .inr ⟨_, .blank (List.all_eq_true.mp hblank)⟩
  | false =>
    cases hbackend : Backend.ofDescriptor? descriptor with
    | none =>
      exact .inr ⟨_, .unsupported (Text.isAllBlank_eq_false_iff.mp hblank)
        (Backend.ofDescriptor?_eq_none_iff.mp hbackend)⟩
    | some b =>
      have hselected := Backend.ofDescriptor?_eq_some_iff.mp hbackend
      cases b with
      | postgres =>
        cases hdriver : Postgres.Target.ofDescriptor descriptor with
        | ok t => exact .inl ⟨.postgres t, .postgres hselected hdriver⟩
        | error fault => exact .inr ⟨_, .postgres hselected hdriver⟩
      | sqlite =>
        cases hdriver : Sqlite.Target.ofDescriptor descriptor with
        | ok t => exact .inl ⟨.sqlite t, .sqlite hselected hdriver⟩
        | error fault => exact .inr ⟨_, .sqlite hselected hdriver⟩

namespace Target

/-- A descriptor with a scheme of a backend is read by that backend. -/
theorem ofDescriptor_of_selectedBy {b : Backend} (h : b.SelectedBy descriptor) :
    ofDescriptor descriptor = ofBackend b descriptor := by
  rw [ofDescriptor, h.not_isAllBlank, if_neg Bool.false_ne_true,
    Backend.ofDescriptor?_eq_some_iff.mpr h]

theorem ofDescriptor_of_reads (h : Reads descriptor t) : ofDescriptor descriptor = .ok t := by
  cases h with
  | postgres hselected hdriver =>
    rw [ofDescriptor_of_selectedBy hselected, ofBackend, hdriver]
    rfl
  | sqlite hselected hdriver =>
    rw [ofDescriptor_of_selectedBy hselected, ofBackend, hdriver]
    rfl

theorem ofDescriptor_of_refused (h : Refused descriptor cause) :
    ∃ refusal, ofDescriptor descriptor = .error refusal ∧ refusal.message = cause := by
  cases h with
  | blank hblank =>
    refine ⟨.blank, ?_, rfl⟩
    have hall : Text.isAllBlank descriptor.toList = true := List.all_eq_true.mpr hblank
    rw [ofDescriptor, if_pos hall]
  | unsupported hvisible hnone =>
    refine ⟨.unsupported (Url.redacted descriptor), ?_, rfl⟩
    rw [ofDescriptor, Text.isAllBlank_eq_false_iff.mpr hvisible, if_neg Bool.false_ne_true,
      Backend.ofDescriptor?_eq_none_iff.mpr hnone]
  | @postgres fault hselected hdriver =>
    refine ⟨.rejected fault.message, ?_, rfl⟩
    rw [ofDescriptor_of_selectedBy hselected, ofBackend, hdriver]
    rfl
  | @sqlite fault hselected hdriver =>
    refine ⟨.rejected fault.message, ?_, rfl⟩
    rw [ofDescriptor_of_selectedBy hselected, ofBackend, hdriver]
    rfl

end Target

theorem not_refused_of_reads (h : Reads descriptor t) : ¬ Refused descriptor cause := by
  intro hrefused
  obtain ⟨refusal, hrefusal, -⟩ := Target.ofDescriptor_of_refused hrefused
  rw [Target.ofDescriptor_of_reads h] at hrefusal
  cases hrefusal

/-! ## Reaching a target -/

namespace Drivers

/-- No connection to the target is had that answers: the driver gives none, or a ping over the one
that it gives fails. -/
inductive Unreached (drivers : Drivers) (settings : PoolSettings) (t : Target) (outage : Outage) :
    Prop
  | unacquired (hacquire : drivers.acquire settings t = .error outage)
  | unanswered {connection : Connection t.Database}
    (hacquire : drivers.acquire settings t = .ok connection)
    (hping : connection.ping = .error outage)

/-- A connection to the target is had and answers a ping.  The source is the database at its other
end, behind the pool of the settings. -/
inductive Reached (drivers : Drivers) (settings : PoolSettings) (t : Target) : Provisioned → Prop
  | answered {connection : Connection t.Database}
    (hacquire : drivers.acquire settings t = .ok connection) (hping : connection.ping = .ok ()) :
    Reached drivers settings t (t.opened settings.maxOpen connection.database)

/-- Every target is one or the other. -/
theorem exists_unreached_or_reached (drivers : Drivers) (settings : PoolSettings) (t : Target) :
    (∃ outage, drivers.Unreached settings t outage) ∨
      ∃ source, drivers.Reached settings t source := by
  cases hacquire : drivers.acquire settings t with
  | error outage => exact .inl ⟨outage, .unacquired hacquire⟩
  | ok connection =>
    cases hping : connection.ping with
    | error outage => exact .inl ⟨outage, .unanswered hacquire hping⟩
    | ok => exact .inr ⟨_, .answered hacquire hping⟩

theorem reach_of_unreached (h : drivers.Unreached settings t outage) :
    drivers.reach settings t = .error outage := by
  cases h with
  | unacquired hacquire =>
    rw [reach, hacquire]
    rfl
  | @unanswered connection hacquire hping =>
    rw [reach, hacquire]
    show (connection.ping >>= _) = _
    rw [hping]
    rfl

theorem reach_of_reached (h : drivers.Reached settings t source) :
    drivers.reach settings t = .ok source := by
  cases h with
  | @answered connection hacquire hping =>
    rw [reach, hacquire]
    show (connection.ping >>= _) = _
    rw [hping]
    rfl

/-- A source is of the backend of its target. -/
theorem Reached.backend_eq (h : drivers.Reached settings t source) :
    source.backend = t.backend := by
  cases h with
  | answered _ _ => cases t <;> rfl

/-! ## Provisioning -/

/-- What provisioning comes to, with a failure as it is reported. -/
def outcome (drivers : Drivers) (descriptor : String) (settings : PoolSettings) :
    Except Failure Provisioned :=
  (drivers.provision descriptor settings).mapError ProvisionFault.failure

/-- A descriptor that is refused is refused by all drivers. -/
theorem outcome_of_refused (h : Refused descriptor cause) (drivers : Drivers)
    (settings : PoolSettings) :
    drivers.outcome descriptor settings = .error (.connectionOpen cause) := by
  obtain ⟨refusal, hrefusal, rfl⟩ := Target.ofDescriptor_of_refused h
  rw [outcome, provision, hrefusal]
  rfl

/-- What provisioning comes to for a descriptor that is read. -/
theorem outcome_of_reads (h : Reads descriptor t) (drivers : Drivers) (settings : PoolSettings) :
    drivers.outcome descriptor settings =
      (drivers.reach settings t).mapError fun outage =>
        .unreachable (t.unreachableMessage (Url.redacted descriptor) outage) := by
  rw [outcome, provision, Target.ofDescriptor_of_reads h]
  show Except.mapError _ (Except.mapError _ (drivers.reach settings t)) = _
  cases drivers.reach settings t <;> rfl

theorem outcome_of_unreached (h : Reads descriptor t)
    (hunreached : drivers.Unreached settings t outage) :
    drivers.outcome descriptor settings =
      .error (.unreachable (t.unreachableMessage (Url.redacted descriptor) outage)) := by
  rw [outcome_of_reads h, reach_of_unreached hunreached]
  rfl

theorem outcome_of_reached (h : Reads descriptor t) (hreached : drivers.Reached settings t source) :
    drivers.outcome descriptor settings = .ok source := by
  rw [outcome_of_reads h, reach_of_reached hreached]
  rfl

/-- The three ways in which provisioning can go. -/
theorem outcome_cases (drivers : Drivers) (descriptor : String) (settings : PoolSettings) :
    (∃ cause, Refused descriptor cause ∧
      drivers.outcome descriptor settings = .error (.connectionOpen cause)) ∨
    (∃ t outage, Reads descriptor t ∧ drivers.Unreached settings t outage ∧
      drivers.outcome descriptor settings =
        .error (.unreachable (t.unreachableMessage (Url.redacted descriptor) outage))) ∨
    ∃ t source, Reads descriptor t ∧ drivers.Reached settings t source ∧
      drivers.outcome descriptor settings = .ok source := by
  rcases exists_reads_or_refused descriptor with ⟨t, hreads⟩ | ⟨cause, hrefused⟩
  · rcases drivers.exists_unreached_or_reached settings t with
      ⟨outage, hunreached⟩ | ⟨source, hreached⟩
    · exact .inr (.inl ⟨t, outage, hreads, hunreached, outcome_of_unreached hreads hunreached⟩)
    · exact .inr (.inr ⟨t, source, hreads, hreached, outcome_of_reached hreads hreached⟩)
  · exact .inl ⟨cause, hrefused, outcome_of_refused hrefused drivers settings⟩

/-- The report that a descriptor is refused depends on the descriptor alone. -/
theorem outcome_eq_connectionOpen_iff (drivers : Drivers) (settings : PoolSettings) :
    drivers.outcome descriptor settings = .error (.connectionOpen cause) ↔
      Refused descriptor cause := by
  refine ⟨fun h => ?_, fun h => outcome_of_refused h drivers settings⟩
  rcases outcome_cases drivers descriptor settings with
    ⟨cause', hrefused, houtcome⟩ | ⟨t, outage, -, -, houtcome⟩ | ⟨t, source, -, -, houtcome⟩
  · rw [houtcome] at h
    cases h
    exact hrefused
  · rw [houtcome] at h
    cases h
  · rw [houtcome] at h
    cases h

/-- For a descriptor that is read, the report that its target is unreachable depends on the target
alone. -/
theorem outcome_eq_unreachable_iff (h : Reads descriptor t) :
    drivers.outcome descriptor settings = .error (.unreachable cause) ↔
      ∃ outage, drivers.Unreached settings t outage ∧
        cause = t.unreachableMessage (Url.redacted descriptor) outage := by
  constructor
  · intro houtcome
    rcases drivers.exists_unreached_or_reached settings t with
      ⟨outage, hunreached⟩ | ⟨source, hreached⟩
    · rw [outcome_of_unreached h hunreached] at houtcome
      cases houtcome
      exact ⟨outage, hunreached, rfl⟩
    · rw [outcome_of_reached h hreached] at houtcome
      cases houtcome
  · rintro ⟨outage, hunreached, rfl⟩
    exact outcome_of_unreached h hunreached

/-- For a descriptor that is read there is a source exactly if its target is reached. -/
theorem outcome_eq_ok_iff (h : Reads descriptor t) :
    drivers.outcome descriptor settings = .ok source ↔ drivers.Reached settings t source := by
  refine ⟨fun houtcome => ?_, outcome_of_reached h⟩
  rcases drivers.exists_unreached_or_reached settings t with
    ⟨outage, hunreached⟩ | ⟨source', hreached⟩
  · rw [outcome_of_unreached h hunreached] at houtcome
    cases houtcome
  · rw [outcome_of_reached h hreached] at houtcome
    cases houtcome
    exact hreached

end Drivers

/-! ## Pools that keep their bounds -/

/-- The pool may open a connection and may wait for it. -/
def PoolSettings.IsUsable (settings : PoolSettings) : Prop :=
  0 < settings.maxOpen ∧ 0 < settings.acquireTimeout

instance (settings : PoolSettings) : Decidable settings.IsUsable :=
  inferInstanceAs (Decidable (_ ∧ _))

theorem PoolSettings.isUsable_iff : settings.IsUsable ↔ settings.fault? = none := by
  rw [IsUsable, fault?, Nat.pos_iff_ne_zero, Nat.pos_iff_ne_zero]
  split
  · rename_i hopen
    exact ⟨fun h => absurd hopen h.1, nofun⟩
  · rename_i hopen
    split
    · rename_i hpatience
      exact ⟨fun h => absurd hpatience h.2, nofun⟩
    · rename_i hpatience
      exact ⟨fun _ => rfl, fun _ => ⟨hopen, hpatience⟩⟩

/-- What a pool hands out: nothing if it cannot be used, else what connecting comes to. -/
theorem PoolSettings.handOut_eq {δ : Type} (settings : PoolSettings) (made : Except Outage δ) :
    settings.handOut made =
      if settings.IsUsable then made.map fun database => { database } else .error .timedOut := by
  rw [handOut]
  by_cases hpool : settings.IsUsable
  · rw [if_pos hpool, PoolSettings.isUsable_iff.mp hpool, Option.isSome_none,
      if_neg Bool.false_ne_true]
  · have hsome : settings.fault?.isSome = true := by
      rw [Option.isSome_iff_ne_none]
      exact fun hnone => hpool (PoolSettings.isUsable_iff.mpr hnone)
    rw [if_neg hpool, if_pos hsome]

/-- A pool that cannot be used hands out no connection, whoever is asked for. -/
def Drivers.KeepBounds (drivers : Drivers) : Prop :=
  ∀ (settings : PoolSettings) (t : Target), ¬ settings.IsUsable →
    drivers.acquire settings t = .error .timedOut

/-- Through a pool that cannot be used nothing is reached. -/
theorem Drivers.KeepBounds.unreached (h : drivers.KeepBounds) (hpool : ¬ settings.IsUsable)
    (t : Target) : drivers.Unreached settings t .timedOut :=
  .unacquired (h settings t hpool)

namespace Surroundings

/-- What provisioning comes to in some surroundings. -/
def outcome (around : Surroundings) (descriptor : String) (settings : PoolSettings) :
    Except Failure Provisioned :=
  around.drivers.outcome descriptor settings

theorem keepBounds (around : Surroundings) : around.drivers.KeepBounds := by
  intro settings t hpool
  cases t with
  | postgres t => exact (settings.handOut_eq _).trans (if_neg hpool)
  | sqlite t => exact (settings.handOut_eq _).trans (if_neg hpool)

/-- A server that can be connected to is reached through every pool that can be used. -/
theorem reached_of_connectTo_eq_ok {around : Surroundings} {t : Postgres.Target}
    {server : Postgres.Server} (hconnect : around.connectTo t = .ok server)
    (hpool : settings.IsUsable) :
    around.drivers.Reached settings (.postgres t)
      (.postgres (Postgres.opened server settings.maxOpen)) := by
  have hacquire : around.drivers.acquire settings (.postgres t) = .ok { database := server } := by
    refine (settings.handOut_eq _).trans ?_
    rw [if_pos hpool, hconnect]
    rfl
  exact .answered hacquire rfl

/-- A database that can be opened is reached through every pool that can be used. -/
theorem reached_of_store_eq_ok {around : Surroundings} {t : Sqlite.Target} {store : Sqlite.Store}
    (hstore : around.store t = .ok store) (hpool : settings.IsUsable) :
    around.drivers.Reached settings (.sqlite t)
      (.sqlite (Sqlite.opened store settings.maxOpen)) := by
  have hacquire : around.drivers.acquire settings (.sqlite t) = .ok { database := store } := by
    refine (settings.handOut_eq _).trans ?_
    rw [if_pos hpool, hstore]
    rfl
  exact .answered hacquire rfl

/-- A database that cannot be opened is not reached. -/
theorem unreached_of_store_eq_error {around : Surroundings} {t : Sqlite.Target}
    (hstore : around.store t = .error outage) (hpool : settings.IsUsable) :
    around.drivers.Unreached settings (.sqlite t) outage := by
  refine .unacquired ((settings.handOut_eq _).trans ?_)
  rw [if_pos hpool, hstore]
  rfl

theorem store_memory (around : Surroundings) :
    around.store { inMemory := true } = .ok { database := {}, meanings := around.meanings } := by
  rw [store, Sqlite.Target.openDatabase_memory]

end Surroundings

/-! ## The main statement -/

/-- **A descriptor is refused for what it says, and a target is not reached for what is there.**
Provisioning fails in these two ways only, whatever the drivers do.  It reports a descriptor as
refused exactly if the descriptor is blank, selects no backend, or is rejected by the driver of its
backend, and says so in a sentence that is the same for all drivers and with every pool.  Otherwise
the descriptor gives a target of the backend that it selects: the target is reported as unreachable
exactly if no connection to it is had or the ping over it fails, and otherwise there is a source of
that backend, on the database that answered. -/
theorem outcome_refused_or_unreached (drivers : Drivers) (descriptor : String)
    (settings : PoolSettings) :
    (∀ failure, drivers.outcome descriptor settings = .error failure →
      ∃ cause, failure = .connectionOpen cause ∨ failure = .unreachable cause) ∧
    (∀ cause, drivers.outcome descriptor settings = .error (.connectionOpen cause) ↔
      Refused descriptor cause) ∧
    (∀ (drivers' : Drivers) (settings' : PoolSettings) (cause : String),
      drivers'.outcome descriptor settings' = .error (.connectionOpen cause) ↔
        drivers.outcome descriptor settings = .error (.connectionOpen cause)) ∧
    ((∀ cause, ¬ Refused descriptor cause) ↔ ∃ t, Reads descriptor t) ∧
    ∀ t, Reads descriptor t →
      t.backend.SelectedBy descriptor ∧
      (∀ cause, drivers.outcome descriptor settings = .error (.unreachable cause) ↔
        ∃ outage, drivers.Unreached settings t outage ∧
          cause = t.unreachableMessage (Url.redacted descriptor) outage) ∧
      (∀ source, drivers.outcome descriptor settings = .ok source ↔
        drivers.Reached settings t source) ∧
      ((∀ outage, ¬ drivers.Unreached settings t outage) →
        ∃ source, drivers.outcome descriptor settings = .ok source ∧
          source.backend = t.backend) := by
  refine ⟨fun failure h => ?_, fun cause => drivers.outcome_eq_connectionOpen_iff settings,
    fun drivers' settings' cause => ?_, ⟨fun hread => ?_, ?_⟩, fun t hreads => ?_⟩
  · rcases drivers.outcome_cases descriptor settings with
      ⟨cause, -, houtcome⟩ | ⟨t, outage, -, -, houtcome⟩ | ⟨t, source, -, -, houtcome⟩
    · rw [houtcome] at h
      cases h
      exact ⟨cause, .inl rfl⟩
    · rw [houtcome] at h
      cases h
      exact ⟨_, .inr rfl⟩
    · rw [houtcome] at h
      cases h
  · rw [Drivers.outcome_eq_connectionOpen_iff, Drivers.outcome_eq_connectionOpen_iff]
  · exact (exists_reads_or_refused descriptor).resolve_right
      fun ⟨cause, hrefused⟩ => hread cause hrefused
  · exact fun ⟨t, hreads⟩ cause => not_refused_of_reads hreads
  · refine ⟨hreads.selectedBy, fun cause => Drivers.outcome_eq_unreachable_iff hreads,
      fun source => Drivers.outcome_eq_ok_iff hreads, fun hanswered => ?_⟩
    obtain ⟨source, hreached⟩ := (drivers.exists_unreached_or_reached settings t).resolve_left
      fun ⟨outage, hunreached⟩ => hanswered outage hunreached
    exact ⟨source, Drivers.outcome_of_reached hreads hreached, hreached.backend_eq⟩

/-- The descriptor of a database in memory. -/
theorem reads_memory : Reads "sqlite::memory:" (.sqlite { inMemory := true }) := by
  have hdescriptor : "sqlite::memory:" = "sqlite:" ++ ":memory:" := by decide +kernel
  have hread : Sqlite.Target.ofDescriptor "sqlite::memory:" = .ok { inMemory := true } := by
    rw [hdescriptor, Sqlite.Target.ofDescriptor_prefixed (by decide +kernel) (by decide +kernel)]
    rfl
  exact .sqlite (Backend.ofDescriptor?_eq_some_iff.mp (by decide +kernel)) hread

/-- A database in memory is had everywhere, but not with a pool that may open no connection.  A
server behind a socket is had if it answers the ping, and is reported to be slow if it does not.  A
mode that does not exist is refused everywhere. -/
theorem outcome_refused_or_unreached_of_memory_and_socket :
    (∃ source, Surroundings.empty.drivers.outcome "sqlite::memory:" {} = .ok source ∧
      source.backend = .sqlite) ∧
    Surroundings.empty.drivers.outcome "sqlite::memory:" { maxOpen := 0 } = .error (.unreachable
      "Cannot open sqlite::memory:: pool timed out while waiting for an open connection") ∧
    { Surroundings.empty with
        files := fun _ => .file []
        listening? := fun _ _ => some (.ok {}) : Surroundings }.drivers.outcome
      "postgres:///d?host=/run" {} = .ok (.postgres (Postgres.opened {} 20)) ∧
    { Surroundings.empty.drivers with
        connect := fun _ _ => .ok { database := {}, ping := .error .timedOut } : Drivers }.outcome
      "postgres:///d?host=/run" {} = .error (.unreachable
        ("Connection to postgres:///d?host=/run timed out. " ++
          "The server may be overloaded or unreachable.")) ∧
    ∀ (drivers : Drivers) (settings : PoolSettings),
      drivers.outcome "sqlite::memory:?mode=bogus" settings = .error (.connectionOpen
        "error with configuration: unknown value \"bogus\" for `mode`") := by
  have hreads : Reads "postgres:///d?host=/run"
      (.postgres { socket := some "/run", database := some "d" }) :=
    .postgres (Backend.ofDescriptor?_eq_some_iff.mp (by decide +kernel)) (by decide +kernel)
  refine ⟨?_, ?_, ?_, ?_, fun drivers settings => ?_⟩
  · obtain ⟨-, -, -, -, hall⟩ :=
      outcome_refused_or_unreached Surroundings.empty.drivers "sqlite::memory:" {}
    have hreached : Surroundings.empty.drivers.Reached {} (.sqlite { inMemory := true }) _ :=
      Surroundings.reached_of_store_eq_ok (Surroundings.store_memory .empty) (by decide)
    exact ⟨_, ((hall _ reads_memory).2.2.1 _).mpr hreached, rfl⟩
  · obtain ⟨-, -, -, -, hall⟩ :=
      outcome_refused_or_unreached Surroundings.empty.drivers "sqlite::memory:" { maxOpen := 0 }
    have hunreached : Surroundings.empty.drivers.Unreached { maxOpen := 0 }
        (.sqlite { inMemory := true }) .timedOut :=
      Surroundings.empty.keepBounds.unreached (by decide) _
    exact ((hall _ reads_memory).2.1 _).mpr ⟨.timedOut, hunreached, by decide +kernel⟩
  · let listening : Surroundings :=
      { Surroundings.empty with
        files := fun _ => .file []
        listening? := fun _ _ => some (.ok {}) }
    have hconnect :
        listening.connectTo { socket := some "/run", database := some "d" } = .ok {} := by
      have hpath : ¬ '\x00' ∈ "/run/.s.PGSQL.5432".toList ∧
          ¬ socketPathLimit ≤ "/run/.s.PGSQL.5432".utf8ByteSize := by decide +kernel
      have hplace : Postgres.Target.place { socket := some "/run", database := some "d" }
          listening.standard = .socket "/run/.s.PGSQL.5432" := by decide +kernel
      rw [Surroundings.connectTo, hplace]
      dsimp only
      rw [Surroundings.connectSocket, if_neg hpath.1, if_neg hpath.2]
      rfl
    obtain ⟨-, -, -, -, hall⟩ :=
      outcome_refused_or_unreached listening.drivers "postgres:///d?host=/run" {}
    exact ((hall _ hreads).2.2.1 _).mpr
      (Surroundings.reached_of_connectTo_eq_ok hconnect (by decide))
  · obtain ⟨-, -, -, -, hall⟩ := outcome_refused_or_unreached _ "postgres:///d?host=/run" {}
    exact ((hall _ hreads).2.1 _).mpr ⟨.timedOut, .unanswered rfl rfl, by decide +kernel⟩
  · have hdescriptor : "sqlite::memory:?mode=bogus" = "sqlite:" ++ ":memory:?mode=bogus" := by
      decide +kernel
    have hcut : Text.cutAt '?' ":memory:?mode=bogus".toList =
        some (":memory:".toList, "mode=bogus".toList) := by decide +kernel
    have hpairs : Url.Percent.formPairs "mode=bogus".toList = [("mode", "bogus")] := by
      decide +kernel
    have hrejected : Sqlite.Target.ofDescriptor "sqlite::memory:?mode=bogus" =
        .error (.unknownValue "mode" "bogus") := by
      rw [hdescriptor, Sqlite.Target.ofDescriptor_prefixed (by decide +kernel) (by decide +kernel),
        Sqlite.Target.ofText, hcut, Option.getD_some]
      dsimp only
      rw [hpairs]
      rfl
    have hselected : Backend.sqlite.SelectedBy "sqlite::memory:?mode=bogus" :=
      Backend.ofDescriptor?_eq_some_iff.mp (by decide +kernel)
    have hcause : (Sqlite.Target.Fault.unknownValue "mode" "bogus").message =
        "error with configuration: unknown value \"bogus\" for `mode`" := by decide +kernel
    obtain ⟨-, hrefused, -⟩ :=
      outcome_refused_or_unreached drivers "sqlite::memory:?mode=bogus" settings
    rw [hrefused, ← hcause]
    exact .sqlite hselected hrejected

end LiteralRows
