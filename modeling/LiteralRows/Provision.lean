import LiteralRows.Postgres.Server
import LiteralRows.Postgres.Target
import LiteralRows.Settings
import LiteralRows.Sqlite.Engine
import LiteralRows.Sqlite.Target

/-!
# Provisioning a source

From a descriptor to a source that has been seen to work.  There are two steps.
`Target.ofDescriptor` looks at the descriptor alone: whether it names a backend, and whether the
backend's driver can read it.  `Drivers.reach` then acquires a connection to the target, through a
pool, and sends a ping over it.

The two kinds of failure belong to the two steps: a descriptor that is refused is one thing, a
target that does not answer is another.

What a driver comes to when it is asked for a connection is not decided here.  `Drivers` is whatever
the drivers do; `Surroundings` has some that look at files and know a few servers.
-/

namespace LiteralRows

/-- What a descriptor asks for. -/
inductive Target where
  | postgres (target : Postgres.Target)
  | sqlite (target : Sqlite.Target)
  deriving DecidableEq, Repr

/-- Why a descriptor is refused. -/
inductive Refusal where
  | blank
  | unsupported (shown : String)
  /-- The driver of the backend cannot read it. -/
  | rejected (cause : String)
  deriving DecidableEq, Repr

/-- The sentence that reports it. -/
def Refusal.message : Refusal → String
  | .blank => "descriptor is empty"
  | .unsupported shown =>
    "unsupported descriptor " ++ shown ++ "; expected postgres:// or sqlite:"
  | .rejected cause => cause

namespace Target

/-- The kind of the source. -/
def backend : Target → Backend
  | postgres _ => .postgres
  | sqlite _ => .sqlite

/-- Reads a descriptor as its backend does. -/
def ofBackend (b : Backend) (descriptor : String) : Except Refusal Target :=
  match b with
  | .postgres =>
    ((Postgres.Target.ofDescriptor descriptor).map postgres).mapError fun fault =>
      .rejected fault.message
  | .sqlite =>
    ((Sqlite.Target.ofDescriptor descriptor).map sqlite).mapError fun fault =>
      .rejected fault.message

/-- Reads a descriptor. -/
def ofDescriptor (descriptor : String) : Except Refusal Target :=
  if Text.isAllBlank descriptor.toList then .error .blank
  else match Backend.ofDescriptor? descriptor with
    | none => .error (.unsupported (Url.redacted descriptor))
    | some b => ofBackend b descriptor

end Target

/-! ## Connections -/

/-- Why a connection is not to be had, or does not answer, in the words of a driver. -/
structure Outage where
  message : String
  deriving DecidableEq, Repr

namespace Outage

/-- No connection was to be had in time. -/
def timedOut : Outage :=
  ⟨Pooled.Pool.Fault.timedOut.message⟩

/-- The system reports an error. -/
def system (cause : String) : Outage :=
  ⟨"error communicating with database: " ++ cause⟩

/-- The server reports an error. -/
def server (message : String) : Outage :=
  ⟨"error returned from database: " ++ message⟩

end Outage

/-- A connection, and the database at its other end. -/
structure Connection (δ : Type) where
  database : δ
  /-- What comes of a ping over the connection. -/
  ping : Except Outage Unit := .ok ()

/-- The databases that may be at a target. -/
def Target.Database : Target → Type
  | postgres _ => Postgres.Server
  | sqlite _ => Sqlite.Store

/-- The drivers of the backends.  Nothing is assumed of them: which targets they reach, when, and
through pools with which settings, is theirs to say. -/
structure Drivers where
  /-- What comes of asking a pool for a connection to a PostgreSQL server. -/
  connect : PoolSettings → Postgres.Target → Except Outage (Connection Postgres.Server)
  /-- What comes of asking a pool for a connection to an SQLite database. -/
  openDatabase : PoolSettings → Sqlite.Target → Except Outage (Connection Sqlite.Store)

/-- A source that has been seen to work, in the state in which it was opened. -/
inductive Provisioned where
  | postgres (state : Pooled.State Postgres.Server)
  | sqlite (state : Pooled.State Sqlite.Store)

/-- The kind of the source. -/
def Provisioned.backend : Provisioned → Backend
  | .postgres _ => .postgres
  | .sqlite _ => .sqlite

/-- The source on a database at a target, behind a pool with so many connections. -/
def Target.opened (connections : Nat) : (t : Target) → t.Database → Provisioned
  | .postgres _, server => .postgres (Postgres.opened server connections)
  | .sqlite _, store => .sqlite (Sqlite.opened store connections)

/-! ## Failures -/

/-- A reason why a server cannot be reached, in words for its user. -/
def Postgres.unreachableMessage (shown : String) (outage : Outage) : String :=
  let said := (Text.lower outage.message).toList
  let holds (part : String) : Bool := Text.occursIn part.toList said
  if holds "connection refused" || holds "could not connect" then
    "Cannot connect to " ++ shown ++ ". Check that the server is running."
  else if holds "password authentication failed" || holds "authentication failed" then
    "Authentication failed for " ++ shown ++ ". Check your credentials."
  else if holds "timed out" || holds "timeout" then
    "Connection to " ++ shown ++ " timed out. The server may be overloaded or unreachable."
  else outage.message

/-- A reason why a target cannot be reached, in words for its user. -/
def Target.unreachableMessage (t : Target) (shown : String) (outage : Outage) : String :=
  match t with
  | .postgres _ => Postgres.unreachableMessage shown outage
  | .sqlite _ => "Cannot open " ++ shown ++ ": " ++ outage.message

/-- Why there is no source. -/
inductive ProvisionFault where
  | refused (refusal : Refusal)
  /-- The target, as it may be shown, did not answer. -/
  | dead (target : Target) (shown : String) (outage : Outage)
  deriving DecidableEq, Repr

/-- The failure that reports it. -/
def ProvisionFault.failure : ProvisionFault → Failure
  | .refused refusal => .connectionOpen refusal.message
  | .dead target shown outage => .unreachable (target.unreachableMessage shown outage)

/-! ## Provisioning -/

namespace Drivers

/-- Asks a pool for a connection to a target. -/
def acquire (drivers : Drivers) (settings : PoolSettings) :
    (t : Target) → Except Outage (Connection t.Database)
  | .postgres t => drivers.connect settings t
  | .sqlite t => drivers.openDatabase settings t

/-- Acquires a connection to a target and sends a ping over it. -/
def reach (drivers : Drivers) (settings : PoolSettings) (t : Target) :
    Except Outage Provisioned := do
  let connection ← drivers.acquire settings t
  connection.ping
  .ok (t.opened settings.maxOpen connection.database)

/-- Provisions the source that a descriptor asks for. -/
def provision (drivers : Drivers) (descriptor : String) (settings : PoolSettings) :
    Except ProvisionFault Provisioned := do
  let target ← (Target.ofDescriptor descriptor).mapError .refused
  (drivers.reach settings target).mapError (.dead target (Url.redacted descriptor))

end Drivers

end LiteralRows
