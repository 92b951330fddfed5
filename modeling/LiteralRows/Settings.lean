import LiteralRows.Backend
import LiteralRows.Datum
import LiteralRows.Failure
import LiteralRows.Text.Blank
import LiteralRows.Token

/-!
# Settings

The configuration: where the source is, how its connection pool is shaped, and how tokens are
quoted.  Every setting has a default.  `Config.ofDatum?` reads a configuration, and
`PoolSettings.check` says whether the pool that it asks for can be used at all.
-/

namespace LiteralRows

/-- The shape of a connection pool. -/
structure PoolSettings where
  /-- Connections that are kept open while idle. -/
  maxIdle : Nat := 10
  /-- Connections that may be open at once. -/
  maxOpen : Nat := 20
  /-- The lifetime of one connection, in seconds. -/
  maxLifetime : Nat := 3600
  /-- How long a request may wait for a connection, in seconds. -/
  acquireTimeout : Nat := 10
  deriving DecidableEq, Repr, Inhabited

namespace PoolSettings

/-- The number of connections kept open, never more than may be open. -/
def warm (p : PoolSettings) : Nat :=
  min p.maxIdle p.maxOpen

/-- Why a pool cannot be used. -/
inductive Fault where
  | noConnections
  | noPatience
  deriving DecidableEq, Repr

/-- The sentence that reports an unusable pool. -/
def Fault.message : Fault → String
  | noConnections => "pool.max_open must be at least 1"
  | noPatience => "pool.acquire_timeout_secs must be at least 1"

/-- Why the pool cannot be used, if it cannot. -/
def fault? (p : PoolSettings) : Option Fault :=
  if p.maxOpen = 0 then some .noConnections
  else if p.acquireTimeout = 0 then some .noPatience
  else none

/-- The pool can be used, or the configuration has to be changed. -/
def check (p : PoolSettings) : Except Failure Unit :=
  match p.fault? with
  | some fault => .error (.config fault.message)
  | none => .ok ()

/-- Reads the shape of a pool. -/
def ofDatum? (d : Datum) : Option PoolSettings := do
  let slots ← d.slots? ["max_idle", "max_open", "max_lifetime_secs", "acquire_timeout_secs"]
  match slots with
  | [idle, opened, lifetime, timeout] =>
    let maxIdle ← idle.withDefault 10 (Datum.asNat? (Nat.pow 2 32))
    let maxOpen ← opened.withDefault 20 (Datum.asNat? (Nat.pow 2 32))
    let maxLifetime ← lifetime.withDefault 3600 (Datum.asNat? (Nat.pow 2 64))
    let acquireTimeout ← timeout.withDefault 10 (Datum.asNat? (Nat.pow 2 64))
    some { maxIdle, maxOpen, maxLifetime, acquireTimeout }
  | _ => none

end PoolSettings

/-- Reads how tokens are quoted. -/
def Quoting.ofDatum? (d : Datum) : Option Quoting := do
  match ← d.slots? ["escape_quotes"] with
  | [escape] =>
    let escapeQuotes ← escape.withDefault false Datum.asBool?
    some { escapeQuotes }
  | _ => none

/-- Where the source is. -/
structure SourceSettings where
  /-- The descriptor of the source. -/
  url : Option String := none
  deriving DecidableEq, Repr, Inhabited

/-- Reads where the source is. -/
def SourceSettings.ofDatum? (d : Datum) : Option SourceSettings := do
  match ← d.slots? ["url"] with
  | [url] =>
    let url ← url.optional Datum.asString?
    some { url }
  | _ => none

/-- The whole configuration. -/
structure Config where
  source : SourceSettings := {}
  pool : PoolSettings := {}
  quoting : Quoting := {}
  deriving DecidableEq, Repr, Inhabited

namespace Config

/-- Reads a configuration, without looking at what its values mean. -/
def ofDatum? (d : Datum) : Option Config := do
  match ← d.slots? ["source", "pool", "normalize"] with
  | [source, pool, quoting] =>
    let source ← source.withDefault {} SourceSettings.ofDatum?
    let pool ← pool.withDefault {} PoolSettings.ofDatum?
    let quoting ← quoting.withDefault {} Quoting.ofDatum?
    some { source, pool, quoting }
  | _ => none

/-- The environment variables that may hold a descriptor, in the order in which they are asked. -/
def descriptorVariables : List String :=
  ["ROWSHIFT_SOURCE_URL", "DATABASE_URL"]

/-- The text, unless it is blank. -/
def unlessBlank (s : String) : Option String :=
  if Text.isAllBlank s.toList then none else some s

/-- The descriptor of the source: the one given on the command line, else the configured one, else
the one in the environment.  Blank ones count as missing. -/
def resolveDescriptor (config : Config) (explicit : Option String)
    (environment : String → Option String) : Except Failure String :=
  let candidates := [explicit, config.source.url] ++ descriptorVariables.map environment
  match candidates.findSome? (·.bind unlessBlank) with
  | some descriptor => .ok descriptor
  | none => .error (.config
      ("No source descriptor given. Pass one on the command line, set source.url, or export " ++
        Text.joined " or " descriptorVariables))

end Config

end LiteralRows
