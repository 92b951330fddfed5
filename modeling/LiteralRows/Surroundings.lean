import LiteralRows.Provision
import LiteralRows.Sqlite.Opening

/-!
# Surroundings

What a program finds around it, as far as its sources are concerned: servers on the network and
behind sockets, and the files in which databases lie.  `Surroundings.drivers` are drivers that find
just that.

* A pool that may open no connection, or may not wait for one, hands out none (`handOut`).
* A server listens at an address of the network or behind a socket, which is a file
  (`Surroundings.connectTo`).
* A database is opened as the files are (`Sqlite.Target.openDatabase`).

A connection that is made in this way answers every ping.
-/

namespace LiteralRows

/-- What surrounds a program: the servers that it can connect to, and the files that it can read. -/
structure Surroundings where
  /-- What is found at an address of the network. -/
  connect : Postgres.Target → Except Outage Postgres.Server
  /-- What is found behind the socket at a path, if anybody listens there. -/
  listening? : String → Postgres.Target → Option (Except Outage Postgres.Server) :=
    fun _ _ => none
  /-- Where a server is of which no more is said. -/
  standard : Postgres.Standard := {}
  files : Files
  /-- The database that the bytes of a file are. -/
  database? : List UInt8 → Option Sqlite.Database
  /-- The query texts whose SQLite statements are given as data. -/
  meanings : List (String × List Sqlite.Statement) := []

/-- What a pool hands out, where connecting comes to this. -/
def PoolSettings.handOut {δ : Type} (settings : PoolSettings) (made : Except Outage δ) :
    Except Outage (Connection δ) :=
  if settings.fault?.isSome then .error .timedOut else made.map fun database => { database }

/-- The number of bytes that the path of a socket has to stay below. -/
def socketPathLimit : Nat := 108

namespace Surroundings

/-- The surroundings in which nothing can be reached. -/
def empty : Surroundings :=
  { connect := fun _ => .error (.system "Network is unreachable (os error 101)")
    files := fun _ => .absent .missing
    database? := fun _ => none }

/-- Connects to the server behind a socket.  A file on which nobody listens refuses every
connection, and the pool tries again until its time is up. -/
def connectSocket (around : Surroundings) (path : String) (t : Postgres.Target) :
    Except Outage Postgres.Server :=
  if '\x00' ∈ path.toList then .error (.system "paths must not contain interior null bytes")
  else if socketPathLimit ≤ path.utf8ByteSize then
    .error (.system "path must be shorter than SUN_LEN")
  else match around.files path with
    | .absent cause => .error (.system cause.message)
    | .file _ | .directory => (around.listening? path t).getD (.error .timedOut)

/-- Connects to the server of a target. -/
def connectTo (around : Surroundings) (t : Postgres.Target) : Except Outage Postgres.Server :=
  match t.place around.standard with
  | .network _ _ => around.connect t
  | .socket path => around.connectSocket path t

/-- Opens the database of a target. -/
def store (around : Surroundings) (t : Sqlite.Target) : Except Outage Sqlite.Store :=
  match t.openDatabase around.files around.database? with
  | .ok database => .ok { database, meanings := around.meanings }
  | .error fault => .error ⟨fault.message⟩

/-- The drivers that find what is there. -/
def drivers (around : Surroundings) : Drivers where
  connect settings t := settings.handOut (around.connectTo t)
  openDatabase settings t := settings.handOut (around.store t)

/-- Provisions the source that a descriptor asks for. -/
def provision (around : Surroundings) (descriptor : String) (settings : PoolSettings) :
    Except ProvisionFault Provisioned :=
  around.drivers.provision descriptor settings

end Surroundings

end LiteralRows
