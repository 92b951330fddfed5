import LiteralRows.Text.Quoted
import LiteralRows.Url.Reading

/-!
# PostgreSQL descriptors

A descriptor is a URL.  Its host, port, credentials and path say where the server is and what to
ask of it; the parameters of its query may say so again, and the last one counts.  A host that
begins with a slash, escaped in the URL, is a directory in which the server listens on a socket; a
socket wins over a host, whichever was given last.

What a descriptor leaves open is said by a `Standard`, which an environment can change.
`Target.place` puts the two together.
-/

namespace LiteralRows.Postgres

/-- Where a server is, and who asks it for what. -/
structure Target where
  host : Option String := none
  /-- The directory of the server's socket, if it is to be reached over one. -/
  socket : Option String := none
  port : Option Nat := none
  userName : Option String := none
  password : Option String := none
  database : Option String := none
  deriving DecidableEq, Repr, Inhabited

/-- Why a text is no descriptor. -/
inductive Target.Fault where
  | url (fault : Url.Fault)
  | notUtf8 (fault : Text.Utf8.Fault)
  | number (fault : Text.NumberFault)
  | notAnAddress
  | unknownSslMode (value : String)
  deriving DecidableEq, Repr

/-- The sentence that reports it. -/
def Target.Fault.message : Target.Fault → String
  | .url fault => configuration ++ fault.message
  | .notUtf8 fault => configuration ++ fault.message
  | .number fault => configuration ++ fault.message
  | .notAnAddress => configuration ++ "invalid IP address syntax"
  | .unknownSslMode value =>
    configuration ++ configuration ++ "unknown value " ++ Text.quoted value ++ " for `ssl_mode`"
where
  configuration : String := "error with configuration: "

namespace Target

/-- The modes of encryption. -/
def sslModes : List String :=
  ["disable", "allow", "prefer", "require", "verify-ca", "verify-full"]

/-- The text is a numeric address. -/
def isAddress (s : List Char) : Bool :=
  (Url.Host.quad? s).isSome || (Url.Host.ipv6? s).isSome

/-- The text that an escaped part of a URL stands for. -/
def decoded (s : String) : Except Fault String :=
  ((Url.Percent.textOf s.toList).map String.ofList).mapError .notUtf8

/-- The target with a host, or with a socket if the host begins with a slash. -/
def withHost (t : Target) (host : String) : Target :=
  if host.startsWith "/" then { t with socket := some host } else { t with host := some host }

/-- The target with the host of a URL. -/
def withUrlHost (t : Target) (host : Url.Host) : Except Fault Target :=
  if host = .empty then .ok t
  else if (Url.Percent.bytesOf host.text.toList).head? = some 0x2F then do
    .ok { t with socket := some (← decoded host.text) }
  else .ok { t with host := some host.text }

/-- The decoded text, unless it is empty. -/
def decodedUnlessEmpty (s : String) : Except Fault (Option String) :=
  if s.isEmpty then .ok none else (decoded s).map some

/-- The target with what stands before the query of a URL. -/
def withUrl (t : Target) (url : Url) : Except Fault Target := do
  let authority := url.authority.getD { host := .empty }
  let t ← t.withUrlHost authority.host
  let userName ← decodedUnlessEmpty authority.userName
  let password ← decodedUnlessEmpty authority.password
  let path := url.path.text.toList.dropWhile (· == '/')
  let database ← decodedUnlessEmpty (String.ofList path)
  .ok { t with port := authority.port, userName, password, database }

/-- The target with one parameter of the query.  Parameters that say nothing about where the
server is are passed over. -/
def withParameter (t : Target) (name value : String) : Except Fault Target :=
  let number (bound : Nat) := (Text.readBounded bound value.toList).mapError Fault.number
  match name with
  | "host" => .ok (t.withHost value)
  | "hostaddr" =>
    if isAddress value.toList then .ok { t with host := some value } else .error .notAnAddress
  | "port" => (number 65536).map fun port => { t with port := some port }
  | "dbname" => .ok { t with database := some value }
  | "user" => .ok { t with userName := some value }
  | "password" => .ok { t with password := some value }
  | "sslmode" | "ssl-mode" =>
    if sslModes.contains (Text.lowerAscii value) then .ok t else .error (.unknownSslMode value)
  | "statement-cache-capacity" => (number (Nat.pow 2 64)).map fun _ => t
  | _ => .ok t

/-- Reads a descriptor. -/
def ofDescriptor (descriptor : String) : Except Fault Target := do
  let url ← (Url.parse descriptor).mapError .url
  let t ← ({} : Target).withUrl url
  (Url.Percent.formPairs (url.query.getD "").toList).foldlM
    (fun t (name, value) => t.withParameter name value) t

end Target

/-! ## Where the server is -/

/-- The host and the port of a descriptor that names none. -/
structure Standard where
  host : String := "localhost"
  port : Nat := 5432
  deriving DecidableEq, Repr

namespace Standard

/-- The environment variables that name the host, the first one before the second. -/
def hostVariables : List String :=
  ["PGHOSTADDR", "PGHOST"]

/-- The environment variable that gives the port. -/
def portVariable : String := "PGPORT"

/-- The standard that environment variables set.  A port that is no number is passed over. -/
def ofEnvironment (environment : String → Option String) : Standard :=
  let number (text : String) := (Text.readBounded 65536 text.toList).toOption
  { host := (hostVariables.findSome? environment).getD ({} : Standard).host
    port := ((environment portVariable).bind number).getD ({} : Standard).port }

end Standard

/-- Where a server listens. -/
inductive Place where
  | network (host : String) (port : Nat)
  | socket (path : String)
  deriving DecidableEq, Repr

/-- The place of the server with a port, on a socket in a directory. -/
def Place.within (directory : String) (port : Nat) : Place :=
  .socket (directory ++ "/.s.PGSQL." ++ toString port)

/-- Where the server of a target listens.  A standard host that begins with a slash is a directory,
too. -/
def Target.place (t : Target) (standard : Standard) : Place :=
  let port := t.port.getD standard.port
  let host := t.host.getD standard.host
  match t.socket with
  | some directory => .within directory port
  | none => if host.startsWith "/" then .within host port else .network host port

end LiteralRows.Postgres
