import LiteralRows.Catalog
import LiteralRows.Command.Arguments
import LiteralRows.Json.Printer
import LiteralRows.Json.Records
import LiteralRows.Log.Filter
import LiteralRows.Places
import LiteralRows.Settings.EnvironmentFile
import LiteralRows.Settings.Loading
import LiteralRows.Surroundings

/-!
# The command

What a command line does, as a function of what surrounds it.  `plan` decides everything that can
be decided without a source.  `carryOut` uses one source: it checks the schema and the tables that
the user named, runs the user's query, and closes the source whatever happened.  `run` puts both
together with the arguments, the environment and the log.

A result is printed if it is complete, or if it broke off in the middle; the exit code tells the
two apart.  Nothing but the user's own query is ever printed.
-/

namespace LiteralRows.Command

/-! ## Planning -/

/-- Everything that a command line, a configuration and an environment decide. -/
structure Plan where
  descriptor : String
  pool : PoolSettings
  sql : String
  format : Arguments.Format
  quoting : Quoting
  schema : Option String
  tables : List String
  deriving DecidableEq, Repr

/-- What surrounds a command. -/
structure World where
  environment : EnvironmentFile.Environment := []
  /-- The home directory of the account. -/
  account : Option String := none
  /-- The directory in which the program runs, if that can be told. -/
  directory? : Option String := some "."
  around : Surroundings
  /-- Begins a log at a path with some bytes, and gives the files as they are then. -/
  beginLog : String → List UInt8 → Except LogFault Files

namespace World

/-- The value of an environment variable. -/
def valueOf (world : World) (name : String) : Option String :=
  world.environment.lookup name

/-- The files. -/
def files (world : World) : Files :=
  world.around.files

/-- The places that the environment names. -/
def places (world : World) : Places.Directories :=
  Places.ofEnvironment world.valueOf world.account

/-- The filter of the log that the environment asks for, if it can be one at all. -/
def filter? (world : World) : Option Log.Filter :=
  Log.Filter.ofEnvironment (world.valueOf Log.filterVariable)

end World

/-- What surrounds a source that is opened. -/
def World.surroundings (world : World) : Surroundings :=
  { world.around with standard := .ofEnvironment world.valueOf }

/-- The name of the file that adds to the environment. -/
def environmentFile : String := ".env"

/-- The paths at which that file may be: in the directory of the program, or in one above it. -/
def World.environmentPaths (world : World) : List String :=
  ((world.directory?.map Path.above).getD []).map (Places.join · environmentFile)

/-- The surroundings with what the nearest environment file adds, if the environment can hold it. -/
def World.extended? (world : World) : Option World :=
  match world.files.first? world.environmentPaths with
  | some bytes => (EnvironmentFile.extend? world.environment bytes).map fun environment =>
      { world with environment }
  | none => some world

/-- The names of the environment variables that a command asks for. -/
def variableNames : List String :=
  Places.variableNames ++ Config.descriptorVariables ++ Postgres.Standard.hostVariables ++
    [Postgres.Standard.portVariable, Log.filterVariable]

/-- The path of the configuration. -/
def World.configFile (world : World) (a : Arguments) : String :=
  a.configFile world.places.configFile

/-- Decides what a command line asks for.  The configuration comes first, then the descriptor, the
query and the format. -/
def plan (world : World) (a : Arguments) : Except Failure Plan := do
  let path := world.configFile a
  let config ← Config.load path (world.files path)
  let descriptor ← config.resolveDescriptor a.descriptor world.valueOf
  let sql ← a.queryText world.files
  let format ← a.outputFormat
  .ok { descriptor, pool := config.pool, sql, format
        quoting := { escapeQuotes := config.quoting.escapeQuotes || a.escapeQuotes }
        schema := a.schema, tables := a.tables }

/-! ## Printing -/

/-- A line of texts with commas between them. -/
def commaLine (texts : List String) : String :=
  Text.joined ", " texts ++ "\n"

/-- A result in a format. -/
def printed (format : Arguments.Format) (r : ResultSet) : String :=
  match format with
  | .text => commaLine r.columnNames ++ String.join (r.rows.map commaLine)
  | .json => r.json.pretty ++ "\n"

/-! ## Using a source -/

/-- What the use of a source gave. -/
structure Report where
  failure? : Option Failure
  output : String := ""
  /-- The rows of a result that broke off, if they were printed. -/
  partialRows? : Option Nat := none
  deriving DecidableEq, Repr

/-- The report on the run of the user's query. -/
def Report.ofMaterialization (format : Arguments.Format) (m : Materialization) : Report :=
  match m.failure? with
  | none => { failure? := none, output := printed format m.result }
  | some failure =>
    if failure.isMidIteration then
      { failure? := some failure, output := printed format m.result
        partialRows? := some m.result.rowCount }
    else { failure? := some failure }

variable {σ κ : Type}

/-- Checks the schema and the tables that a plan names. -/
def check (src : Source σ κ) (p : Plan) (w : Watched σ) : Except Failure Unit × Watched σ :=
  match p.schema with
  | none => (.ok (), w)
  | some schema =>
    if p.tables.isEmpty then Catalog.ensureSchema src schema w
    else Catalog.ensureTables src schema p.tables w

/-- Carries out a plan on a source that stays open. -/
def execute (src : Source σ κ) (p : Plan) (w : Watched σ) : Report × Watched σ :=
  match check src p w with
  | (.error failure, w) => ({ failure? := some failure }, w)
  | (.ok (), w) =>
    let (m, w) := src.materialize p.quoting p.sql w
    (Report.ofMaterialization p.format m, w)

/-- Carries out a plan on a source and closes it. -/
def carryOut (src : Source σ κ) (p : Plan) (state : σ) : Report × Watched σ :=
  let (report, w) := execute src p { state }
  (report, src.shutDown w)

/-- A source that has been opened, of whatever kind. -/
structure OpenSource where
  σ : Type
  κ : Type
  source : Source σ κ
  state : σ

/-- A provisioned source, as any other. -/
def openSource : Provisioned → OpenSource
  | .postgres state => ⟨_, _, Postgres.source, state⟩
  | .sqlite state => ⟨_, _, Sqlite.source, state⟩

/-! ## Logging -/

/-- The parts of the program that write to the log. -/
inductive Part where
  | main
  | materializer
  | backend (b : Backend)
  deriving DecidableEq, Repr

/-- The name of a part in the log. -/
def Part.name : Part → String
  | main => Places.ownName
  | materializer => Places.ownName ++ "::query::materializer"
  | backend b => Places.ownName ++ "::db::" ++ b.name

/-- A record of a part. -/
def record (level : Log.Level) (part : Part) (message : String)
    (fields : List (String × Nat) := []) : Log.Record :=
  { level, target := part.name, message
    fields := fields.map fun (name, n) => (name, toString n) }

/-- The record of a warning. -/
def warningRecord : Warning → Log.Record
  | .cursorFailed cause rows =>
    record .warn .materializer ("cursor failed after last row: " ++ cause) [("rows", rows)]
  | .rowUnreadable cause row =>
    record .warn .materializer ("row scan failed: " ++ cause) [("row", row)]

/-- The record of the failure that ends a command. -/
def failureRecord (failure : Failure) : Log.Record :=
  record .error .main (failure.category ++ ": " ++ failure.message)

/-- The record that a target did not answer. -/
def faultRecords : ProvisionFault → List Log.Record
  | .refused _ => []
  | .dead target shown _ =>
    [record .warn (.backend target.backend) ("Liveness check failed for " ++ shown)]

/-- The records of the use of a source. -/
def Report.records (r : Report) (warnings : List Warning) : List Log.Record :=
  warnings.map warningRecord ++
    (r.partialRows?.map fun rows =>
      record .warn .main "printing partial result; rows after the failure are missing"
        [("rows", rows)]).toList ++
    (r.failure?.map failureRecord).toList

/-- The record with which every log begins. -/
def openingRecord (world : World) (a : Arguments) : Log.Record :=
  record .info .main ("Loading config from: " ++ world.configFile a)

/-- The first records of a log. -/
def opening (world : World) (a : Arguments) : List Log.Record :=
  [openingRecord world a].filter fun r => world.filter?.any (·.admits r)

/-- The bytes of a log, each record on lines of its own. -/
def logBytes (records : List Log.Record) : List UInt8 :=
  Text.Utf8.encode (String.join (records.map fun r => r.text ++ "\n")).toList

/-- What a run of the program writes, and where. -/
structure Written where
  exitCode : Nat
  output : String := ""
  /-- What is said on standard error besides the log. -/
  notices : List String := []
  /-- The log. -/
  records : List Log.Record := []
  /-- The file in which the log stands; without it, the log goes to standard error. -/
  logFile : Option String := none
  deriving DecidableEq, Repr

/-- Begins the log of a command.  If that cannot be done in the file that was asked for, a notice
tells why, and the log goes to standard error. -/
def begin (world : World) (a : Arguments) : World × Written :=
  let records := opening world a
  let started : Written := { exitCode := 0, records }
  match a.logFile with
  | none => (world, started)
  | some path =>
    match world.beginLog path (logBytes records) with
    | .ok files =>
      ({ world with around := { world.around with files } }, { started with logFile := some path })
    | .error fault => (world, { started with notices := [fault.notice] })

/-! ## Running -/

/-- What a command leaves behind. -/
structure Outcome where
  exitCode : Nat
  output : String := ""
  records : List Log.Record := []
  /-- What was noted while a source was used. -/
  notes : List Note := []
  deriving DecidableEq, Repr

/-- The outcome of a command that failed before it had a source. -/
def failed (before : List Log.Record) (failure : Failure) : Outcome :=
  { exitCode := 1, records := before ++ [failureRecord failure] }

/-- The outcome of a plan that was carried out. -/
def Report.outcome {σ : Type} (r : Report) (w : Watched σ) : Outcome :=
  { exitCode := if r.failure?.isSome then 1 else 0, output := r.output
    records := r.records w.warnings, notes := w.notes }

/-- How a source is opened. -/
abbrev Opener := String → PoolSettings → Except ProvisionFault OpenSource

/-- Opens sources as they are provisioned. -/
def opener (around : Surroundings) : Opener := fun descriptor pool =>
  match around.provision descriptor pool with
  | .error fault => .error fault
  | .ok provisioned => .ok (openSource provisioned)

/-- Carries out what a command line asks for, on a source that `open?` gives. -/
def perform (open? : Opener) (world : World) (a : Arguments) : Outcome :=
  match plan world a with
  | .error failure => failed [] failure
  | .ok p =>
    match open? p.descriptor p.pool with
    | .error fault => failed (faultRecords fault) fault.failure
    | .ok opened =>
      let (report, w) := carryOut opened.source p opened.state
      report.outcome w

/-- The line that names the program and its version. -/
def versionLine : String := Places.ownName ++ " 0.1.0\n"

/-- A command line that is not carried out. -/
def declined (fault : Arguments.Fault) : Written :=
  { exitCode := fault.exitCode
    output := if fault = .displayVersion then versionLine else "" }

/-- The exit code of a program that breaks off. -/
def brokenOff : Nat := 101

/-- What a command writes after it has begun its log, where a filter says what the log holds. -/
def Outcome.after (o : Outcome) (filter : Log.Filter) (started : Written) : Written :=
  { started with
    exitCode := o.exitCode, output := o.output
    records := started.records ++ o.records.filter filter.admits }

/-- Runs the program on sources that `open?` gives.  It breaks off if the environment is asked to
hold what it cannot, or if the filter of its log cannot be taken apart. -/
def runWith (open? : World → Opener) (world : World) (arguments : List String) : Written :=
  match world.extended? with
  | none => { exitCode := brokenOff }
  | some world =>
    match Arguments.parse arguments with
    | .error fault => declined fault
    | .ok a =>
      let (world, started) := begin world a
      match world.filter? with
      | none => { started with exitCode := brokenOff }
      | some filter => (perform (open? world) world a).after filter started

/-- Runs the program on sources as they are provisioned. -/
def run : World → List String → Written :=
  runWith fun world => opener world.surroundings

/-! ## Looking ahead -/

/-- A command line that can be carried out, and the surroundings with what the environment file
adds. -/
def understood? (world : World) (arguments : List String) : Option (World × Arguments) := do
  let world ← world.extended?
  let a ← (Arguments.parse arguments).toOption
  some (world, a)

/-- The file in which a log is begun, and what it begins with. -/
def requestedLog? (world : World) (arguments : List String) : Option (String × List UInt8) := do
  let (world, a) ← understood? world arguments
  let path ← a.logFile
  some (path, logBytes (opening world a))

/-- The paths of the files that are read, besides the environment file. -/
def paths (world : World) (arguments : List String) : List String :=
  match understood? world arguments with
  | none => []
  | some (world, a) => world.configFile a :: a.queryFile.toList

end LiteralRows.Command
