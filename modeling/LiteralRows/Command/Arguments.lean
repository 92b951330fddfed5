import LiteralRows.Files
import LiteralRows.Settings
import LiteralRows.Text.Case

/-!
# Command-line arguments

A command line is read from the left, one argument at a time.  An option takes its value from the
rest of its own argument, or from the argument after it; in that case nothing is said about the
option until the next argument has been looked at, so that an unknown argument is reported before
anything that may be wrong with the option.

`Arguments.parse` gives the arguments, or the first reason why there are none.  The relations
between options are looked at last: a query is given in one way only, and tables belong to a schema.
-/

namespace LiteralRows

/-- What a command line asks for. -/
structure Arguments where
  descriptor : Option String := none
  query : Option String := none
  queryFile : Option String := none
  schema : Option String := none
  tables : List String := []
  config : Option String := none
  format : String := "text"
  escapeQuotes : Bool := false
  logFile : Option String := none
  deriving DecidableEq, Repr, Inhabited

namespace Arguments

/-- The name of one argument. -/
inductive Key where
  | descriptor
  | query
  | queryFile
  | schema
  | tables
  | config
  | format
  | escapeQuotes
  | logFile
  | help
  | version
  deriving DecidableEq, Repr, Inhabited

/-- The long names. -/
def longNames : List (String × Key) := [
  ("query", .query), ("query-file", .queryFile), ("schema", .schema), ("tables", .tables),
  ("config", .config), ("format", .format), ("escape-quotes", .escapeQuotes),
  ("log-file", .logFile), ("help", .help), ("version", .version)]

/-- The short names. -/
def shortNames : List (Char × Key) := [
  ('q', .query), ('s', .schema), ('t', .tables), ('h', .help), ('V', .version)]

namespace Key

/-- The option stands alone. -/
def isFlag : Key → Bool
  | escapeQuotes | help | version => true
  | _ => false

/-- The value is a path, which is not empty. -/
def isPath : Key → Bool
  | queryFile | config | logFile => true
  | _ => false

/-- The option may be given more than once. -/
def isRepeatable : Key → Bool
  | tables => true
  | _ => false

end Key

/-- Why a command line is not carried out. -/
inductive Fault where
  | unknownArgument
  | argumentConflict
  | invalidValue
  | missingRequired
  | tooManyValues
  | displayHelp
  | displayVersion
  deriving DecidableEq, Repr

/-- The exit code with which the fault is reported. -/
def Fault.exitCode : Fault → Nat
  | .displayHelp | .displayVersion => 0
  | _ => 2

/-- What is known in the middle of a command line. -/
structure Progress where
  arguments : Arguments := {}
  /-- The options that have been given. -/
  given : List Key := []
  /-- The option that was given last, with its value if there is one yet. -/
  pending : Option (Key × Option String) := none
  /-- Only positional arguments follow. -/
  isPlain : Bool := false
  deriving DecidableEq, Repr

namespace Progress

/-- The arguments with the value of one of them. -/
def assign (a : Arguments) (key : Key) (value : String) : Arguments :=
  match key with
  | .descriptor => { a with descriptor := some value }
  | .query => { a with query := some value }
  | .queryFile => { a with queryFile := some value }
  | .schema => { a with schema := some value }
  | .tables =>
    { a with tables := a.tables ++ (Text.splitOn ',' value.toList).map String.ofList }
  | .config => { a with config := some value }
  | .format => { a with format := value }
  | .escapeQuotes => { a with escapeQuotes := true }
  | .logFile => { a with logFile := some value }
  | .help | .version => a

/-- Takes over an option and its value. -/
def store (p : Progress) (key : Key) (value : String) : Except Fault Progress :=
  if !key.isRepeatable && p.given.contains key then .error .argumentConflict
  else if key.isPath && value.isEmpty then .error .invalidValue
  else .ok { p with arguments := assign p.arguments key value, given := key :: p.given }

/-- Takes over the option that was given last. -/
def settle (p : Progress) : Except Fault Progress :=
  match p.pending with
  | none => .ok p
  | some (_, none) => .error .invalidValue
  | some (key, some value) => { p with pending := none }.store key value

/-- An option that stands alone. -/
def flag (p : Progress) (key : Key) : Except Fault Progress := do
  let p ← p.settle
  match key with
  | .help => .error .displayHelp
  | .version => .error .displayVersion
  | _ => p.store key ""

/-- An option with a value in its own argument, or with its value still to come. -/
def option (p : Progress) (key : Key) (value : Option String) : Except Fault Progress := do
  let p ← p.settle
  match value with
  | some value => p.store key value
  | none => .ok { p with pending := some (key, none) }

/-- An argument that is no option. -/
def positional (p : Progress) (value : String) : Except Fault Progress :=
  if p.given.contains .descriptor || p.pending.map Prod.fst == some .descriptor then
    .error .unknownArgument
  else do
    let p ← p.settle
    .ok { p with pending := some (.descriptor, some value) }

/-- An option with a long name. -/
def long (p : Progress) (text : List Char) : Except Fault Progress :=
  let (name, value) := match Text.cutAt '=' text with
    | some (name, value) => (name, some (String.ofList value))
    | none => (text, none)
  match longNames.lookup (String.ofList name) with
  | none => .error .unknownArgument
  | some key =>
    if !key.isFlag then p.option key value
    else if value.isSome then .error .tooManyValues
    else p.flag key

/-- Options with short names in one argument.  The text after an option that takes a value is its
value. -/
def short (p : Progress) : List Char → Except Fault Progress
  | [] => .ok p
  | c :: text =>
    match shortNames.lookup c with
    | none => .error .unknownArgument
    | some key =>
      if key.isFlag then do (← p.flag key).short text
      else match text with
        | [] => p.option key none
        | '=' :: value => p.option key (some (String.ofList value))
        | value => p.option key (some (String.ofList value))

/-- One more argument. -/
def step (p : Progress) (argument : String) : Except Fault Progress :=
  if p.isPlain then p.positional argument
  else match argument.toList with
    | ['-', '-'] => .ok { p with isPlain := true }
    | '-' :: '-' :: text => p.long text
    | '-' :: c :: text => p.short (c :: text)
    | _ =>
      match p.pending with
      | some (key, none) => .ok { p with pending := some (key, some argument) }
      | _ => p.positional argument

end Progress

/-- What the options demand of each other. -/
def relationFault? (given : List Key) : Option Fault :=
  if given.contains .query && given.contains .queryFile then some .argumentConflict
  else if given.contains .tables && !given.contains .schema then some .missingRequired
  else none

/-- Reads a command line. -/
def parse (arguments : List String) : Except Fault Arguments := do
  let p ← arguments.foldlM Progress.step {}
  let p ← p.settle
  match relationFault? p.given with
  | some fault => .error fault
  | none => .ok p.arguments

/-! ## What the arguments mean -/

/-- How a result is printed. -/
inductive Format where
  /-- The names of the columns, then a line of tokens for each row. -/
  | text
  /-- One JSON document. -/
  | json
  deriving DecidableEq, Repr, Inhabited

/-- The name of a format. -/
def Format.name : Format → String
  | .text => "text"
  | .json => "json"

/-- The format that the arguments ask for. -/
def outputFormat (a : Arguments) : Except Failure Format :=
  let name := Text.lower a.format
  if name = "text" then .ok .text
  else if name = "json" then .ok .json
  else .error (.config ("Invalid output format: " ++ a.format ++ ". Expected: text or json"))

/-- The query that the arguments ask for, as it is written there. -/
def givenQuery (a : Arguments) (files : Files) : Except Failure String :=
  match a.query, a.queryFile with
  | some sql, _ => .ok sql
  | none, some path =>
    (files path).text.mapError fun fault =>
      .config ("Failed to read query file " ++ path ++ ": " ++ fault.message)
  | none, none => .error (.config "No query given. Use --query or --query-file")

/-- The query that the arguments ask for, without the blanks around it. -/
def queryText (a : Arguments) (files : Files) : Except Failure String := do
  let sql := Text.trim (← a.givenQuery files).toList
  if sql.isEmpty then .error (.config "Query is empty") else .ok (String.ofList sql)

/-- The file of the configuration. -/
def configFile (a : Arguments) (standard : String) : String :=
  a.config.getD standard

end Arguments

end LiteralRows
