/-!
# Places of files

Where the configuration and the log of a user are kept: below the directories that the environment
names for them, if it names absolute ones, else below the home directory.  Paths are joined as they
are; nothing in them is resolved.
-/

namespace LiteralRows.Places

/-- A path below a directory. -/
def join (base part : String) : String :=
  if part.startsWith "/" || base.isEmpty then part
  else if base.endsWith "/" then base ++ part
  else base ++ "/" ++ part

/-- The directories that an environment names. -/
structure Directories where
  home : Option String
  config : Option String
  state : Option String
  deriving DecidableEq, Repr

/-- The path, if it is absolute. -/
def absolute? (path : String) : Option String :=
  if path.startsWith "/" then some path else none

/-- The environment variables that name directories. -/
def variableNames : List String :=
  ["HOME", "XDG_CONFIG_HOME", "XDG_STATE_HOME"]

/-- The directories that environment variables name, where `account` is the home directory of the
account for a user without one in the environment. -/
def ofEnvironment (environment : String → Option String) (account : Option String) :
    Directories :=
  { home := ((environment "HOME").filter (!·.isEmpty)).or account
    config := (environment "XDG_CONFIG_HOME").bind absolute?
    state := (environment "XDG_STATE_HOME").bind absolute? }

/-- The directory for configurations. -/
def Directories.configHome (d : Directories) : Option String :=
  d.config.or (d.home.map (join · ".config"))

/-- The directory for logs. -/
def Directories.stateHome (d : Directories) : Option String :=
  d.state.or (d.home.map (join · ".local/state"))

/-- The name of the program's own directory. -/
def ownName : String := "rowshift"

/-- Where the configuration is kept. -/
def Directories.configFile (d : Directories) : String :=
  join (join (d.configHome.getD ".") ownName) "config.toml"

/-- Where the log is kept. -/
def Directories.logFile (d : Directories) : String :=
  match d.stateHome.or d.configHome with
  | some base => join (join base ownName) "rowshift.log"
  | none => "/tmp/rowshift.log"

end LiteralRows.Places
