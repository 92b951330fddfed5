import LiteralRows.Files
import LiteralRows.Settings
import LiteralRows.Toml.Reader

/-!
# Loading the configuration

A configuration is a TOML file.  A file that does not exist stands for the defaults; one that exists
has to be readable and well formed, and its pool has to be usable.
-/

namespace LiteralRows.Config

/-- Reads the text of a configuration. -/
def ofToml? (text : String) : Option Config :=
  (Toml.parse? text).bind fun document => ofDatum? document.datum

/-- The failure for a text that is no configuration.  What is wrong with it stands on further
lines, which are for a person to read. -/
def malformed (path : String) : Failure :=
  .config ("Configuration error in " ++ path ++ ":")

/-- The configuration with a given text, if it can be used. -/
def ofText (path text : String) : Except Failure Config :=
  match ofToml? text with
  | none => .error (malformed path)
  | some config => do
    config.pool.check
    .ok config

/-- Loads the configuration to which a path leads. -/
def load (path : String) (entry : Entry) : Except Failure Config :=
  if !entry.isPresent then .ok {}
  else match entry.text with
    | .error fault => .error (.config ("Failed to read config file: " ++ fault.message))
    | .ok text => ofText path text

end LiteralRows.Config
