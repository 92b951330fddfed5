/-!
# Failures

A failure names the stage that failed, so that a bad descriptor can be told apart from an
unreachable server, and a rejected query from a row that could not be decoded.
-/

namespace LiteralRows

/-- A failure, by the stage in which it arose, with the text of its cause. -/
inductive Failure where
  /-- The descriptor was malformed, or the driver rejected it. -/
  | connectionOpen (cause : String)
  /-- The source could not be reached. -/
  | unreachable (cause : String)
  /-- The query was rejected, or failed before its first row. -/
  | execution (cause : String)
  /-- The columns of an executed query could not be described. -/
  | describe (cause : String)
  /-- The row with this number, counted from one, could not be taken over. -/
  | rowScan (row : Nat) (cause : String)
  /-- The cursor failed after this many rows. -/
  | cursorTerminal (rows : Nat) (cause : String)
  /-- A schema or a table that must exist does not. -/
  | schema (cause : String)
  /-- The configuration or the command line is unusable. -/
  | config (cause : String)
  deriving DecidableEq, Repr, Inhabited

namespace Failure

/-- The sentence that reports the failure. -/
def message : Failure → String
  | connectionOpen cause => "error on initializing source database connection: " ++ cause
  | unreachable cause => "error on ping source database connection: " ++ cause
  | execution cause => "error on executing query: " ++ cause
  | describe cause => "error on describing result columns: " ++ cause
  | rowScan row cause => "error on scanning row " ++ toString row ++ ": " ++ cause
  | cursorTerminal rows cause =>
    "error on reading rows after row " ++ toString rows ++ ": " ++ cause
  | schema cause => "Schema error: " ++ cause
  | config cause => "Configuration error: " ++ cause

/-- The name of the failed stage, for display. -/
def category : Failure → String
  | connectionOpen _ => "Connection Open Error"
  | unreachable _ => "Connection Unreachable Error"
  | execution _ => "Query Execution Error"
  | describe _ => "Result Describe Error"
  | rowScan _ _ => "Row Scan Error"
  | cursorTerminal _ _ => "Cursor Terminal Error"
  | schema _ => "Schema Error"
  | config _ => "Configuration Error"

/-- The failure arose while rows were being read, so rows read before it may accompany it. -/
def isMidIteration : Failure → Bool
  | rowScan _ _ | cursorTerminal _ _ => true
  | _ => false

end Failure

end LiteralRows
