import LiteralRows.Text.Pieces
import LiteralRows.Text.Utf8

/-!
# Files

What a path leads to, and why a file cannot be read or made there.  `Files` is a directory tree as a
program sees it: a path leads to a file, to a directory, or nowhere, for one of several reasons.
-/

namespace LiteralRows

/-- Why the system refuses to read or to make a file. -/
inductive FileFault where
  | missing
  | occupied
  | notDirectory
  | isDirectory
  | nameTooLong
  | nulInPath
  | notUtf8
  deriving DecidableEq, Repr, Inhabited

namespace FileFault

/-- The number by which the system knows a fault. -/
def code? : FileFault → Option Nat
  | missing => some 2
  | occupied => some 17
  | notDirectory => some 20
  | isDirectory => some 21
  | nameTooLong => some 36
  | nulInPath | notUtf8 => none

/-- What is wrong. -/
def description : FileFault → String
  | missing => "No such file or directory"
  | occupied => "File exists"
  | notDirectory => "Not a directory"
  | isDirectory => "Is a directory"
  | nameTooLong => "File name too long"
  | nulInPath => "file name contained an unexpected NUL byte"
  | notUtf8 => "stream did not contain valid UTF-8"

/-- The sentence that reports a fault. -/
def message (f : FileFault) : String :=
  match f.code? with
  | some code => f.description ++ " (os error " ++ toString code ++ ")"
  | none => f.description

/-- The fault that the system knows by a number. -/
def ofCode? (code : Nat) : Option FileFault :=
  [missing, occupied, notDirectory, isDirectory, nameTooLong].find? (·.code? == some code)

end FileFault

/-- What a path leads to. -/
inductive Entry where
  | file (bytes : List UInt8)
  | directory
  /-- Nothing can be reached, for this reason. -/
  | absent (cause : FileFault)
  deriving DecidableEq, Repr, Inhabited

namespace Entry

/-- Something is there. -/
def isPresent : Entry → Bool
  | file _ | directory => true
  | absent _ => false

/-- The bytes of a file. -/
def bytes : Entry → Except FileFault (List UInt8)
  | file bytes => .ok bytes
  | directory => .error .isDirectory
  | absent cause => .error cause

/-- The text of a file. -/
def text (e : Entry) : Except FileFault String := do
  match Text.Utf8.decode? (← e.bytes) with
  | some text => .ok (String.ofList text)
  | none => .error .notUtf8

end Entry

/-- A directory tree, by what its paths lead to. -/
abbrev Files := String → Entry

/-- The bytes of the first file to which one of the paths leads.  The search goes on only where
there is nothing, or a directory. -/
def Files.first? (files : Files) : List String → Option (List UInt8)
  | [] => none
  | path :: paths =>
    match files path with
    | .file bytes => some bytes
    | .directory | .absent .missing => files.first? paths
    | .absent _ => none

/-! ## Paths -/

namespace Path

/-- The names of a path between its slashes. -/
def names (path : String) : List String :=
  (Text.splitOn '/' path.toList).map String.ofList

/-- The path leads from the root. -/
def isRooted (path : String) : Bool :=
  path.startsWith "/"

/-- The path with these names, the last one first. -/
def ofReversed (rooted : Bool) (names : List String) : String :=
  (if rooted then "/" else "") ++ Text.joined "/" names.reverse

/-- The path with these names, the last one first, and the paths above it. -/
def upwards (rooted : Bool) : List String → List String
  | [] => [ofReversed rooted []]
  | name :: names => ofReversed rooted (name :: names) :: upwards rooted names

/-- A directory and all directories above it, the nearest first. -/
def above (directory : String) : List String :=
  upwards (isRooted directory) ((names directory).filter (· != "")).reverse

end Path

/-! ## Logs -/

/-- Why no log can be begun at a path. -/
inductive LogFault where
  | directory (cause : FileFault)
  | file (cause : FileFault)
  deriving DecidableEq, Repr

/-- The notice of it. -/
def LogFault.notice : LogFault → String
  | directory cause => "Warning: Could not create log directory: " ++ cause.message
  | file cause => "Warning: Could not create log file: " ++ cause.message

end LiteralRows
