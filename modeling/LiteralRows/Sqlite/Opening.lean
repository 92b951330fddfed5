import LiteralRows.Files
import LiteralRows.Sqlite.Database
import LiteralRows.Sqlite.Target
import LiteralRows.Url.Percent

/-!
# Opening SQLite databases

What the database makes of the name in a descriptor, and what it finds there.

* A name that begins with `file:` is a URI (`Target.ofUri`), unless the descriptor itself sets
  options that are handed over in one.  The query of a URI may choose another file system, or the
  memory, and may ask for less than the descriptor allows but not for more.
* A path is made plain before it is followed (`plain?`): two dots cancel the name before them,
  whether or not there is such a directory, and slashes at the end do not count.  But a name on the
  way must not be one that cannot be there, such as a name below a file.
* A file is opened without being looked at.  Whether its bytes are a database shows later, when a
  statement first asks for a table.
-/

namespace LiteralRows.Sqlite

/-- Why a database cannot be opened. -/
inductive OpenFault where
  | nulInName
  | cannotOpen
  /-- Something that is no file was opened for reading. -/
  | cannotRead
  | unknownFileSystem (name : String)
  | foreignHost (name : String)
  /-- There is no such value of an option. -/
  | unknownMode (option value : String)
  /-- The option asks for more than the descriptor allows. -/
  | modeNotAllowed (value : String)
  deriving DecidableEq, Repr

/-- The sentence of the driver that reports it. -/
def OpenFault.message : OpenFault → String
  | nulInName =>
    "error communicating with database: filename passed to SQLite must not contain nul bytes"
  | cannotOpen => "error returned from database: (code: 14) unable to open database file"
  | cannotRead => "error returned from database: (code: 266) disk I/O error"
  | unknownFileSystem name => "error returned from database: (code: 1) no such vfs: " ++ name
  | foreignHost name => "error returned from database: (code: 1) invalid uri authority: " ++ name
  | unknownMode option value =>
    "error returned from database: (code: 1) no such " ++ option ++ " mode: " ++ value
  | modeNotAllowed value =>
    "error returned from database: (code: 3) access mode not allowed: " ++ value

/-! ## URIs -/

/-- The path after the host in a URI, which may only be the machine itself. -/
def afterHost (s : List Char) : Except OpenFault (List Char) :=
  match s with
  | '/' :: '/' :: s =>
    let host := String.ofList (s.takeWhile (· != '/'))
    if host = "" ∨ host = "localhost" then .ok (s.dropWhile (· != '/'))
    else .error (.foreignHost host)
  | s => .ok s

/-- The text that a part of a URI stands for.  An escaped NUL ends it. -/
def uriText (s : List Char) : String :=
  String.ofList (Text.Utf8.decodeLossy ((Url.Percent.bytesOf s).takeWhile (· != 0)))

/-- The options in the query of a URI, in order.  Those without a name do not count. -/
def uriOptions (query : List Char) : List (String × String) :=
  ((Text.splitOn '&' query).map fun piece =>
    let (name, value) := (Text.cutAt '=' piece).getD (piece, [])
    (uriText name, uriText value)).filter fun (name, _) => name != ""

namespace Target

/-- The target with another mode, unless that allows more.  Nothing is more than what a database in
memory allows. -/
def restricted (t : Target) (mode : Mode) (value : String) : Except OpenFault Target :=
  let allowed : Bool := match mode with
    | .readOnly => true
    | .readWrite => t.mode != .readOnly
    | .create => t.mode == .create
  if t.inMemory || allowed then .ok { t with mode, inMemory := false }
  else .error (.modeNotAllowed value)

/-- The target with one option of a URI. -/
def withOption (t : Target) (name value : String) : Except OpenFault Target :=
  match name, value with
  | "vfs", _ => .ok { t with fileSystem := some value }
  | "cache", "private" | "cache", "shared" => .ok t
  | "cache", _ => .error (.unknownMode name value)
  | "mode", "ro" => t.restricted .readOnly value
  | "mode", "rw" => t.restricted .readWrite value
  | "mode", "rwc" => t.restricted .create value
  | "mode", "memory" => .ok { t with inMemory := true }
  | "mode", _ => .error (.unknownMode "access" value)
  | _, _ => .ok t

/-- The target that a URI stands for, after its scheme, where a descriptor asks for `t`. -/
def ofUri (t : Target) (s : List Char) : Except OpenFault Target := do
  let s := (← afterHost s).takeWhile (· != '#')
  let (path, query) := (Text.cutAt '?' s).getD (s, [])
  (uriOptions query).foldlM (fun t (name, value) => t.withOption name value)
    { t with path := uriText path }

end Target

/-! ## Names -/

/-- The file systems that know files by their paths. -/
def fileSystems : List String := ["unix", "unix-none", "unix-dotfile", "unix-excl"]

/-- The file system that keeps files in memory. -/
def memoryFileSystem : String := "memdb"

namespace Target

/-- The target that the name of a target stands for. -/
def resolved (t : Target) : Except OpenFault Target := do
  if t.path.contains '\x00' then .error .nulInName
  let t ← match t.hasOptions, Text.after? "file:".toList t.path.toList with
    | false, some rest => t.ofUri rest
    | _, _ => pure t
  match t.fileSystem with
  | some name =>
    unless name = memoryFileSystem ∨ fileSystems.contains name do .error (.unknownFileSystem name)
  | none => pure ()
  .ok t

/-- The path of the file that a target asks for; there is none for a database of its own. -/
def file? (t : Target) : Option String :=
  if t.inMemory ∨ t.path = "" ∨ t.path = ":memory:" ∨ t.fileSystem = some memoryFileSystem then none
  else some t.path

end Target

/-! ## Paths -/

/-- One more name of a path that is made plain, where the names so far are given last one first. -/
def plainStep? (files : Files) (rooted : Bool) (names : List String) (name : String) :
    Option (List String) :=
  if name = "" ∨ name = "." then some names
  else if name = ".." then
    match names with
    | [] => some (if rooted then [] else [".."])
    | ".." :: _ => some (".." :: names)
    | _ :: above => some above
  else match files (Path.ofReversed rooted (name :: names)) with
    | .absent .missing | .file _ | .directory => some (name :: names)
    | .absent _ => none

/-- The names of a path without dots and empty names, the last one first. -/
def plain? (files : Files) (path : String) : Option (List String) :=
  (Path.names path).foldlM (plainStep? files (Path.isRooted path)) []

/-! ## Opening -/

/-- The database that the bytes of a file are, where `read?` knows those of a whole one.  A file of
one byte counts as an empty file, and an empty file is an empty database. -/
def Database.ofBytes (read? : List UInt8 → Option Database) (bytes : List UInt8) : Database :=
  if bytes.length ≤ 1 then {} else (read? bytes).getD { isReadable := false }

/-- The path with these names, the last one first; the present directory if there are none. -/
def pathOf (rooted : Bool) (names : List String) : String :=
  if names.isEmpty ∧ !rooted then "." else Path.ofReversed rooted names

/-- Opens the database at a path. -/
def openFile (files : Files) (read? : List UInt8 → Option Database) (mode : Mode) (path : String) :
    Except OpenFault Database :=
  let rooted := Path.isRooted path
  match plain? files path with
  | none => .error .cannotOpen
  | some names =>
    match files (pathOf rooted names) with
    | .file bytes => .ok (.ofBytes read? bytes)
    | .directory =>
      .error (if mode = .readOnly ∧ !(rooted ∧ names.isEmpty) then .cannotRead else .cannotOpen)
    | .absent .missing =>
      if mode = .create ∧ files (pathOf rooted (names.drop 1)) = .directory then .ok {}
      else .error .cannotOpen
    | .absent _ => .error .cannotOpen

/-- Opens the database that a target asks for. -/
def Target.openDatabase (t : Target) (files : Files) (read? : List UInt8 → Option Database) :
    Except OpenFault Database := do
  let t ← t.resolved
  match t.file? with
  | none => .ok {}
  | some path => openFile files read? t.mode path

end LiteralRows.Sqlite
