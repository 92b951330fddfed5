import LiteralRows.Files

/-!
# Directory trees

A directory tree as data, and what the system does with it: paths are followed name by name
(`Tree.reach`), directories are made together with all those above them (`Tree.makeDirectories`),
and a file is made in a directory that is there (`Tree.makeFile`).

Two dots lead up from a directory that exists, and not merely to the name before: a path through a
directory that is missing leads nowhere, even if it comes back out of it.
-/

namespace LiteralRows

/-- A directory tree that holds these files, each under its place from the root. -/
structure Tree where
  files : List (List String × List UInt8)
  /-- Directories that may hold nothing. -/
  directories : List (List String) := []
  /-- The directory from which paths lead that do not begin at the root. -/
  current : List String := []
  deriving Repr, Inhabited

namespace Tree

/-- The most bytes that a name in a directory may have. -/
def nameLimit : Nat := 255

/-- The bytes that a whole path must stay below. -/
def pathLimit : Nat := 4096

/-- What stands at a place. -/
def look (t : Tree) (place : List String) : Entry :=
  match t.files.lookup place with
  | some bytes => .file bytes
  | none =>
    if (t.current :: t.directories ++ t.files.map Prod.fst).any place.isPrefixOf then .directory
    else .absent .missing

/-! ## Following paths -/

/-- The place to which a name leads from a directory. -/
def enter (t : Tree) (place : List String) (name : String) : Except FileFault (List String) :=
  match t.look place with
  | .absent cause => .error cause
  | .file _ => .error .notDirectory
  | .directory =>
    if name = "" ∨ name = "." then .ok place
    else if name = ".." then .ok place.dropLast
    else if nameLimit < name.utf8ByteSize then .error .nameTooLong
    else .ok (place ++ [name])

/-- The place to which names lead, one after the other. -/
def follow (t : Tree) (names : List String) (place : List String) :
    Except FileFault (List String) :=
  names.foldlM t.enter place

/-- The place at which a path begins, if the system takes it for a path at all. -/
def start (t : Tree) (path : String) : Except FileFault (List String) :=
  if path.contains '\x00' then .error .nulInPath
  else if path.isEmpty then .error .missing
  else if pathLimit ≤ path.utf8ByteSize then .error .nameTooLong
  else .ok (if Path.isRooted path then [] else t.current)

/-- The place to which a path leads, at which there need not be anything. -/
def reach (t : Tree) (path : String) : Except FileFault (List String) := do
  t.follow (Path.names path) (← t.start path)

/-- What the paths of a tree lead to. -/
def toFiles (t : Tree) : Files := fun path =>
  match t.reach path with
  | .ok place => t.look place
  | .error cause => .absent cause

/-! ## Making directories -/

/-- Makes one directory. -/
def makeDirectory (t : Tree) (path : String) : Except FileFault Tree := do
  let place ← t.reach path
  if (t.look place).isPresent then .error .occupied
  else .ok { t with directories := place :: t.directories }

/-- Makes one directory unless it is there. -/
def ensureDirectory (t : Tree) (path : String) : Except FileFault Tree :=
  match t.makeDirectory path with
  | .ok t => .ok t
  | .error cause => if t.toFiles path = .directory then .ok t else .error cause

/-- The names of a path that tell where it leads: of single dots, only one at the front of a path
that does not lead from the root. -/
def partsOf (path : String) : List String :=
  let tells (name : String) : Bool := name != "" && name != "."
  match Path.names path with
  | "." :: names => "." :: names.filter tells
  | names => names.filter tells

/-- Makes the directory with these parts, the last one first, after those above it if they are
missing. -/
def makeAll (t : Tree) (rooted : Bool) : List String → Except FileFault Tree
  | [] => .ok t
  | part :: above =>
    let path := Path.ofReversed rooted (part :: above)
    match t.ensureDirectory path with
    | .error .missing => do (← t.makeAll rooted above).ensureDirectory path
    | outcome => outcome

/-- Makes the directory in which the last part of a path lies, and all those above it. -/
def makeDirectories (t : Tree) (path : String) : Except FileFault Tree :=
  t.makeAll (Path.isRooted path) ((partsOf path).reverse.drop 1)

/-! ## Making files -/

/-- Makes a file, in place of one that is there. -/
def makeFile (t : Tree) (path : String) (bytes : List UInt8) : Except FileFault Tree := do
  let start ← t.start path
  let names := (Path.names path).reverse
  match names.dropWhile (· = "") with
  | [] => .error .isDirectory
  | name :: above =>
    let directory ← t.follow above.reverse start
    if names.head? = some "" ∧ name ≠ "." ∧ name ≠ ".." then
      let _ ← t.enter directory ""
      .error .isDirectory
    else
      let place ← t.enter directory name
      if t.look place = .directory then .error .isDirectory
      else .ok { t with files := (place, bytes) :: t.files }

/-- Begins a log at a path with some bytes, after making the directory in which it lies. -/
def makeLog (t : Tree) (path : String) (bytes : List UInt8) : Except LogFault Tree := do
  let t ← (t.makeDirectories path).mapError .directory
  (t.makeFile path bytes).mapError .file

end Tree

end LiteralRows
