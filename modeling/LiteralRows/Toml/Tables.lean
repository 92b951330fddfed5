import LiteralRows.Toml

/-!
# How a TOML document builds its tables

The lines of a document, and the table they build.  A table comes into being in one of three ways,
and what may be added to it later depends on that:

* under a header of its own (`declared`): a second header for it is an error, and so is a dotted
  key through it;
* as a step on the way to a deeper header (`implied`): one header of its own may still follow;
* as a step of a dotted key (`dotted`): only dotted keys add to it, no header declares it, though
  headers may lead through it.

A list of tables grows by one with each header in double brackets, and later headers lead into its
last table.  Any other value is finished when it has been written.
-/

namespace LiteralRows.Toml

/-- How a table came into being. -/
inductive Origin where
  | declared
  | implied
  | dotted
  deriving DecidableEq, Repr

/-- A part of a document under construction. -/
inductive Node where
  | leaf (value : Toml)
  | table (origin : Origin) (entries : List (String × Node))
  /-- The tables of a list, the last one first. -/
  | tables (elements : List (List (String × Node)))
  deriving Repr, Inhabited

/-- The entries of a table under construction. -/
abbrev Entries := List (String × Node)

/-- A line of a document. -/
inductive Line where
  /-- A header of a table. -/
  | table (path : List String)
  /-- A header of one more table of a list. -/
  | element (path : List String)
  /-- A key, which may be dotted, and its value. -/
  | entry (path : List String) (value : Toml)
  deriving Repr, Inhabited

/-- The entries with another node under a key. -/
def replace (key : String) (node : Node) (entries : Entries) : Entries :=
  entries.map fun (k, n) => if k = key then (k, node) else (k, n)

/-- Changes the table at the end of a path; tables that are missing on the way come into being with
the given origin.  The change sees the origin of its table. -/
def changeAt (missing : Origin) (change : Origin → Entries → Option Entries) :
    List String → Origin → Entries → Option Entries
  | [], origin, entries => change origin entries
  | key :: path, _, entries =>
    match entries.lookup key with
    | none =>
      (changeAt missing change path missing []).map fun below =>
        entries ++ [(key, .table missing below)]
    | some (.table origin below) =>
      if missing = .dotted ∧ origin = .declared then none
      else
        (changeAt missing change path origin below).map fun below =>
          replace key (.table origin below) entries
    | some (.tables (last :: elements)) =>
      (changeAt missing change path .declared last).map fun last =>
        replace key (.tables (last :: elements)) entries
    | some (.tables []) => none
    | some (.leaf _) => none

/-- Adds one entry where none with its key is.  A dotted key ends in a table that dotted keys have
made, and any other key does not. -/
def addEntry (isDotted : Bool) (key : String) (value : Toml) (origin : Origin)
    (entries : Entries) : Option Entries :=
  if (origin = .dotted) ≠ isDotted ∨ (entries.lookup key).isSome then none
  else some (entries ++ [(key, .leaf value)])

/-- Adds the value of a key, which may be dotted, to a table. -/
def addPath (path : List String) (value : Toml) (origin : Origin) (entries : Entries) :
    Option Entries :=
  match path.getLast? with
  | none => none
  | some key =>
    let before := path.dropLast
    changeAt .dotted (addEntry (!before.isEmpty) key value) before origin entries

/-- Declares a table under a header. -/
def declare (key : String) (_ : Origin) (entries : Entries) : Option Entries :=
  match entries.lookup key with
  | none => some (entries ++ [(key, .table .declared [])])
  | some (.table .implied below) => some (replace key (.table .declared below) entries)
  | some _ => none

/-- Adds one more table to a list under a header. -/
def appendElement (key : String) (_ : Origin) (entries : Entries) : Option Entries :=
  match entries.lookup key with
  | none => some (entries ++ [(key, .tables [[]])])
  | some (.tables elements) => some (replace key (.tables ([] :: elements)) entries)
  | some _ => none

/-- Adds what a header declares to the root table. -/
def addHeader (change : String → Origin → Entries → Option Entries) (path : List String)
    (root : Entries) : Option Entries :=
  match path.getLast? with
  | none => none
  | some key => changeAt .implied (change key) path.dropLast .declared root

/-- Takes the lines of a document, where `at` is the path of the header that holds now. -/
def build (here : List String) : List Line → Entries → Option Entries
  | [], root => some root
  | .table path :: lines, root => (addHeader declare path root).bind (build path lines)
  | .element path :: lines, root => (addHeader appendElement path root).bind (build path lines)
  | .entry path value :: lines, root =>
    (changeAt .implied (addPath path value) here .declared root).bind (build here lines)

mutual

/-- The value of a part of a document. -/
def Node.value : Node → Toml
  | .leaf value => value
  | .table _ entries => .table (valuesOf entries)
  | .tables elements => .array (tablesOf elements).reverse

/-- The values of entries. -/
def valuesOf : List (String × Node) → List (String × Toml)
  | [] => []
  | (key, node) :: entries => (key, node.value) :: valuesOf entries

/-- The values of tables. -/
def tablesOf : List (List (String × Node)) → List Toml
  | [] => []
  | entries :: elements => .table (valuesOf entries) :: tablesOf elements

end

/-- The table that the lines of a document build. -/
def ofLines? (lines : List Line) : Option Toml :=
  (build [] lines []).map fun root => .table (valuesOf root)

/-- The table that the pairs between braces build. -/
def ofPairs? (pairs : List (List String × Toml)) : Option Toml :=
  ofLines? (pairs.map fun (path, value) => .entry path value)

end LiteralRows.Toml
