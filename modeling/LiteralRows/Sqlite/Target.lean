import LiteralRows.Text.Quoted
import LiteralRows.Url.Percent

/-!
# SQLite descriptors

After `sqlite:`, in lower case, and two slashes that may be left out, stands the name of a file up
to the first question mark, then parameters.  What stands before the name may be repeated, first
with the slashes and then without them.  The name `:memory:`, an empty name and the parameter
`mode=memory` ask for a database that lives as long as its connections.
-/

namespace LiteralRows.Sqlite

/-- What may be done with a file. -/
inductive Mode where
  | readOnly
  | readWrite
  /-- The file is created if it does not exist. -/
  | create
  deriving DecidableEq, Repr, Inhabited

/-- Which database a descriptor asks for. -/
structure Target where
  path : String := ""
  inMemory : Bool := false
  mode : Mode := .readWrite
  /-- The file is promised not to change. -/
  isImmutable : Bool := false
  /-- The file system in which the file is looked for, if it is not the usual one. -/
  fileSystem : Option String := none
  deriving DecidableEq, Repr, Inhabited

/-- Why a text is no descriptor. -/
inductive Target.Fault where
  | notUtf8 (fault : Text.Utf8.Fault)
  | unknownValue (parameter value : String)
  | unknownParameter (parameter : String)
  deriving DecidableEq, Repr

/-- The sentence that reports it. -/
def Target.Fault.message : Target.Fault → String
  | .notUtf8 fault => configuration ++ fault.message
  | .unknownValue parameter value =>
    configuration ++ "unknown value " ++ Text.quoted value ++ " for `" ++ parameter ++ "`"
  | .unknownParameter parameter =>
    configuration ++ "unknown query parameter `" ++ parameter ++ "` while parsing connection URL"
where
  configuration : String := "error with configuration: "

namespace Target

/-- The text without any number of the given beginnings. -/
def withoutAll (start : List Char) (s : List Char) : List Char :=
  match _h : Text.after? start s with
  | some rest => if rest.length < s.length then withoutAll start rest else rest
  | none => s
termination_by s.length

/-- The target with the file of a descriptor. -/
def ofName (name : List Char) : Except Fault Target :=
  if name = ":memory:".toList then .ok { inMemory := true }
  else ((Url.Percent.textOf name).mapError .notUtf8).map fun path => { path := String.ofList path }

/-- The target with one parameter.  Some parameters change nothing that a query could show, but
their values are checked. -/
def withParameter (t : Target) (name value : String) : Except Fault Target :=
  match name, value with
  | "mode", "ro" => .ok { t with mode := .readOnly }
  | "mode", "rw" => .ok t
  | "mode", "rwc" => .ok { t with mode := if t.mode = .readOnly then .readOnly else .create }
  | "mode", "memory" => .ok { t with inMemory := true }
  | "cache", "private" | "cache", "shared" => .ok t
  | "immutable", "true" | "immutable", "1" => .ok { t with isImmutable := true }
  | "immutable", "false" | "immutable", "0" => .ok { t with isImmutable := false }
  | "vfs", _ => .ok { t with fileSystem := some value }
  | "mode", _ | "cache", _ | "immutable", _ => .error (.unknownValue name value)
  | _, _ => .error (.unknownParameter name)

/-- Reads a descriptor. -/
def ofDescriptor (descriptor : String) : Except Fault Target := do
  let text := withoutAll "sqlite:".toList (withoutAll "sqlite://".toList descriptor.toList)
  let (name, parameters) := (Text.cutAt '?' text).getD (text, [])
  let t ← ofName name
  (Url.Percent.formPairs parameters).foldlM (fun t (name, value) => t.withParameter name value) t

/-- The descriptor sets options of the file. -/
def hasOptions (t : Target) : Bool :=
  t.isImmutable || t.fileSystem.isSome

end Target

end LiteralRows.Sqlite
