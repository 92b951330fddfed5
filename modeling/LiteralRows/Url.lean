import LiteralRows.Url.Host

/-!
# URLs

A URL in its normal form: every part is kept as it is written, already escaped, with dot segments
resolved and a port left out where it is the scheme's own.  `Url.text` writes a URL, and
`Url.masked` hides its password.  `LiteralRows.Url.Reading` reads one.
-/

namespace LiteralRows

/-- Where a hierarchical URL leads to. -/
structure Url.Authority where
  userName : String := ""
  /-- The password; an empty one is the same as none. -/
  password : String := ""
  host : Url.Host
  port : Option Nat := none
  deriving DecidableEq, Repr, Inhabited

/-- The path of a URL. -/
inductive Url.Path where
  /-- A text without structure. -/
  | bare (text : String)
  /-- Segments, each written after a slash. -/
  | steps (segments : List String)
  deriving DecidableEq, Repr, Inhabited

/-- A URL. -/
structure Url where
  scheme : String
  authority : Option Url.Authority := none
  path : Url.Path
  query : Option String := none
  fragment : Option String := none
  deriving DecidableEq, Repr, Inhabited

namespace Url

/-- The user name and the password as they stand before a host. -/
def Authority.credentials (a : Authority) : String :=
  if a.userName.isEmpty && a.password.isEmpty then ""
  else if a.password.isEmpty then a.userName ++ "@"
  else a.userName ++ ":" ++ a.password ++ "@"

/-- The port as it stands after a host. -/
def Authority.portText (a : Authority) : String :=
  match a.port with
  | some port => ":" ++ toString port
  | none => ""

/-- An authority as it is written. -/
def Authority.text (a : Authority) : String :=
  "//" ++ a.credentials ++ a.host.text ++ a.portText

/-- A path as it is written. -/
def Path.text : Path → String
  | .bare text => text
  | .steps segments => String.join (segments.map ("/" ++ ·))

/-- Without an authority, a path that begins with an empty segment would be taken for one; a dot
segment in front of it prevents that. -/
def Path.guard : Path → String
  | .steps ("" :: _ :: _) => "/."
  | _ => ""

/-- An optional part after the mark that introduces it. -/
def marked (mark : String) : Option String → String
  | some text => mark ++ text
  | none => ""

/-- A URL as it is written. -/
def text (u : Url) : String :=
  u.scheme ++ ":" ++
    (match u.authority with
      | some authority => authority.text
      | none => u.path.guard) ++
    u.path.text ++ marked "?" u.query ++ marked "#" u.fragment

/-- The authority with its password replaced, if it has one. -/
def Authority.masked (a : Authority) : Authority :=
  if a.password.isEmpty then a else { a with password := "***" }

/-- The URL with its password replaced, if it has one. -/
def masked (u : Url) : Url :=
  { u with authority := u.authority.map Authority.masked }

end Url

end LiteralRows
