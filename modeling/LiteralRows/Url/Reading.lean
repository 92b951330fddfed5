import LiteralRows.Url

/-!
# Reading URLs

`Url.parse` reads a text as a URL.  Blanks and control characters at both ends, and tabs and line
ends anywhere, do not count.  After the scheme, the fragment is cut off at the first `#` and the
query at the first `?`; what is left is an authority and a path.

Five schemes are special: they always have a host and a path, a backslash is a slash to them, and
any number of slashes may stand after the scheme.  `file` is a sixth, with an optional host and no
credentials.  Any other scheme has an authority only after two slashes.
-/

namespace LiteralRows.Url

/-- How a scheme treats what follows it. -/
inductive SchemeKind where
  | special (defaultPort : Nat)
  | file
  | other
  deriving DecidableEq, Repr

/-- The special schemes, each with its own port. -/
def specialPorts : List (String × Nat) :=
  [("http", 80), ("ws", 80), ("https", 443), ("wss", 443), ("ftp", 21)]

/-- The kind of a scheme in lower case. -/
def SchemeKind.ofScheme (scheme : String) : SchemeKind :=
  if scheme = "file" then .file
  else match specialPorts.lookup scheme with
    | some port => .special port
    | none => .other

/-- The character separates segments under this kind of scheme. -/
def SchemeKind.isSlash (kind : SchemeKind) (c : Char) : Bool :=
  c == '/' || (c == '\\' && kind != .other)

/-! ## Text and scheme -/

/-- The text without control characters and spaces at its ends, and without tabs and line ends. -/
def cleaned (s : List Char) : List Char :=
  let isOuter (c : Char) : Bool := c.toNat ≤ 0x20
  ((((s.dropWhile isOuter).reverse.dropWhile isOuter).reverse).filter
    fun c => !(c == '\t' || c == '\n' || c == '\r'))

/-- The character may stand in a scheme after its first letter. -/
def isSchemeChar (c : Char) : Bool :=
  c.isAlphanum || c == '+' || c == '-' || c == '.'

/-- The scheme in lower case, and the text after its colon. -/
def cutScheme (s : List Char) : Option (String × List Char) :=
  match Text.cutAt ':' s with
  | some (c :: cs, rest) =>
    if c.isAlpha && cs.all isSchemeChar then
      some (Text.lowerAscii (String.ofList (c :: cs)), rest)
    else none
  | _ => none

/-- The text before the first `mark`, and the text after it, if there is one. -/
def cutOff (mark : Char) (s : List Char) : List Char × Option (List Char) :=
  match Text.cutAt mark s with
  | some (before, after) => (before, some after)
  | none => (s, none)

/-! ## Paths -/

/-- The segment stands for the place it is in. -/
def isHere (segment : String) : Bool :=
  [".", "%2e"].contains (Text.lowerAscii segment)

/-- The segment stands for the place above. -/
def isAbove (segment : String) : Bool :=
  ["..", ".%2e", "%2e.", "%2e%2e"].contains (Text.lowerAscii segment)

/-- The segment is the letter of a drive. -/
def isDrive (segment : String) : Bool :=
  match segment.toList with
  | [letter, mark] => letter.isAlpha && (mark == ':' || mark == '|')
  | _ => false

/-- The place above the one that these segments lead to, the last one first.  Nothing is above a
drive. -/
def above : List String → List String
  | [] => []
  | segment :: segments => if isDrive segment then segment :: segments else segments

/-- The segments with dots resolved, where `done` holds those before, the last one first. -/
def resolved (done : List String) : List String → List String
  | [] => done.reverse
  | segment :: more =>
    if isAbove segment then
      if more.isEmpty then ("" :: above done).reverse else resolved (above done) more
    else if isHere segment then
      if more.isEmpty then ("" :: done).reverse else resolved done more
    else resolved (segment :: done) more

/-- The pieces of a path between separators. -/
def segmentsOf (kind : SchemeKind) (path : List Char) : List String :=
  (Text.splitOn '/' (path.map fun c => if kind.isSlash c then '/' else c)).map fun segment =>
    String.ofList (Percent.encode Percent.bareInPath segment)

/-- The text after a separator, if one stands at its front. -/
def afterSlash (kind : SchemeKind) : List Char → List Char
  | [] => []
  | c :: cs => if kind.isSlash c then cs else c :: cs

/-- The path after an authority. -/
def pathOf (kind : SchemeKind) (path : List Char) : Path :=
  if kind = .other ∧ path = [] then .steps []
  else .steps (resolved [] (segmentsOf kind (afterSlash kind path)))

/-! ## Paths of files -/

/-- The letter of a drive as it is written, with a colon. -/
def driveText (segment : String) : String :=
  String.ofList (segment.toList.take 1 ++ [':'])

/-- The text begins with the letter of a drive as its first segment. -/
def beginsWithDrive (path : List Char) : Bool :=
  isDrive (String.ofList (path.takeWhile (!SchemeKind.file.isSlash ·)))

/-- A path of a file.  A drive may be its first segment, and empty segments at its front do not
count. -/
def filePath (path : List Char) : Path :=
  let segments := resolved [] (match segmentsOf .file path with
    | first :: more => (if isDrive first then driveText first else first) :: more
    | [] => [])
  let named := segments.dropWhile (·.isEmpty)
  .steps (if named.isEmpty then [""] else named)

/-! ## Authorities -/

/-- The text before the first colon outside brackets, and the text after it, if there is one. -/
def cutPort (inside : Bool) : List Char → List Char × Option (List Char)
  | [] => ([], none)
  | c :: cs =>
    if c == ':' && !inside then ([], some cs)
    else
      let (host, port) := cutPort (if c == '[' then true else inside && c != ']') cs
      (c :: host, port)

/-- A port, and what follows it: nothing, or a backslash and more. -/
def readPort (text : List Char) : Except Fault (Option Nat × List Char) :=
  let digits := text.takeWhile Char.isDigit
  let rest := text.dropWhile Char.isDigit
  if 65535 < Text.numberOf 10 digits then .error .invalidPort
  else if rest.isEmpty || rest.head? == some '\\' then
    .ok (if digits.isEmpty then none else some (Text.numberOf 10 digits), rest)
  else .error .invalidPort

/-- The credentials before the last `@`, if there is one, and the text after it. -/
def cutCredentials (text : List Char) : Option (List Char) × List Char :=
  match Text.cutAtLast '@' text with
  | some (credentials, rest) => (some credentials, rest)
  | none => (none, text)

/-- Reads an authority, and hands on what stands between its port and the next slash.  `atEnd` says
that nothing follows it. -/
def readAuthority (kind : SchemeKind) (text : List Char) (atEnd : Bool) :
    Except Fault (Authority × List Char) := do
  let (credentials, target) := cutCredentials text
  if credentials = some [] ∧ target = [] ∧ !atEnd then throw .emptyHost
  let (userName, password) := cutOff ':' (credentials.getD [])
  let written (s : List Char) : String := String.ofList (Percent.encode Percent.bareInUserInfo s)
  let userName := written userName
  let password := written (password.getD [])
  let (hostText, portText) := cutPort false target
  let host ← match kind with
    | .other => Host.ofName hostText
    | _ => if hostText.isEmpty then .error .emptyHost else Host.ofDomain hostText
  if host = .empty ∧ (portText.isSome ∨ userName ≠ "" ∨ password ≠ "") then throw .emptyHost
  let (port, rest) ← match portText with
    | some digits => readPort digits
    | none => .ok (none, [])
  .ok ({ userName, password, host,
         port := if port.map SchemeKind.special = some kind then none else port }, rest)

/-- Reads what follows the two slashes of a scheme that is not `file`. -/
def readHierarchy (kind : SchemeKind) (text : List Char) (marked : Bool) :
    Except Fault (Authority × Path) := do
  let before := text.takeWhile (!kind.isSlash ·)
  let path := text.dropWhile (!kind.isSlash ·)
  let (authority, rest) ← readAuthority kind before (path.isEmpty && !marked)
  .ok (authority, pathOf kind (rest ++ path))

/-- Reads what follows the scheme `file`.  A drive belongs to this machine, so that a host before it
does not count. -/
def readFile (text : List Char) : Except Fault (Authority × Path) :=
  match text.map (fun c => if c = '\\' then '/' else c) with
  | '/' :: '/' :: rest => do
    let hostText := rest.takeWhile (· != '/')
    let path := rest.dropWhile (· != '/')
    if isDrive (String.ofList hostText) then .ok ({ host := .empty }, filePath rest)
    else if hostText.isEmpty then .ok ({ host := .empty }, filePath path)
    else
      let host ← Host.ofDomain hostText
      if host = .name "localhost" then .ok ({ host := .empty }, filePath path)
      else
        let path := afterSlash .file path
        .ok ({ host := if beginsWithDrive path then .empty else host }, filePath path)
  | path => .ok ({ host := .empty }, filePath path)

/-- Reads what follows a scheme, up to the query: an authority, if there is one, and a path. -/
def readTarget (kind : SchemeKind) (text : List Char) (marked : Bool) :
    Except Fault (Option Authority × Path) :=
  match kind with
  | .special _ =>
    (readHierarchy kind (text.dropWhile kind.isSlash) marked).map fun (a, path) => (some a, path)
  | .file => (readFile text).map fun (a, path) => (some a, path)
  | .other =>
    match text with
    | '/' :: '/' :: rest => (readHierarchy kind rest marked).map fun (a, path) => (some a, path)
    | '/' :: _ => .ok (none, pathOf kind text)
    | _ => .ok (none, .bare (String.ofList (Percent.encode Percent.bareInOpaque text)))

/-- Reads a text as a URL. -/
def parse (s : String) : Except Fault Url :=
  match cutScheme (cleaned s.toList) with
  | none => .error .noScheme
  | some (scheme, rest) =>
    let kind := SchemeKind.ofScheme scheme
    let (rest, fragment) := cutOff '#' rest
    let (target, query) := cutOff '?' rest
    let bareInQuery := if kind = .other then Percent.bareInQuery else Percent.bareInSpecialQuery
    (readTarget kind target (query.isSome || fragment.isSome)).map fun (authority, path) =>
      { scheme, authority, path
        query := query.map fun s => String.ofList (Percent.encode bareInQuery s)
        fragment := fragment.map fun s => String.ofList (Percent.encode Percent.bareInFragment s) }

/-- A descriptor in a form that may be shown: as the URL it is, with its password masked. -/
def redacted (descriptor : String) : String :=
  match parse descriptor with
  | .ok url => url.masked.text
  | .error _ => "<unparseable descriptor>"

end LiteralRows.Url
