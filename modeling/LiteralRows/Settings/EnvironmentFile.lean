import LiteralRows.Text.Alphanumeric
import LiteralRows.Text.Blank
import LiteralRows.Text.Pieces
import LiteralRows.Text.Utf8

/-!
# Environment files

A file of lines `NAME=value` that sets variables which are not set yet.  A value may be quoted, in
whole or in part, and a quoted part may go over several lines; outside single quotes a backslash
escapes a few characters, and a dollar sign stands before the name of a variable whose value is put
in.  What stands after a blank and a hash sign is a comment.  Blanks at the end of a line do not
count, not even an escaped one.

The file is read up to the first line that cannot be understood, or that is not UTF-8; what was set
before stays set.  One thing no environment can do: to hold a value with a NUL character in it.
-/

namespace LiteralRows.EnvironmentFile

/-- Variables and their values. -/
abbrev Environment := List (String × String)

/-! ## Lines -/

/-- What the end of a line is inside of. -/
inductive Inside where
  | nothing
  | blanks
  | escape
  | weak
  | weakEscape
  | strong
  | strongEscape
  deriving DecidableEq, Repr

/-- What a character leads into. -/
def Inside.next (c : Char) : Inside → Inside
  | .escape => .nothing
  | .weakEscape => .weak
  | .strongEscape => .strong
  | .weak => if c == '\\' then .weakEscape else if c == '"' then .nothing else .weak
  | .strong => if c == '\\' then .strongEscape else if c == '\'' then .nothing else .strong
  | state =>
    if c == '\\' then .escape
    else if c == '"' then .weak
    else if c == '\'' then .strong
    else if state == .nothing && Text.isBlank c && c != '\n' && c != '\r' then .blanks
    else .nothing

/-- What the end of a line is inside of, and the line itself up to a comment, if it has one. -/
def scan (inside : Inside) : List Char → Inside × List Char × Bool
  | [] => (inside, [], false)
  | c :: s =>
    if inside = .blanks ∧ c = '#' then (.nothing, [], true)
    else
      let (final, text, hasComment) := scan (inside.next c) s
      (final, c :: text, hasComment)

/-- The lines of a file, each with its end. -/
def physicalLines : List UInt8 → List (List UInt8)
  | [] => []
  | b :: bytes =>
    if b = 0x0A then [b] :: physicalLines bytes
    else match physicalLines bytes with
      | [] => [[b]]
      | line :: lines => (b :: line) :: lines

/-- The line without its end. -/
def withoutEnd (line : List Char) : List Char :=
  match line.reverse with
  | '\n' :: '\r' :: rest => rest.reverse
  | '\n' :: rest => rest.reverse
  | _ => line

/-- Joins the lines of quoted parts, where `before` is what has been read of the present one.  The
list ends in `none` if the text ends inside of something, and at a line that has no text. -/
def logicalLines (before : List Char) (inside : Inside) :
    List (Option (List Char)) → List (Option (List Char))
  | [] => if inside = .nothing then [] else [none]
  | none :: _ => [none]
  | some line :: lines =>
    if ((before ++ line).dropWhile Text.isBlank).head? == some '#' then
      logicalLines [] .nothing lines
    else
      let (final, text, hasComment) := scan inside line
      if hasComment then some (before ++ text) :: logicalLines [] .nothing lines
      else if final = .nothing then
        some (withoutEnd (before ++ text)) :: logicalLines [] .nothing lines
      else logicalLines (before ++ text) final lines

/-! ## Values -/

/-- What a part of a value is inside of. -/
inductive Mode where
  | plain
  | weak
  | strong
  /-- The value is over; only blanks and a comment may follow. -/
  | over
  deriving DecidableEq, Repr

/-- The value of a variable, or nothing. -/
def valueOf (environment : Environment) (name : List Char) : List Char :=
  ((environment.lookup (String.ofList name)).getD "").toList

/-- The character may stand in the name of a variable after a dollar sign without braces. -/
def isNameChar (c : Char) : Bool :=
  Text.isAlphanumeric c

/-- The value of a variable after a dollar sign, and the text after its name.  The name may stand
in braces, which have to be closed. -/
def substitution? (environment : Environment) (s : List Char) :
    Option (List Char × { rest : List Char // rest.length ≤ s.length }) :=
  match s with
  | '\x7b' :: s =>
    match h : s.dropWhile (· != '\x7d') with
    | _ :: rest => some (valueOf environment (s.takeWhile (· != '\x7d')), ⟨rest, by
        have : (s.dropWhile (· != '\x7d')).length ≤ s.length :=
          (List.dropWhile_sublist _).length_le
        rw [h, List.length_cons] at this
        simp only [List.length_cons]; omega⟩)
    | [] => none
  | s => some (valueOf environment (s.takeWhile isNameChar), ⟨s.dropWhile isNameChar,
      (List.dropWhile_sublist _).length_le⟩)

/-- The character that a backslash followed by this one stands for. -/
def escaped? (c : Char) : Option Char :=
  if c == 'n' then some '\n'
  else if ['\\', '\'', '"', '$', ' '].contains c then some c
  else none

/-- Reads a value. -/
def value? (environment : Environment) (mode : Mode) (s : List Char) : Option (List Char) :=
  match s with
  | [] => if mode = .weak ∨ mode = .strong then none else some []
  | c :: s =>
    match mode with
    | .over =>
      if c == ' ' || c == '\t' then value? environment .over s
      else if c == '#' then some [] else none
    | .strong =>
      if c == '\'' then value? environment .plain s
      else (value? environment .strong s).map (c :: ·)
    | mode =>
      if c == '\\' then
        match s with
        | [] => if mode = .weak then none else some []
        | e :: s => do
          let d ← escaped? e
          (value? environment mode s).map (d :: ·)
      else if c == '$' then
        match substitution? environment s with
        | none => none
        | some (value, ⟨[], _⟩) => if mode = .weak then none else some value
        | some (value, ⟨'$' :: rest, _⟩) =>
          (value? environment mode ('$' :: rest)).map (value ++ ·)
        | some (value, ⟨d :: rest, _⟩) =>
          if isBraced s then (value? environment mode (d :: rest)).map (value ++ ·)
          else (value? environment mode rest).map (value ++ d :: ·)
      else if c == '"' then
        value? environment (if mode = .weak then .plain else .weak) s
      else if mode = .weak then (value? environment .weak s).map (c :: ·)
      else if c == '\'' then value? environment .strong s
      else if c == ' ' || c == '\t' then value? environment .over s
      else (value? environment .plain s).map (c :: ·)
termination_by s.length
decreasing_by all_goals simp_all only [List.length_cons]; omega
where
  isBraced (s : List Char) : Bool := s.head? == some '\x7b'

/-! ## Variables -/

/-- The name at the front of a line, and the text after it. -/
def name? : List Char → Option (List Char × List Char)
  | [] => none
  | c :: s =>
    if c.isAlpha || c == '_' then
      let isKeyChar (c : Char) : Bool := c.isAlphanum || c == '_' || c == '.'
      some (c :: s.takeWhile isKeyChar, s.dropWhile isKeyChar)
    else none

/-- The text after blanks and an equals sign. -/
def afterEquals? (s : List Char) : Option (List Char) :=
  match s.dropWhile Text.isBlank with
  | '=' :: s => some s
  | _ => none

/-- The name of a line, and the text after its equals sign.  The word `export` before a name does
not count. -/
def assignment? (line : List Char) : Option (List Char × List Char) := do
  let (name, rest) ← name? line
  match afterEquals? rest with
  | some value => some (name, value)
  | none =>
    if name = "export".toList then do
      let (name, rest) ← name? (rest.dropWhile Text.isBlank)
      let value ← afterEquals? rest
      some (name, value)
    else none

/-- Reads the name and the value of a line: nothing for an empty line or a comment, unless it
cannot be understood. -/
def readLine? (environment : Environment) (line : List Char) :
    Option (Option (String × String)) :=
  let line := Text.trim line
  if line.isEmpty || line.head? == some '#' then some none
  else do
    let (name, text) ← assignment? line
    let text := text.dropWhile Text.isBlank
    let value ← if text.isEmpty || text.head? == some '#' then some []
      else value? environment .plain text
    some (some (String.ofList name, String.ofList value))

/-- The environment with a variable that is not set yet, if it can hold the value. -/
def set? (environment : Environment) (name value : String) : Option Environment :=
  if (environment.lookup name).isSome then some environment
  else if value.contains '\x00' then none
  else some (environment ++ [(name, value)])

/-- Takes lines up to the first that cannot be understood. -/
def takeLines? (environment : Environment) : List (Option (List Char)) → Option Environment
  | [] | none :: _ => some environment
  | some line :: lines =>
    match readLine? environment line with
    | none => some environment
    | some none => takeLines? environment lines
    | some (some (name, value)) => do takeLines? (← set? environment name value) lines

/-- The bytes of a file without a byte-order mark at their front. -/
def withoutMark : List UInt8 → List UInt8
  | 0xEF :: 0xBB :: 0xBF :: bytes => bytes
  | bytes => bytes

/-- The environment with what a file adds to it; nothing if that is more than an environment can
hold. -/
def extend? (environment : Environment) (bytes : List UInt8) : Option Environment :=
  takeLines? environment
    (logicalLines [] .nothing ((physicalLines (withoutMark bytes)).map Text.Utf8.decode?))

end LiteralRows.EnvironmentFile
