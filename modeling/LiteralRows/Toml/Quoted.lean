import LiteralRows.Text.Digits
import LiteralRows.Text.Reading

/-!
# Quoted text in TOML

Text between double quotes has escapes, text between single quotes has none.  Three quotes open a
text of several lines; a line end right after them does not count, and up to two quotes may stand
before the three that close it.  A document has no carriage returns when it comes here.
-/

namespace LiteralRows.Toml

open Text (Rest Taken)

/-- The character may stand in a text: no control character but the tab. -/
def isTextChar (c : Char) : Bool :=
  c == '\t' || (0x20 ≤ c.toNat && c.toNat != 0x7F)

/-- The character is a space or a tab. -/
def isGap (c : Char) : Bool :=
  c == ' ' || c == '\t'

/-- The character with a number in hexadecimal. -/
def scalar? (digits : List Char) : Option Char :=
  (Text.number? 16 digits).bind fun n => if n.isValidChar then some (Char.ofNat n) else none

/-- Reads what stands after a backslash. -/
def escape? : (s : List Char) → Option (Taken Char s)
  | 'u' :: a :: b :: c :: d :: rest =>
    (scalar? [a, b, c, d]).map fun x => ⟨x, rest, by simp only [List.length_cons]; omega⟩
  | 'U' :: a :: b :: c :: d :: e :: f :: g :: h :: rest =>
    (scalar? [a, b, c, d, e, f, g, h]).map fun x =>
      ⟨x, rest, by simp only [List.length_cons]; omega⟩
  | mark :: rest =>
    (([('"', '"'), ('\\', '\\'), ('b', '\x08'), ('f', '\x0C'), ('n', '\n'), ('r', '\r'),
      ('t', '\t')]).lookup mark).map (.ofFirst mark rest)
  | [] => none

/-- Reads a text with escapes up to its closing quote. -/
def escaped? : (s : List Char) → Option (Taken (List Char) s)
  | [] => none
  | '"' :: rest => some (.ofFirst '"' rest [])
  | '\\' :: s => do
    let e ← escape? s
    let more ← escaped? e.rest
    some ((more.map (e.value :: ·)).widen (by
      have := e.shorter
      simp only [List.length_cons]; omega))
  | c :: s =>
    if isTextChar c then (escaped? s).map fun more => (more.map (c :: ·)).behind c
    else none
termination_by s => s.length
decreasing_by
  · have := e.shorter
    simp only [List.length_cons]; omega
  · simp

/-- Reads a text without escapes up to its closing quote. -/
def verbatim? : (s : List Char) → Option (Taken (List Char) s)
  | [] => none
  | '\'' :: rest => some (.ofFirst '\'' rest [])
  | c :: s =>
    if isTextChar c then (verbatim? s).map fun more => (more.map (c :: ·)).behind c
    else none

/-- The quotes before the three that close a text, and the text after those: `rest` is what
follows three quotes. -/
def closing (quote : Char) (rest : List Char) : Taken (List Char) (quote :: rest) :=
  match rest with
  | c :: d :: rest =>
    if c = quote ∧ d = quote then ⟨[quote, quote], rest, by simp only [List.length_cons]; omega⟩
    else if c = quote then ⟨[quote], d :: rest, by simp only [List.length_cons]; omega⟩
    else ⟨[], c :: d :: rest, by simp only [List.length_cons]; omega⟩
  | [c] => if c = quote then ⟨[quote], [], by simp⟩ else ⟨[], [c], by simp⟩
  | [] => ⟨[], [], by simp⟩

/-- The text after a line end that is escaped: blanks, the line end, and all blanks and line ends
after it. -/
def afterEscapedEnd? (s : List Char) : Option { rest : List Char // rest.length < s.length } :=
  match h : s.dropWhile isGap with
  | '\n' :: rest =>
    some ⟨rest.dropWhile fun c => isGap c || c == '\n', by
      have := Text.length_lt_of_dropWhile_eq_cons h
      have := Text.length_dropWhile_le (fun c => isGap c || c == '\n') rest
      omega⟩
  | _ => none

/-- Reads the lines of a text with escapes up to its closing quotes. -/
def escapedLines? : (s : List Char) → Option (Taken (List Char) s)
  | [] => none
  | '"' :: '"' :: '"' :: rest =>
    some ((closing '"' rest).widen (by simp only [List.length_cons]; omega))
  | '\\' :: s =>
    match afterEscapedEnd? s with
    | some rest =>
      (escapedLines? rest.val).map fun more => more.widen (by
        have := rest.property
        simp only [List.length_cons]; omega)
    | none => do
      let e ← escape? s
      let more ← escapedLines? e.rest
      some ((more.map (e.value :: ·)).widen (by
        have := e.shorter
        simp only [List.length_cons]; omega))
  | c :: s =>
    if isTextChar c || c == '\n' then
      (escapedLines? s).map fun more => (more.map (c :: ·)).behind c
    else none
termination_by s => s.length
decreasing_by
  · have := rest.property
    simp only [List.length_cons]; omega
  · have := e.shorter
    simp only [List.length_cons]; omega
  · simp

/-- Reads the lines of a text without escapes up to its closing quotes. -/
def verbatimLines? : (s : List Char) → Option (Taken (List Char) s)
  | [] => none
  | '\'' :: '\'' :: '\'' :: rest =>
    some ((closing '\'' rest).widen (by simp only [List.length_cons]; omega))
  | c :: s =>
    if isTextChar c || c == '\n' then
      (verbatimLines? s).map fun more => (more.map (c :: ·)).behind c
    else none

/-- The text of several lines without a line end at its front. -/
def withoutFirstEnd (s : List Char) : Rest s :=
  match s with
  | '\n' :: rest => (Rest.whole rest).behind '\n'
  | s => .whole s

/-- Reads a quoted text of one or several lines. -/
def quoted? : (s : List Char) → Option (Taken (List Char) s)
  | '"' :: '"' :: '"' :: s =>
    let body := withoutFirstEnd s
    (escapedLines? body.val).map fun t => t.widen (by
      have := body.property
      simp only [List.length_cons]; omega)
  | '\'' :: '\'' :: '\'' :: s =>
    let body := withoutFirstEnd s
    (verbatimLines? body.val).map fun t => t.widen (by
      have := body.property
      simp only [List.length_cons]; omega)
  | '"' :: s => (escaped? s).map (.behind '"')
  | '\'' :: s => (verbatim? s).map (.behind '\'')
  | _ => none

/-- Reads a key: a quoted text of one line, or a run of letters, digits, underscores and
hyphens. -/
def key? : (s : List Char) → Option (Taken String s)
  | '"' :: s => (escaped? s).map fun t => (t.map String.ofList).behind '"'
  | '\'' :: s => (verbatim? s).map fun t => (t.map String.ofList).behind '\''
  | c :: s =>
    if isBare c then
      some ⟨String.ofList (c :: s.takeWhile isBare), s.dropWhile isBare, by
        have := Text.length_dropWhile_le isBare s
        simp only [List.length_cons]; omega⟩
    else none
  | [] => none
where
  isBare (c : Char) : Bool := c.isAlphanum || c == '_' || c == '-'

end LiteralRows.Toml
