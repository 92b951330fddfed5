import LiteralRows.Column
import LiteralRows.Text.Pieces
import LiteralRows.Text.Utf8
import LiteralRows.Token.Numeric

/-!
# Tokens

A token is one cell written as a SQL literal.

    raw cell            column class        token
    NULL or empty       any                 NULL
    numeric text        numeric or other    the text itself
    numeric text        text                'text'
    any other text      any                 'text'

Empty values fold into `NULL` on purpose, so that sources which tell the two apart and sources
which do not give the same tokens.

Which of the three forms a cell takes is `Literal.ofCell`.  How a form is written is
`Literal.render`; only there the option to double embedded quotes matters.  `literalText` goes
back from a token to the text behind it.
-/

namespace LiteralRows

/-- How quoted tokens are written. -/
structure Quoting where
  /-- Write each quote inside a quoted token twice.  Without it, embedded quotes stay as they
  are. -/
  escapeQuotes : Bool := false
  deriving DecidableEq, Repr, Inhabited

namespace Token

/-- A cell in one of the three forms that a token can have. -/
inductive Literal where
  | null
  /-- A numeric text, written without quotes. -/
  | bare (text : List Char)
  /-- Any text, written between quotes. -/
  | quoted (text : List Char)
  deriving DecidableEq, Repr

/-- The form of a cell in a column of the given class. -/
def Literal.ofCell (cls : ColumnClass) : RawCell → Literal
  | none => .null
  | some [] => .null
  | some bytes =>
    let text := Text.Utf8.decodeLossy bytes
    if !cls.isText && isNumeric text then .bare text else .quoted text

/-- A text between quotes. -/
def quote (text : List Char) : List Char :=
  '\'' :: (text ++ ['\''])

/-- The written form of a literal. -/
def Literal.render (q : Quoting) : Literal → List Char
  | .null => "NULL".toList
  | .bare text => text
  | .quoted text => quote (if q.escapeQuotes then Text.doubling '\'' text else text)

/-- The token of a cell in a column of the given class. -/
def ofCell (q : Quoting) (cls : ColumnClass) (cell : RawCell) : String :=
  String.ofList ((Literal.ofCell cls cell).render q)

/-- The tokens of a row; cells without a column and columns without a cell have none. -/
def ofRow (q : Quoting) (columns : List Column) (cells : List RawCell) : List String :=
  cells.zipWith (fun cell column => ofCell q column.cls cell) columns

/-- The text between one quote at each end, if both are there. -/
def unquote? (token : List Char) : Option (List Char) :=
  (Text.after? ['\''] token).bind (Text.before? ['\''])

/-- The text behind a token: none for `NULL`, the inner text of a quoted token, and any other
token itself.  Doubled quotes stay doubled. -/
def literalText (token : String) : Option String :=
  if token = "NULL" then none
  else some (((unquote? token.toList).map String.ofList).getD token)

end Token

end LiteralRows
