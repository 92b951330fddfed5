import LiteralRows.Decimal.Shortest
import LiteralRows.Source.Decoding
import LiteralRows.Sqlite.Number
import LiteralRows.Text.Pieces

/-!
# SQLite values and types

A value carries its own storage class, whatever its column was declared as.  A declared type is
known to the driver if it maps to one of a few names; a column with any other declaration, or with
none, counts as undeclared and takes the storage class of a value.
-/

namespace LiteralRows.Sqlite

/-- A stored value. -/
inductive Value where
  | null
  | integer (n : Int)
  /-- A double, by its bits. -/
  | real (bits : UInt64)
  /-- Text as it is stored, which need not be well formed. -/
  | text (bytes : List UInt8)
  | blob (bytes : List UInt8)
  deriving DecidableEq, Repr, Inhabited

namespace Value

/-- The name of the storage class. -/
def storageClass : Value → String
  | null => "NULL"
  | integer _ => "INTEGER"
  | real _ => "REAL"
  | text _ => "TEXT"
  | blob _ => "BLOB"

/-- The text of an integer: an optional minus and digits without leading zeros. -/
def integerText : Int → List Char
  | .ofNat n => Nat.toDigits 10 n
  | .negSucc n => '-' :: Nat.toDigits 10 (n + 1)

/-- The value as a raw cell.  Text has to be well formed; a blob may hold any bytes. -/
def cell : Value → Except Text.Utf8.Fault RawCell
  | null => .ok none
  | integer n => .ok (some (Text.Utf8.encode (integerText n)))
  | real bits => .ok (some (Text.Utf8.encode (Decimal.Double.ofBits bits).text))
  | text bytes => textCell bytes
  | blob bytes => .ok (some bytes)

end Value

/-! ## Declared types -/

/-- The character may stand in a word of a declaration. -/
def isWordChar (c : Char) : Bool :=
  c.isAlphanum || c == '_' || c == '$' || 0x80 ≤ c.toNat

/-- The words with which the constraints of a column begin. -/
def constraintWords : List String :=
  ["constraint", "default", "null", "not", "primary", "unique", "check", "references", "collate",
    "as", "generated", "deferrable", "on"]

/-- The text before the first word that begins a constraint. -/
def beforeConstraint (s : List Char) : List Char :=
  match s with
  | [] => []
  | c :: cs =>
    if isWordChar c then
      let word := c :: cs.takeWhile isWordChar
      if constraintWords.contains (String.ofList (word.map Char.toLower)) then []
      else word ++ beforeConstraint (cs.dropWhile isWordChar)
    else c :: beforeConstraint cs
termination_by s.length
decreasing_by
  · have := (List.dropWhile_sublist (l := cs) isWordChar).length_le
    simp only [List.length_cons]; omega
  · simp

/-- The text up to a closing mark that is not doubled. -/
def quotedBy (mark : Char) : List Char → List Char
  | [] => []
  | [c] => if c = mark then [] else [c]
  | c :: d :: s =>
    if c ≠ mark then c :: quotedBy mark (d :: s)
    else if d = mark then c :: quotedBy mark s
    else []

/-- The text without quotes, if it begins with one. -/
def unquoted : List Char → List Char
  | '[' :: s => quotedBy ']' s
  | c :: s => if c = '"' ∨ c = '\'' ∨ c = '\x60' then quotedBy c s else c :: s
  | [] => []

/-- The type in the declaration of a column, in lower case: without blanks around it, without the
constraints after it, and without quotes. -/
def typeText (declaration : String) : List Char :=
  let s := (beforeConstraint declaration.toList).dropWhile Number.isSpace
  (unquoted (s.reverse.dropWhile Number.isSpace).reverse).map Char.toLower

/-- Some text occurs in another one. -/
def mentions (declared : List Char) (part : String) : Bool :=
  Text.occursIn part.toList declared

/-- The type name of a declared type, if the driver knows it. -/
def declaredType? (declaration : String) : Option String :=
  let d := typeText declaration
  let one (names : List String) : Bool := names.any fun n => n.toList == d
  if one ["int4", "int8"] then some "INTEGER"
  else if one ["boolean", "bool"] then some "BOOLEAN"
  else if one ["date"] then some "DATE"
  else if one ["time"] then some "TIME"
  else if one ["datetime", "timestamp"] then some "DATETIME"
  else if mentions d "int" then some "INTEGER"
  else if ["char", "clob", "text"].any (mentions d) then some "TEXT"
  else if mentions d "blob" then some "BLOB"
  else if ["real", "floa", "doub"].any (mentions d) then some "REAL"
  else none

end LiteralRows.Sqlite
