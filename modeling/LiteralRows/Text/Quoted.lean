import LiteralRows.Text.UnseenTable

/-!
# Quoted text in messages

A text that a message shows between double quotes: quotes, backslashes and line ends are escaped by
a backslash, and characters that cannot be seen on their own are written by their numbers.
-/

namespace LiteralRows.Text

/-- The character cannot be seen on its own. -/
def isUnseen (c : Char) : Bool :=
  if c.toNat < 0x7F then c.toNat < 0x20 else unseen.holds c

/-- A character as it is shown between quotes. -/
def shownChar (c : Char) : List Char :=
  match c with
  | '"' => ['\\', '"']
  | '\\' => ['\\', '\\']
  | '\n' => ['\\', 'n']
  | '\r' => ['\\', 'r']
  | '\t' => ['\\', 't']
  | '\x00' => ['\\', '0']
  | c =>
    if isUnseen c then ['\\', 'u', '\x7b'] ++ Nat.toDigits 16 c.toNat ++ ['\x7d']
    else [c]

/-- A text between quotes. -/
def quoted (s : String) : String :=
  String.ofList (['"'] ++ s.toList.flatMap shownChar ++ ['"'])

end LiteralRows.Text
