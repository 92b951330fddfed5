import LiteralRows.Text.Digits
import LiteralRows.Text.Pieces
import LiteralRows.Text.Utf8

/-!
# Percent-encoding

A byte that may not stand in some part of a URL is written as a percent sign and two hexadecimal
digits.  Which characters may stand bare depends on the part:

* `bareInOpaque`, `bareInFragment`, `bareInQuery`, `bareInPath`, `bareInUserInfo` are the classes,
  each narrower than the one before it except that a query may hold a back quote;
* `encode` writes the characters of a text that are in a class as they are, and all others as their
  bytes;
* `decode` reads bytes back; a percent sign without two digits after it stands for itself.

`formPairs` reads a query as pairs of a name and a value.
-/

namespace LiteralRows.Url.Percent

open Text (hexValue? upperHexDigit)

/-- The character is visible ASCII or a space. -/
def bareInOpaque (c : Char) : Bool :=
  0x20 ≤ c.toNat && c.toNat ≤ 0x7E

/-- The character may stand bare in a fragment. -/
def bareInFragment (c : Char) : Bool :=
  bareInOpaque c && !" \"<>`".toList.contains c

/-- The character may stand bare in a query. -/
def bareInQuery (c : Char) : Bool :=
  bareInOpaque c && !" \"#<>".toList.contains c

/-- The character may stand bare in the query of a URL with a special scheme. -/
def bareInSpecialQuery (c : Char) : Bool :=
  bareInQuery c && c != '\''

/-- The character may stand bare in a path. -/
def bareInPath (c : Char) : Bool :=
  bareInQuery c && !"?`\x7b\x7d".toList.contains c

/-- The character may stand bare in a user name or a password. -/
def bareInUserInfo (c : Char) : Bool :=
  bareInPath c && !"/:;=@[\\]^|".toList.contains c

/-- A byte in escaped form. -/
def escape (b : UInt8) : List Char :=
  ['%', upperHexDigit (b.toNat / 16), upperHexDigit (b.toNat % 16)]

/-- The text with every character outside the class escaped. -/
def encode (bare : Char → Bool) (s : List Char) : List Char :=
  s.flatMap fun c => if bare c then [c] else (Text.Utf8.encodeChar c).flatMap escape

/-- A byte as the character with its number. -/
def charOf (b : UInt8) : Char :=
  Char.ofNat b.toNat

/-- The byte that two hexadecimal digits stand for. -/
def byteOf? (high low : UInt8) : Option UInt8 :=
  match hexValue? (charOf high), hexValue? (charOf low) with
  | some h, some l => some (UInt8.ofNat (h * 16 + l))
  | _, _ => none

/-- The bytes with every escape replaced by the byte it stands for. -/
def decode : List UInt8 → List UInt8
  | 0x25 :: high :: low :: rest =>
    match byteOf? high low with
    | some b => b :: decode rest
    | none => 0x25 :: decode (high :: low :: rest)
  | b :: rest => b :: decode rest
  | [] => []

/-- The bytes that a text with escapes stands for. -/
def bytesOf (s : List Char) : List UInt8 :=
  decode (Text.Utf8.encode s)

/-- The text that a text with escapes stands for, if its bytes are UTF-8. -/
def textOf (s : List Char) : Except Text.Utf8.Fault (List Char) :=
  match Text.Utf8.firstFault (bytesOf s) with
  | none => .ok (Text.Utf8.decodeLossy (bytesOf s))
  | some fault => .error fault

/-- The text that a name or a value of a form stands for: a plus sign is a space. -/
def formText (s : List Char) : String :=
  String.ofList (Text.Utf8.decodeLossy (bytesOf (s.map fun c => if c = '+' then ' ' else c)))

/-- The names and values of a query that is written like a form, in order. -/
def formPairs (query : List Char) : List (String × String) :=
  ((Text.splitOn '&' query).filter (!·.isEmpty)).map fun piece =>
    match Text.cutAt '=' piece with
    | some (name, value) => (formText name, formText value)
    | none => (formText piece, "")

theorem encode_append (bare : Char → Bool) (s t : List Char) :
    encode bare (s ++ t) = encode bare s ++ encode bare t := by
  simp [encode]

end LiteralRows.Url.Percent
