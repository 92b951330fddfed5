import LiteralRows.Column
import LiteralRows.Text.Utf8

/-!
# Decoding the cells of a row

A driver decodes the cells of a row from the left and stops at the first one that it cannot
decode.  Text has to be UTF-8; anything else is taken as it is.
-/

namespace LiteralRows

/-- A cell that could not be decoded. -/
structure DecodeFault where
  /-- The column, counted from zero. -/
  column : Nat
  fault : Text.Utf8.Fault
  deriving DecidableEq, Repr

/-- The sentence that reports it. -/
def DecodeFault.message (f : DecodeFault) : String :=
  "error occurred while decoding column " ++ toString f.column ++ ": " ++ f.fault.message

/-- A text as a raw cell. -/
def textCell (bytes : List UInt8) : Except Text.Utf8.Fault RawCell :=
  match Text.Utf8.firstFault bytes with
  | some fault => .error fault
  | none => .ok (some bytes)

/-- The cells of the columns from `column` on, or the first one that cannot be decoded. -/
def decodedFrom (column : Nat) :
    List (Except Text.Utf8.Fault RawCell) → Except DecodeFault (List RawCell)
  | [] => .ok []
  | .error fault :: _ => .error { column, fault }
  | .ok cell :: cells => (decodedFrom (column + 1) cells).map (cell :: ·)

/-- The cells of a row, or the text of the first failure. -/
def decodedCells (cells : List (Except Text.Utf8.Fault RawCell)) :
    Except String (List RawCell) :=
  (decodedFrom 0 cells).mapError DecodeFault.message

end LiteralRows
