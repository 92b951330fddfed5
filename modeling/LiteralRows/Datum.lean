/-!
# Data to be read as records

Settings come from JSON and from TOML.  Both are turned into a `Datum`, and the readers of records
know data only, so that the rules for missing, repeated and unknown fields exist once.

* A record may be given with named fields in any order.  Unknown fields are ignored; a known
  field that is given twice is refused.
* It may also be given as a sequence of its fields in declaration order.  A closed sequence has to
  be used up; what follows in an open one is ignored.
-/

namespace LiteralRows

/-- A value that a reader of records may accept. -/
inductive Datum where
  | null
  | bool (b : Bool)
  /-- An integer that is not negative. -/
  | natural (n : Nat)
  | string (s : String)
  | sequence (closed : Bool) (items : List Datum)
  | record (fields : List (String × Datum))
  /-- Any other value: negative and fractional numbers, and texts that stand for no value. -/
  | misfit
  deriving Repr, Inhabited

namespace Datum

/-- What is known of one field of a record. -/
inductive Slot where
  | given (d : Datum)
  /-- The record has named fields, and this one is not among them. -/
  | unnamed
  /-- The record is a sequence that ends before this field. -/
  | beyond
  deriving Repr, Inhabited

/-- The values of all fields with this name. -/
def named (key : String) (fields : List (String × Datum)) : List Datum :=
  (fields.filter (·.1 == key)).map Prod.snd

/-- What is known of one named field; none if it is given twice. -/
def slot? (key : String) (fields : List (String × Datum)) : Option Slot :=
  match named key fields with
  | [] => some .unnamed
  | [d] => some (.given d)
  | _ => none

/-- The slots of a record that is given as a sequence, one for each key. -/
def slotsOf : List String → List Datum → List Slot
  | [], _ => []
  | _ :: keys, [] => .beyond :: slotsOf keys []
  | _ :: keys, d :: items => .given d :: slotsOf keys items

/-- The slots of a record with these keys in declaration order. -/
def slots? (keys : List String) : Datum → Option (List Slot)
  | .record fields => keys.mapM (slot? · fields)
  | .sequence closed items =>
    if closed && keys.length < items.length then none else some (slotsOf keys items)
  | _ => none

namespace Slot

/-- The value of a field that must be given. -/
def required {α : Type} (read : Datum → Option α) : Slot → Option α
  | .given d => read d
  | _ => none

/-- The value of a field that may be left out. -/
def withDefault {α : Type} (default : α) (read : Datum → Option α) : Slot → Option α
  | .given d => read d
  | _ => some default

/-- The value of a field that may be null, and may be left out where fields are named. -/
def optional {α : Type} (read : Datum → Option α) : Slot → Option (Option α)
  | .given .null => some none
  | .given d => (read d).map some
  | .unnamed => some none
  | .beyond => none

end Slot

/-- Reads a truth value. -/
def asBool? : Datum → Option Bool
  | .bool b => some b
  | _ => none

/-- Reads a text. -/
def asString? : Datum → Option String
  | .string s => some s
  | _ => none

/-- Reads a natural number below the bound. -/
def asNat? (bound : Nat) : Datum → Option Nat
  | .natural n => if n < bound then some n else none
  | _ => none

/-- Reads a list of any length. -/
def asList? {α : Type} (read : Datum → Option α) : Datum → Option (List α)
  | .sequence _ items => items.mapM read
  | _ => none

/-- Reads one of several words: the word itself, or a record whose only field is the word with a
null. -/
def asWord? {α : Type} (words : List (String × α)) : Datum → Option α
  | .string s => words.lookup s
  | .record [(s, .null)] => words.lookup s
  | _ => none

end Datum

end LiteralRows
