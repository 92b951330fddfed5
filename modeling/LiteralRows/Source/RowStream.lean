/-!
# Row streams with one row of lookahead

A stream delivers rows, and perhaps errors, one after the other.  A `RowStream` pulls the first
row when it is opened, so that a rejected statement fails at once and not at the first advance.

* `pending` is the first row while it has not been consumed.
* `current` is the row that the last advance reached, if it reached one.
* `stream` is what is still to come.  It is given up at the end and at the first error, and with it
  the connection it came over; a stream without any row is given up on opening.
-/

namespace LiteralRows

/-- A stream of rows `α` that may break down with an error `ε`. -/
structure RowStream (ε α : Type) where
  stream : Option (List (Except ε α))
  pending : Option α := none
  current : Option α := none
  deriving Repr

namespace RowStream

variable {ε α : Type}

/-- Opens a stream that will deliver these items. -/
def start : List (Except ε α) → Except ε (RowStream ε α)
  | [] => .ok { stream := none }
  | .error e :: _ => .error e
  | .ok row :: items => .ok { stream := some items, pending := some row }

/-- Moves to the next row. -/
def advance (s : RowStream ε α) : Except ε Bool × RowStream ε α :=
  match s.pending with
  | some row => (.ok true, { s with pending := none, current := some row })
  | none =>
    match s.stream with
    | none => (.ok false, { s with current := none })
    | some [] => (.ok false, { s with stream := none, current := none })
    | some (.error e :: _) => (.error e, { s with stream := none, current := none })
    | some (.ok row :: items) => (.ok true, { s with stream := some items, current := some row })

/-- The stream still occupies the connection it came over. -/
def isOpen (s : RowStream ε α) : Bool :=
  s.stream.isSome

/-- A bound on the rows that are still to come. -/
def remaining (s : RowStream ε α) : Nat :=
  (s.stream.getD []).length + (if s.pending.isSome then 1 else 0)

/-- An advance that reaches a row uses up the bound. -/
theorem remaining_advance (s : RowStream ε α) (h : s.advance.1 = .ok true) :
    s.advance.2.remaining < s.remaining := by
  obtain ⟨stream, pending, current⟩ := s
  cases pending with
  | some row => simp [advance, remaining]
  | none =>
    match stream with
    | none => simp [advance] at h
    | some [] => simp [advance] at h
    | some (.error e :: items) => simp [advance] at h
    | some (.ok row :: items) => simp [advance, remaining]

end RowStream

end LiteralRows
