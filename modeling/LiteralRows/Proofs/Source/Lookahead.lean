import LiteralRows.Source.RowStream
import Mathlib.Logic.Function.Iterate

/-!
# One row of lookahead loses nothing

A `RowStream` holds its items in three places: the row that was pulled on opening, the row that the
last advance reached, and the rest of the stream.  Seen from outside it is a plain queue: `due` is
what advances have still to bring, and every advance takes one item off its front until the first
error or the end, after which nothing comes any more.

* `advance_of_due_eq_cons`, `advance_of_due_eq_error`, `advance_of_due_eq_nil`: one advance, by the
  front of the queue.
* `isOpen_of_start`: the first row is there exactly as long as the stream that brought it is open.
* `Follows` says what all advances do, by their number; `follows_due` proves it of every state.
* `start_follows` is the whole life of a stream, from its opening on.
-/

namespace LiteralRows.RowStream

variable {ε α : Type}

/-! ## Items -/

/-- The rows before the first error, or all rows if there is none. -/
def rowsBefore : List (Except ε α) → List α
  | .ok row :: items => row :: rowsBefore items
  | _ => []

/-- The first error. -/
def firstError : List (Except ε α) → Option ε
  | [] => none
  | .error e :: _ => some e
  | .ok _ :: items => firstError items

/-- The items that advances are still to bring. -/
def due (s : RowStream ε α) : List (Except ε α) :=
  (s.pending.map Except.ok).toList ++ s.stream.getD []

/-! ## One advance -/

/-- The stream after an advance. -/
def next (s : RowStream ε α) : RowStream ε α :=
  s.advance.2

/-- The answer of the advance that comes after `n` others. -/
def answerAt (s : RowStream ε α) (n : Nat) : Except ε Bool :=
  (next^[n] s).advance.1

/-- The rows that the first `n` advances reach, in order. -/
def delivered (s : RowStream ε α) (n : Nat) : List α :=
  (List.range n).filterMap fun i => (next^[i + 1] s).current

theorem advance_of_due_eq_nil {s : RowStream ε α} (h : s.due = []) :
    s.advance = (.ok false, { stream := none }) := by
  obtain ⟨stream, pending, current⟩ := s
  cases pending with
  | some row => cases h
  | none =>
    match stream with
    | none => rfl
    | some [] => rfl
    | some (item :: items) => cases h

theorem advance_of_due_eq_error {s : RowStream ε α} {e : ε} {items : List (Except ε α)}
    (h : s.due = .error e :: items) : s.advance = (.error e, { stream := none }) := by
  obtain ⟨stream, pending, current⟩ := s
  cases pending with
  | some row => cases h
  | none =>
    match stream with
    | none => cases h
    | some [] => cases h
    | some (item :: items) =>
      cases h
      rfl

/-- A row at the front of the queue is reached, wherever it was kept. -/
theorem advance_of_due_eq_cons {s : RowStream ε α} {row : α} {items : List (Except ε α)}
    (h : s.due = .ok row :: items) :
    s.advance.1 = .ok true ∧ s.next.current = some row ∧ s.next.pending = none ∧
      s.next.due = items := by
  obtain ⟨stream, pending, current⟩ := s
  cases pending with
  | some row =>
    cases h
    exact ⟨rfl, rfl, rfl, rfl⟩
  | none =>
    match stream with
    | none => cases h
    | some [] => cases h
    | some (item :: items) =>
      cases h
      exact ⟨rfl, rfl, rfl, rfl⟩

/-- A stream that has been given up stays as it is. -/
theorem iterate_next_ended (n : Nat) :
    next^[n] ({ stream := none } : RowStream ε α) = { stream := none } :=
  Function.iterate_fixed rfl n

/-! ## What is still open -/

/-- **Before the first advance** a stream is open exactly if there is a first row. -/
theorem isOpen_of_start {items : List (Except ε α)} {s : RowStream ε α} (h : start items = .ok s) :
    s.isOpen = s.pending.isSome := by
  match items with
  | [] =>
    cases h
    rfl
  | .error e :: items => cases h
  | .ok row :: items =>
    cases h
    rfl

/-- A stream that was given up is not opened again. -/
theorem isOpen_of_isOpen_next {s : RowStream ε α} (h : s.next.isOpen) : s.isOpen := by
  obtain ⟨stream, pending, current⟩ := s
  cases pending with
  | some row => exact h
  | none =>
    match stream with
    | none => exact h
    | some items => rfl

/-! ## All advances -/

/-- Advances bring the rows of `items` one by one, then the first error or the end, and then
nothing.  There is a current row exactly while the last advance brought one, and no row is pulled
ahead any more. -/
structure Follows (s : RowStream ε α) (items : List (Except ε α)) : Prop where
  row : ∀ (i : Nat) (hi : i < (rowsBefore items).length),
    s.answerAt i = .ok true ∧ (next^[i + 1] s).current = some (rowsBefore items)[i]
  stop : s.answerAt (rowsBefore items).length =
    match firstError items with
    | some e => .error e
    | none => .ok false
  later : ∀ i, (rowsBefore items).length < i → s.answerAt i = .ok false
  current_eq_none : ∀ i, s.answerAt i ≠ .ok true → (next^[i + 1] s).current = none
  pending_eq_none : ∀ i, (next^[i + 1] s).pending = none

/-- A stream that is given up by its first advance follows what that advance answers. -/
theorem follows_of_next_eq_ended {s : RowStream ε α} {items : List (Except ε α)}
    (hnext : s.next = { stream := none }) (hrows : rowsBefore items = [])
    (hstop : s.advance.1 =
      match firstError items with
      | some e => .error e
      | none => .ok false) : s.Follows items := by
  have hiterate : ∀ i, next^[i + 1] s = { stream := none } := by
    intro i
    rw [Function.iterate_succ_apply, hnext, iterate_next_ended]
  have hlater : ∀ i, s.answerAt (i + 1) = .ok false := by
    intro i
    rw [answerAt, hiterate]
    rfl
  refine ⟨?_, ?_, ?_, ?_, ?_⟩
  · intro i hi
    rw [hrows] at hi
    cases hi
  · rw [hrows]
    exact hstop
  · intro i hi
    obtain ⟨i, rfl⟩ := Nat.exists_eq_succ_of_ne_zero (Nat.ne_of_gt (Nat.zero_lt_of_lt hi))
    exact hlater i
  · intro i _
    rw [hiterate]
  · intro i
    rw [hiterate]

/-- **A stream brings what is due**, whichever of its three places holds it. -/
theorem follows_due (items : List (Except ε α)) :
    ∀ s : RowStream ε α, s.due = items → s.Follows items := by
  induction items with
  | nil =>
    intro s h
    have hadvance := advance_of_due_eq_nil h
    exact follows_of_next_eq_ended (congrArg Prod.snd hadvance) rfl (congrArg Prod.fst hadvance)
  | cons item items ih =>
    intro s h
    cases item with
    | error e =>
      have hadvance := advance_of_due_eq_error h
      exact follows_of_next_eq_ended (congrArg Prod.snd hadvance) rfl (congrArg Prod.fst hadvance)
    | ok row =>
      obtain ⟨hanswer, hcurrent, hpending, hdue⟩ := advance_of_due_eq_cons h
      have hmore := ih s.next hdue
      refine ⟨?_, hmore.stop, ?_, ?_, ?_⟩
      · intro i hi
        cases i with
        | zero => exact ⟨hanswer, hcurrent⟩
        | succ i => exact hmore.row i (Nat.lt_of_succ_lt_succ hi)
      · intro i hi
        cases i with
        | zero => cases hi
        | succ i => exact hmore.later i (Nat.lt_of_succ_lt_succ hi)
      · intro i hi
        cases i with
        | zero => exact absurd hanswer hi
        | succ i => exact hmore.current_eq_none i hi
      · intro i
        cases i with
        | zero => exact hpending
        | succ i => exact hmore.pending_eq_none i

/-- The rows reached by the first `n` advances are the first `n` rows. -/
theorem Follows.delivered_eq {s : RowStream ε α} {items : List (Except ε α)} (h : s.Follows items)
    (n : Nat) : s.delivered n = (rowsBefore items).take n := by
  induction n with
  | zero => rfl
  | succ n ih =>
    rw [delivered, List.range_succ, List.filterMap_append, ← delivered, ih]
    by_cases hn : n < (rowsBefore items).length
    · rw [List.take_succ_eq_append_getElem hn]
      simp only [List.filterMap_cons, (h.row n hn).2, List.filterMap_nil]
    · have hnot : s.answerAt n ≠ .ok true := by
        rcases Nat.lt_or_eq_of_le (Nat.not_lt.mp hn) with hlt | heq
        · rw [h.later n hlt]
          exact nofun
        · rw [← heq, h.stop]
          split <;> exact nofun
      simp only [List.filterMap_cons, h.current_eq_none n hnot, List.filterMap_nil,
        List.append_nil]
      rw [List.take_of_length_le (Nat.not_lt.mp hn),
        List.take_of_length_le (Nat.le_succ_of_le (Nat.not_lt.mp hn))]

/-- Opening keeps all items, with the first row pulled ahead. -/
theorem start_eq_ok {items : List (Except ε α)} {s : RowStream ε α} (h : start items = .ok s) :
    s.due = items ∧ s.current = none ∧ s.pending = (rowsBefore items).head? := by
  match items with
  | [] =>
    cases h
    exact ⟨rfl, rfl, rfl⟩
  | .error e :: items => cases h
  | .ok row :: items =>
    cases h
    exact ⟨rfl, rfl, rfl⟩

theorem start_eq_error {items : List (Except ε α)} {e : ε} (h : start items = .error e) :
    ∃ later, items = .error e :: later := by
  match items with
  | [] => cases h
  | .error e' :: items =>
    cases h
    exact ⟨items, rfl⟩
  | .ok row :: items => cases h

/-- **The life of a stream.**  Opening fails exactly when the first item is an error.  Otherwise the
first row can be looked at before the first advance, and advances bring the rows before the first
error one by one, then that error or the end, and then nothing. -/
theorem start_follows (items : List (Except ε α)) :
    match start items with
    | .error e => ∃ later, items = .error e :: later
    | .ok s =>
      (∀ e later, items ≠ .error e :: later) ∧ s.current = none ∧
        s.pending = (rowsBefore items).head? ∧ s.Follows items ∧
        ∀ n, s.delivered n = (rowsBefore items).take n := by
  cases hstart : start items with
  | error e => exact start_eq_error hstart
  | ok s =>
    obtain ⟨hdue, hcurrent, hpending⟩ := start_eq_ok hstart
    have hfollows := follows_due items s hdue
    refine ⟨?_, hcurrent, hpending, hfollows, hfollows.delivered_eq⟩
    rintro e later rfl
    cases hstart

end LiteralRows.RowStream
