import LiteralRows.Text.Reading

/-!
# What a reading takes

`Takes` says what a reader finds at the front of a text and what it leaves.  How long the rest is
plays no part in that, so the shape in which a reader hands its rest on to the next one
(`Taken.behind`, `Taken.widen`) makes no difference.
-/

namespace LiteralRows.Text

/-- The reading takes this value and leaves this text. -/
def Takes {α : Type} {s : List Char} (reading : Option (Taken α s)) (x : α) (rest : List Char) :
    Prop :=
  ∃ shorter, reading = some ⟨x, rest, shorter⟩

namespace Takes

variable {α β : Type} {s rest : List Char} {reading : Option (Taken α s)} {x : α}

theorem map (h : Takes reading x rest) (f : α → β) :
    Takes (reading.map fun t => t.map f) (f x) rest := by
  obtain ⟨shorter, rfl⟩ := h
  exact ⟨shorter, rfl⟩

theorem behind (h : Takes reading x rest) (c : Char) :
    Takes (reading.map fun t => t.behind c) x rest := by
  obtain ⟨_, rfl⟩ := h
  exact ⟨_, rfl⟩

end Takes

end LiteralRows.Text
