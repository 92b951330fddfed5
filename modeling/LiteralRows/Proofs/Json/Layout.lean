import LiteralRows.Json.Printer

/-!
# One item to a line

What the layout of a value looks like, as lines and without regard to depth.  The block of a list or
an object has its brackets on lines of their own.  Between them, two spaces further to the right,
stand the blocks of its parts, with a comma behind each but the last (`Json.block`).

The printer knows how deep it is and breaks lines as it goes.  `spread` is the text of a block at a
depth, and `lineBreak_render` compares the two for every depth at once, because a block that is
moved to the right is spread like itself one level deeper (`spread_indented`).  At depth zero this
is `toList_pretty`.
-/

namespace LiteralRows.Json

/-! ## Blocks -/

/-- The lines, two spaces further to the right. -/
def indented (lines : List (List Char)) : List (List Char) :=
  lines.map fun line => ' ' :: ' ' :: line

/-- The lines with a text in front of the first. -/
def headed (start : List Char) : List (List Char) → List (List Char)
  | [] => []
  | line :: lines => (start ++ line) :: lines

/-- The lines with a comma behind the last. -/
def withComma : List (List Char) → List (List Char)
  | [] => []
  | [line] => [line ++ [',']]
  | line :: lines => line :: withComma lines

/-- Blocks below each other, with a comma behind each but the last. -/
def stacked : List (List (List Char)) → List (List Char)
  | [] => []
  | [lines] => lines
  | lines :: blocks => withComma lines ++ stacked blocks

/-- Lines between two brackets that stand on lines of their own. -/
def bracketed (left right : Char) (lines : List (List Char)) : List (List Char) :=
  [left] :: (indented lines ++ [[right]])

mutual

/-- The lines of a value. -/
def block : Json → List (List Char)
  | .array (item :: items) => bracketed '[' ']' (stacked (blocks (item :: items)))
  | .object (field :: fields) =>
    bracketed '\x7b' '\x7d' (stacked (fieldBlocks (field :: fields)))
  | j => [j.render none]

/-- The lines of the items of a list. -/
def blocks : List Json → List (List (List Char))
  | [] => []
  | item :: items => item.block :: blocks items

/-- The lines of the fields of an object. -/
def fieldBlocks : List (String × Json) → List (List (List Char))
  | [] => []
  | (key, item) :: fields =>
    headed (renderString key ++ [':', ' ']) item.block :: fieldBlocks fields

end

/-! ## Lines at a depth -/

/-- The lines at a depth, each after its break. -/
def spread (depth : Nat) (lines : List (List Char)) : List Char :=
  lines.flatMap (lineBreak depth ++ ·)

variable {depth : Nat} {s : List Char} {lines : List (List Char)}

theorem lineBreak_succ (depth : Nat) : lineBreak (depth + 1) = lineBreak depth ++ [' ', ' '] := by
  rw [lineBreak, lineBreak, Nat.mul_add_one, ← List.replicate_append_replicate]
  rfl

/-- A block that is moved to the right is spread like itself one level deeper. -/
theorem spread_indented (depth : Nat) (lines : List (List Char)) :
    spread depth (indented lines) = spread (depth + 1) lines := by
  rw [spread, indented, List.flatMap_map, spread, lineBreak_succ]
  simp only [List.append_assoc, List.cons_append, List.nil_append]

theorem spread_append (depth : Nat) (lines more : List (List Char)) :
    spread depth (lines ++ more) = spread depth lines ++ spread depth more :=
  List.flatMap_append

theorem spread_bracketed (depth : Nat) (left right : Char) (lines : List (List Char)) :
    spread depth (bracketed left right lines) =
      lineBreak depth ++ left :: (spread (depth + 1) lines ++ (lineBreak depth ++ [right])) := by
  have hright : spread depth [[right]] = lineBreak depth ++ [right] := List.flatMap_singleton _ _
  rw [bracketed, spread, List.flatMap_cons, ← spread, spread_append, spread_indented, hright,
    List.append_assoc]
  rfl

/-- A text in front of a block comes right after its first break. -/
theorem spread_headed (start : List Char) (h : lineBreak depth ++ s = spread depth lines) :
    spread depth (headed start lines) = lineBreak depth ++ (start ++ s) := by
  cases lines with
  | nil => cases h
  | cons line lines =>
    rw [spread, List.flatMap_cons, ← spread, List.append_assoc] at h
    rw [List.append_cancel_left h, headed, spread, List.flatMap_cons, ← spread,
      List.append_assoc, List.append_assoc]

theorem spread_withComma (depth : Nat) : ∀ {lines : List (List Char)}, lines ≠ [] →
    spread depth (withComma lines) = spread depth lines ++ [',']
  | [], hne => absurd rfl hne
  | [line], _ => by
    simp only [withComma, spread, List.flatMap_singleton, List.append_assoc]
  | line :: next :: lines, _ => by
    have hmore := spread_withComma depth (List.cons_ne_nil next lines)
    rw [withComma.eq_3 _ _ (List.cons_ne_nil _ _), spread, List.flatMap_cons, ← spread, hmore,
      ← List.append_assoc]
    rfl

/-- A comma stands between a block and those below it. -/
theorem spread_stacked_cons (h : lineBreak depth ++ s = spread depth lines)
    (next : List (List Char)) (more : List (List (List Char))) :
    spread depth (stacked (lines :: next :: more)) =
      lineBreak depth ++ (s ++ ',' :: spread depth (stacked (next :: more))) := by
  have hne : lines ≠ [] := by
    rintro rfl
    cases h
  rw [stacked.eq_3 _ _ (List.cons_ne_nil _ _), spread_append, spread_withComma depth hne, ← h,
    List.append_assoc, List.append_assoc]
  rfl

/-! ## The printer -/

-- One theorem for each function of the printer, by recursion over the value.  The parts of a list
-- or an object are compared one level deeper, where their block is no longer moved to the right.
mutual

/-- **What is printed at a depth is the block of the value at that depth.** -/
theorem lineBreak_render : ∀ (j : Json) (depth : Nat),
    lineBreak depth ++ j.render (some depth) = spread depth j.block
  | .null, _ => (List.flatMap_singleton _ _).symm
  | .bool true, _ => (List.flatMap_singleton _ _).symm
  | .bool false, _ => (List.flatMap_singleton _ _).symm
  | .number _, _ => (List.flatMap_singleton _ _).symm
  | .string _, _ => (List.flatMap_singleton _ _).symm
  | .unpaired, _ => (List.flatMap_singleton _ _).symm
  | .array [], _ => (List.flatMap_singleton _ _).symm
  | .object [], _ => (List.flatMap_singleton _ _).symm
  | .array (item :: items), depth => by
    rw [block, spread_bracketed, ← renderItems_eq_spread (item :: items) (depth + 1)]
    rfl
  | .object (field :: fields), depth => by
    rw [block, spread_bracketed, ← renderFields_eq_spread (field :: fields) (depth + 1)]
    rfl

theorem renderItems_eq_spread : ∀ (items : List Json) (depth : Nat),
    renderItems (some depth) items = spread depth (stacked (blocks items))
  | [], _ => rfl
  | [item], depth => lineBreak_render item depth
  | item :: next :: items, depth => by
    have hmore := renderItems_eq_spread (next :: items) depth
    rw [renderItems.eq_3 _ _ _ (List.cons_ne_nil _ _), hmore, List.append_assoc]
    exact (spread_stacked_cons (lineBreak_render item depth) _ _).symm

theorem renderFields_eq_spread : ∀ (fields : List (String × Json)) (depth : Nat),
    renderFields (some depth) fields = spread depth (stacked (fieldBlocks fields))
  | [], _ => rfl
  | [(key, item)], depth => by
    refine Eq.trans ?_ (spread_headed _ (lineBreak_render item depth)).symm
    rw [renderFields]
    simp only [List.append_assoc]
    rfl
  | (key, item) :: next :: fields, depth => by
    have hfield :=
      spread_headed (renderString key ++ [':', ' ']) (lineBreak_render item depth)
    have hmore := renderFields_eq_spread (next :: fields) depth
    refine Eq.trans ?_ (spread_stacked_cons hfield.symm _ _).symm
    rw [renderFields.eq_3 _ _ _ _ (List.cons_ne_nil _ _), hmore]
    simp only [List.append_assoc]
    rfl

end

end LiteralRows.Json
