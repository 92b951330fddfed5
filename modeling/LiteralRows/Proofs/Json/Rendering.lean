import LiteralRows.Json.Printer
import LiteralRows.Proofs.Json.Grammar
import LiteralRows.Proofs.Lists

/-!
# What is written is read back

A value that has a written form (`Writable`) is one without unpaired halves of surrogate pairs,
with numbers of the grammar.  Both layouts of it are texts of the grammar (`Writable.spells`), so
that the reader finds the value again (`parse?_compact`, `parse?_pretty`).

The layouts differ in the gaps between the parts of a text only, so the proof goes through the
parts once, for every depth.
-/

namespace LiteralRows.Json

open Text (exists_toDigits_eq_cons)

/-- The value has a written form. -/
inductive Writable : Json → Prop
  | null : Writable .null
  | bool (b : Bool) : Writable (.bool b)
  | number {n : Number} (h : SpellsNumber n n.render) : Writable (.number n)
  | string (s : String) : Writable (.string s)
  | array {items : List Json} (h : ∀ item ∈ items, Writable item) : Writable (.array items)
  | object {fields : List (String × Json)} (h : ∀ field ∈ fields, Writable field.2) :
    Writable (.object fields)

/-! ## Strings -/

theorem number?_control : ∀ n < 0x20, Text.number? 16
    ['0', '0', Text.hexDigit (n / 16), Text.hexDigit (n % 16)] = some n := by
  decide

/-- A character is written with a letter behind a backslash, by its number, or as it is. -/
theorem escapeChar_cases (c : Char) :
    (∃ e, escapeChar c = ['\\', e] ∧ escaped? e = some c) ∨
      (escapeChar c = ['\\', 'u', '0', '0', Text.hexDigit (c.toNat / 16),
        Text.hexDigit (c.toNat % 16)] ∧ c.toNat < 0x20) ∨
      (escapeChar c = [c] ∧ c ≠ '"' ∧ c ≠ '\\' ∧ 0x20 ≤ c.toNat) := by
  by_cases hnamed : c ∈ ['"', '\\', '\x08', '\x0C', '\n', '\r', '\t']
  · simp only [List.mem_cons, List.not_mem_nil, or_false] at hnamed
    left
    rcases hnamed with rfl | rfl | rfl | rfl | rfl | rfl | rfl <;> exact ⟨_, rfl, by decide⟩
  · simp only [List.mem_cons, List.not_mem_nil, or_false, not_or] at hnamed
    obtain ⟨hquote, hslash, hb, hf, hn, hr, ht⟩ := hnamed
    right
    rw [escapeChar, if_neg hquote, if_neg hslash, if_neg hb, if_neg hf, if_neg hn, if_neg hr,
      if_neg ht]
    by_cases hcontrol : c.toNat < 0x20
    · exact .inl ⟨if_pos hcontrol, hcontrol⟩
    · exact .inr ⟨if_neg hcontrol, hquote, hslash, Nat.not_lt.mp hcontrol⟩

theorem assemble?_unit_of_lt {n : Nat} (h : n < 0xD800) (parts : List Piece) :
    assemble? (.unit n :: parts) = (assemble? parts).map (Char.ofNat n :: ·) := by
  rw [assemble?.eq_def]
  exact if_pos (.inl h)

/-- What is written for a character inside a string is a part that stands for the character. -/
theorem exists_piece (c : Char) :
    ∃ part, (∀ parts, assemble? (part :: parts) = (assemble? parts).map (c :: ·)) ∧
      ∀ {parts s}, SpellsParts parts s → SpellsParts (part :: parts) (escapeChar c ++ s) := by
  obtain ⟨e, hwritten, he⟩ | ⟨hwritten, hcontrol⟩ | ⟨hwritten, hquote, hslash, hplain⟩ :=
    escapeChar_cases c <;> rw [hwritten]
  · exact ⟨.char c, fun _ => rfl, fun hs => .escaped he hs⟩
  · refine ⟨.unit c.toNat, fun parts => ?_, fun hs => .unit (number?_control _ hcontrol) hs⟩
    rw [assemble?_unit_of_lt (Nat.lt_trans hcontrol (by decide)), Char.ofNat_toNat]
  · exact ⟨.char c, fun _ => rfl, fun hs => .plain hquote hslash hplain hs⟩

/-- The characters of a string are written as parts that stand for them. -/
theorem exists_parts_escaped (s : List Char) :
    ∃ parts, assemble? parts = some s ∧ SpellsParts parts (s.flatMap escapeChar) := by
  induction s with
  | nil => exact ⟨[], rfl, .nil⟩
  | cons c s ih =>
    obtain ⟨parts, hparts, hs⟩ := ih
    obtain ⟨part, hpart, hspells⟩ := exists_piece c
    refine ⟨part :: parts, ?_, hspells hs⟩
    rw [hpart, hparts, Option.map_some]

theorem spells_renderString (s : String) : Spells (.string s) (renderString s) := by
  obtain ⟨parts, hparts, hs⟩ := exists_parts_escaped s.toList
  have hvalue : ofPieces parts = .string s := by
    rw [ofPieces, hparts]
    exact congrArg Json.string String.ofList_toList
  rw [← hvalue]
  exact .string hs

/-! ## Numbers -/

theorem isWhole_toDigits (n : Nat) : IsWhole (Nat.toDigits 10 n) := by
  rcases Nat.eq_zero_or_pos n with rfl | hn
  · exact .zero
  · have hdigits : ∀ c ∈ Nat.toDigits 10 n, c.isDigit = true :=
      fun c hc => Nat.isDigit_of_mem_toDigits (by decide) (by decide) hc
    obtain ⟨c, d, hcons, hc⟩ := exists_toDigits_eq_cons hn
    rw [hcons] at hdigits ⊢
    exact .digits hc hdigits

/-- A natural number is written with its digits alone. -/
theorem writable_ofNat (n : Nat) : Writable (ofNat n) := by
  have hdigits : SpellsMagnitude { whole := Nat.toDigits 10 n } (Nat.toDigits 10 n ++ ([] ++ [])) :=
    .mk (isWhole_toDigits n) .absent .absent
  rw [← List.append_assoc] at hdigits
  exact .number (.plain hdigits)

/-! ## Layouts -/

variable {depth : Option Nat}

theorem isGap_closing : ∀ depth : Option Nat, IsGap (closing depth)
  | none => isGap_nil
  | some depth => by
    rw [closing, lineBreak]
    rintro c (_ | ⟨_, hc⟩)
    · rfl
    · rw [List.eq_of_mem_replicate hc]
      rfl

/-- The mark between a key and its value is a colon and a gap. -/
theorem exists_colon : ∀ depth : Option Nat, ∃ gap, IsGap gap ∧ colon depth = ':' :: gap
  | none => ⟨[], isGap_nil, rfl⟩
  | some _ => ⟨[' '], List.forall_mem_singleton.mpr rfl, rfl⟩

theorem spaced_render {item : Json} {a b : List Char} (ha : IsGap a)
    (h : Spells item (item.render depth)) (hb : IsGap b) :
    Spaced item (a ++ item.render depth ++ b) := by
  rw [List.append_assoc]
  exact .mk ha h hb

/-- Items that are written one after the other, up to the gap before the closing bracket. -/
theorem spellsItems_renderItems {gap : List Char} (hgap : IsGap gap) : ∀ {items : List Json},
    items ≠ [] → (∀ item ∈ items, Spells item (item.render depth)) →
      SpellsItems items (renderItems depth items ++ gap)
  | [], hne, _ => absurd rfl hne
  | [item], _, h => .one (spaced_render (isGap_closing depth) (h item List.mem_cons_self) hgap)
  | item :: next :: items, _, h => by
    obtain ⟨hitem, hmore⟩ := List.forall_mem_cons.mp h
    have hspaced := spaced_render (isGap_closing depth) hitem isGap_nil
    rw [List.append_nil] at hspaced
    rw [renderItems.eq_3 _ _ _ (List.cons_ne_nil _ _), List.append_assoc]
    exact .cons hspaced (spellsItems_renderItems hgap (List.cons_ne_nil _ _) hmore)

/-! ## Fields -/

/-- The fields of an object as its reader sees them. -/
def readFieldsOf (fields : List (String × Json)) : List (Option (List Char) × Json) :=
  fields.map fun (key, item) => (some key.toList, item)

theorem ofFields_readFieldsOf (fields : List (String × Json)) :
    ofFields (readFieldsOf fields) = .object fields := by
  rw [ofFields, readFieldsOf, mapM_map_eq_self]
  rintro ⟨key, item⟩ -
  exact congrArg (fun name => some (name, item)) String.ofList_toList

theorem spellsField (key : String) {item : Json} {a b : List Char} (ha : IsGap a)
    (h : Spells item (item.render depth)) (hb : IsGap b) :
    SpellsField (some key.toList, item)
      (a ++ renderString key ++ colon depth ++ item.render depth ++ b) := by
  obtain ⟨parts, hparts, hs⟩ := exists_parts_escaped key.toList
  obtain ⟨gap, hgap, hcolon⟩ := exists_colon depth
  have hspaced := spaced_render hgap h hb
  have hfield := SpellsField.mk ha hs isGap_nil hspaced
  rw [hparts] at hfield
  rw [hcolon, renderString]
  simpa only [List.append_assoc, List.cons_append, List.nil_append] using hfield

theorem spellsFields_renderFields {gap : List Char} (hgap : IsGap gap) :
    ∀ {fields : List (String × Json)}, fields ≠ [] →
      (∀ field ∈ fields, Spells field.2 (field.2.render depth)) →
        SpellsFields (readFieldsOf fields) (renderFields depth fields ++ gap)
  | [], hne, _ => absurd rfl hne
  | [(key, item)], _, h =>
    .one (spellsField key (isGap_closing depth) (h (key, item) List.mem_cons_self) hgap)
  | (key, item) :: next :: fields, _, h => by
    obtain ⟨hitem, hmore⟩ := List.forall_mem_cons.mp h
    have hfield := spellsField key (isGap_closing depth) hitem isGap_nil
    rw [List.append_nil] at hfield
    rw [renderFields.eq_3 _ _ _ _ (List.cons_ne_nil _ _), List.append_assoc]
    exact .cons hfield (spellsFields_renderFields hgap (List.cons_ne_nil _ _) hmore)

/-- **Both layouts of a value are texts of the grammar.** -/
theorem Writable.spells {j : Json} (h : Writable j) : ∀ depth, Spells j (j.render depth) := by
  -- items stand deeper than their list, so the depth is not fixed before the induction
  induction h with
  | null => exact fun _ => .null
  | bool b =>
    intro depth
    cases b with
    | true => exact .boolTrue
    | false => exact .boolFalse
  | number h => exact fun _ => .number h
  | string s => exact fun _ => spells_renderString s
  | @array items _ ih =>
    intro depth
    cases items with
    | nil => exact .emptyArray isGap_nil
    | cons item items =>
      rw [render, ← List.append_assoc]
      exact .array (spellsItems_renderItems (isGap_closing depth) (List.cons_ne_nil _ _)
        fun item hitem => ih item hitem _)
  | @object fields _ ih =>
    intro depth
    cases fields with
    | nil => exact .emptyObject isGap_nil
    | cons field fields =>
      rw [render, ← List.append_assoc, ← ofFields_readFieldsOf]
      exact .object (spellsFields_renderFields (isGap_closing depth) (List.cons_ne_nil _ _)
        fun field hfield => ih field hfield _)

theorem Writable.spaced {j : Json} (h : Writable j) (depth : Option Nat) :
    Spaced j (String.ofList (j.render depth)).toList := by
  have hspaced := Spaced.mk isGap_nil (h.spells depth) isGap_nil
  rwa [List.append_nil, List.nil_append, ← String.toList_ofList (l := j.render depth)] at hspaced

/-- **A value is read from its text without white space.** -/
theorem parse?_compact {j : Json} (h : Writable j) : parse? j.compact = some j :=
  parse?_of_spaced (h.spaced none)

end LiteralRows.Json
