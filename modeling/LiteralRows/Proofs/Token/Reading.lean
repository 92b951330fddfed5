import LiteralRows.Proofs.Text.Doubling
import LiteralRows.Proofs.Token.Numeral
import LiteralRows.Token

/-!
# Reading a token back

A token is put into a statement between commas, and the value it came from is arbitrary.  So the
question is whether whoever reads the statement takes exactly the token for one literal, whatever
the value was.

* `IsLiteral` is the written form of a literal: the word `NULL`, a numeral, or a text between
  quotes in which every quote is doubled.
* `Literal.read?` reads one literal from the front of a text: a quoted one up to the first quote
  that is not doubled, any other up to the first comma.

With doubled quotes every token is a literal, and reading takes exactly the token and finds the
value behind it (`ofCell_is_one_literal`).  A value cannot end its literal early: a quote inside it
is doubled, and a text that would stand bare is a numeral, in which there is no comma.
-/

namespace LiteralRows.Token

/-- The written form of one SQL literal. -/
inductive IsLiteral : List Char → Prop
  | null : IsLiteral ['N', 'U', 'L', 'L']
  | bare {s : List Char} (h : Numeral s) : IsLiteral s
  | quoted {s : List Char} (h : Text.Doubled '\'' s) : IsLiteral ('\'' :: (s ++ ['\'']))

/-- Reads one literal from the front of a text, and says what is left. -/
def Literal.read? : List Char → Option (Literal × List Char)
  | '\'' :: s => (Text.beforeClosing '\'' s).map fun (text, rest) => (.quoted text, rest)
  | s =>
    let word := s.takeWhile (· != ',')
    let rest := s.dropWhile (· != ',')
    if word = [] then none
    else if word = ['N', 'U', 'L', 'L'] then some (.null, rest)
    else some (.bare word, rest)

/-- The text goes on with the next literal of a list, or not at all. -/
def EndsLiteral (rest : List Char) : Prop :=
  rest = [] ∨ ∃ more, rest = ',' :: more

theorem EndsLiteral.head?_ne {rest : List Char} (h : EndsLiteral rest) {c : Char} (hc : c ≠ ',') :
    rest.head? ≠ some c := by
  rcases h with rfl | ⟨more, rfl⟩
  · exact nofun
  · rw [List.head?_cons]
    exact fun hh => hc (Option.some.inj hh).symm

theorem EndsLiteral.takeWhile_eq {rest : List Char} (h : EndsLiteral rest) :
    rest.takeWhile (· != ',') = [] := by
  rcases h with rfl | ⟨more, rfl⟩ <;> rfl

theorem EndsLiteral.dropWhile_eq {rest : List Char} (h : EndsLiteral rest) :
    rest.dropWhile (· != ',') = rest := by
  rcases h with rfl | ⟨more, rfl⟩ <;> rfl

/-! ## Reading the three forms -/

/-- A word that holds neither a quote at its front nor a comma is read whole. -/
theorem read?_word {word rest : List Char} (hne : word ≠ []) (hquote : '\'' ∉ word)
    (hcomma : ',' ∉ word) (hrest : EndsLiteral rest) :
    Literal.read? (word ++ rest) =
      some (if word = ['N', 'U', 'L', 'L'] then .null else .bare word, rest) := by
  have hword : ∀ c ∈ word, (c != ',') = true := by
    intro c hc
    rw [bne_iff_ne]
    rintro rfl
    exact hcomma hc
  have htake : (word ++ rest).takeWhile (· != ',') = word := by
    rw [List.takeWhile_append_of_pos hword, hrest.takeWhile_eq, List.append_nil]
  have hdrop : (word ++ rest).dropWhile (· != ',') = rest := by
    rw [List.dropWhile_append_of_pos hword, hrest.dropWhile_eq]
  unfold Literal.read?
  split
  · rename_i s hs
    cases word with
    | nil => exact absurd rfl hne
    | cons c word =>
      rw [List.cons_append, List.cons.injEq] at hs
      exact absurd (hs.1 ▸ List.mem_cons_self) hquote
  · simp only [htake, hdrop, if_neg hne]
    split <;> rfl

theorem read?_quoted (text : List Char) {rest : List Char} (hrest : EndsLiteral rest) :
    Literal.read? (quote (Text.doubling '\'' text) ++ rest) = some (.quoted text, rest) := by
  have hclose := Text.beforeClosing_doubling (hrest.head?_ne (by decide : '\'' ≠ ',')) text
  simp only [quote, List.cons_append, List.append_assoc, List.nil_append, Literal.read?]
  rw [hclose]
  rfl

theorem read?_numeral {s rest : List Char} (h : Numeral s) (hrest : EndsLiteral rest) :
    Literal.read? (s ++ rest) = some (.bare s, rest) := by
  have hquote : '\'' ∉ s := fun hmem => absurd (h.forall_mem _ hmem) (by decide)
  have hcomma : ',' ∉ s := fun hmem => absurd (h.forall_mem _ hmem) (by decide)
  have hnull : s ≠ ['N', 'U', 'L', 'L'] := by
    rintro rfl
    exact absurd (h.forall_mem 'N' List.mem_cons_self) (by decide)
  rw [read?_word h.ne_nil hquote hcomma hrest, if_neg hnull]

theorem read?_null {rest : List Char} (hrest : EndsLiteral rest) :
    Literal.read? (['N', 'U', 'L', 'L'] ++ rest) = some (.null, rest) := by
  rw [read?_word (by decide) (by decide) (by decide) hrest, if_pos rfl]

/-! ## Tokens -/

/-- The cell has a value, with this text. -/
def HasText (cell : RawCell) (text : List Char) : Prop :=
  ∃ bytes, bytes ≠ [] ∧ cell = some bytes ∧ text = Text.Utf8.decodeLossy bytes

/-- The three forms of a cell: none without a value, bare for a numeral, quoted for any text. -/
theorem ofCell_cases (cls : ColumnClass) (cell : RawCell) :
    ((cell = none ∨ cell = some []) ∧ Literal.ofCell cls cell = .null) ∨
      ∃ text, HasText cell text ∧
        (Numeral text ∧ Literal.ofCell cls cell = .bare text ∨
          Literal.ofCell cls cell = .quoted text) := by
  match cell with
  | none => exact .inl ⟨.inl rfl, rfl⟩
  | some [] => exact .inl ⟨.inr rfl, rfl⟩
  | some (b :: bs) =>
    refine .inr ⟨_, ⟨b :: bs, List.cons_ne_nil b bs, rfl, rfl⟩, ?_⟩
    rw [Literal.ofCell]
    · split
      · rename_i hbare
        rw [Bool.and_eq_true] at hbare
        exact .inl ⟨numeral_of_isNumeric hbare.2, rfl⟩
      · exact .inr rfl
    · exact List.cons_ne_nil b bs

theorem HasText.not_absent {cell : RawCell} {text : List Char} (h : HasText cell text) :
    ¬ (cell = none ∨ cell = some []) := by
  obtain ⟨bytes, hne, rfl, -⟩ := h
  rintro (habsent | habsent)
  · cases habsent
  · cases habsent
    exact hne rfl

/-- **Every token is one literal, and is read back as such.**  Followed by nothing or by a comma, it
is taken exactly; what is read is the value: `NULL` for a cell without one, a bare token itself,
and the text of the cell behind a quoted token. -/
theorem ofCell_is_one_literal (cls : ColumnClass) (cell : RawCell) (rest : List Char)
    (hrest : EndsLiteral rest) :
    let token := (ofCell { escapeQuotes := true } cls cell).toList
    IsLiteral token ∧
      ∃ literal, Literal.read? (token ++ rest) = some (literal, rest) ∧
        (literal = .null ↔ cell = none ∨ cell = some []) ∧
        (∀ text, literal = .bare text → text = token ∧ HasText cell text) ∧
        ∀ text, literal = .quoted text → HasText cell text := by
  intro token
  have htoken : token = (Literal.ofCell cls cell).render { escapeQuotes := true } :=
    String.toList_ofList
  clear_value token
  rcases ofCell_cases cls cell with ⟨habsent, hform⟩ | ⟨text, htext, ⟨hnumeral, hform⟩ | hform⟩
  · rw [htoken, hform]
    exact ⟨.null, .null, read?_null hrest, ⟨fun _ => habsent, fun _ => rfl⟩, nofun, nofun⟩
  · rw [htoken, hform]
    refine ⟨.bare hnumeral, .bare text, read?_numeral hnumeral hrest,
      ⟨nofun, fun habsent => absurd habsent htext.not_absent⟩, ?_, nofun⟩
    rintro _ ⟨⟩
    exact ⟨rfl, htext⟩
  · rw [htoken, hform]
    refine ⟨.quoted (Text.doubled_doubling '\'' text), .quoted text, read?_quoted text hrest,
      ⟨nofun, fun habsent => absurd habsent htext.not_absent⟩, nofun, ?_⟩
    rintro _ ⟨⟩
    exact htext

/-- A value that begins and ends with a quote and holds a comma and a byte that is no text. -/
theorem ofCell_is_one_literal_between_quotes :
    EndsLiteral [',', '1'] ∧ IsLiteral "''',\uFFFD'''".toList ∧
      ∃ literal, Literal.read? ("''',\uFFFD'''".toList ++ [',', '1']) = some (literal, [',', '1']) ∧
        literal ≠ .null := by
  have hrest : EndsLiteral [',', '1'] := .inr ⟨['1'], rfl⟩
  have h := ofCell_is_one_literal .numeric (some [0x27, 0x2C, 0xFF, 0x27]) [',', '1'] hrest
  have htoken : ofCell { escapeQuotes := true } .numeric (some [0x27, 0x2C, 0xFF, 0x27]) =
      "''',\uFFFD'''" := by decide +kernel
  rw [htoken] at h
  obtain ⟨hliteral, literal, hread, hnull, -⟩ := h
  refine ⟨hrest, hliteral, literal, hread, fun hh => ?_⟩
  rcases hnull.mp hh with habsent | habsent <;> cases habsent

end LiteralRows.Token
