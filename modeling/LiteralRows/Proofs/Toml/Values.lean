import LiteralRows.Proofs.Text.Digits
import LiteralRows.Proofs.Text.Pieces
import LiteralRows.Proofs.Text.Reading
import LiteralRows.Toml.Reader
import Mathlib.Data.Nat.Init

/-!
# Values in TOML documents

The text of a value as a relation that does not mention the reader: `SpellsString` for strings of
one line between double or single quotes, with every escape, and the integers that `anyInteger?`
knows, in all four bases, with signs and underscores.  Whatever may follow a value on its line
(`EndsValue`) is a variable.

* `SpellsChars.takes_escaped?` and `takes_verbatim?`: a string is read up to its closing quote.
* `ofWord?_of_anyInteger?`: the run of an integer stands for the integer if that fits in sixty-four
  bits, and for nothing if it does not.  It is no date and no float, whatever its digits are
  (`IsIntegerRun`).
* `SpellsValue.takes_value?` and `value?_eq_none_of_anyInteger?` say so of values.
* `IsPlain.exists_spellsValue`: every string, truth value and integer of sixty-four bits has a text.
-/

namespace LiteralRows.Toml

open Text (Taken Takes)

/-! ## Strings -/

/-- What stands behind a backslash for a character: a letter, or its number with four or eight
digits. -/
inductive SpellsEscape : Char → List Char → Prop
  | marked {mark c : Char}
    (h : (mark, c) ∈ [('"', '"'), ('\\', '\\'), ('b', '\x08'), ('f', '\x0C'), ('n', '\n'),
      ('r', '\r'), ('t', '\t')]) : SpellsEscape c [mark]
  | short {a b c d x : Char} (h : scalar? [a, b, c, d] = some x) :
    SpellsEscape x ['u', a, b, c, d]
  | long {a b c d e f g i x : Char} (h : scalar? [a, b, c, d, e, f, g, i] = some x) :
    SpellsEscape x ['U', a, b, c, d, e, f, g, i]

/-- One character between double quotes: itself, or an escape. -/
inductive SpellsChar : Char → List Char → Prop
  | plain {c : Char} (htext : isTextChar c = true) (hquote : c ≠ '"') (hslash : c ≠ '\\') :
    SpellsChar c [c]
  | escaped {c : Char} {e : List Char} (h : SpellsEscape c e) : SpellsChar c ('\\' :: e)

/-- The text between double quotes, character by character. -/
inductive SpellsChars : List Char → List Char → Prop
  | nil : SpellsChars [] []
  | cons {c : Char} {text s t : List Char} (h : SpellsChar c s) (more : SpellsChars text t) :
    SpellsChars (c :: text) (s ++ t)

/-- The character may stand between single quotes. -/
def IsVerbatim (c : Char) : Prop :=
  isTextChar c = true ∧ c ≠ '\''

/-- A string of one line, between double quotes or between single ones. -/
inductive SpellsString : String → List Char → Prop
  | escaped {text s : List Char} (h : SpellsChars text s) :
    SpellsString (String.ofList text) ('"' :: (s ++ ['"']))
  | verbatim {s : List Char} (h : ∀ c ∈ s, IsVerbatim c) :
    SpellsString (String.ofList s) ('\'' :: (s ++ ['\'']))

theorem SpellsEscape.takes_escape? {c : Char} {e : List Char} (h : SpellsEscape c e)
    (rest : List Char) : Takes (escape? (e ++ rest)) c rest := by
  cases h with
  | marked h =>
    simp only [List.mem_cons, List.not_mem_nil, or_false, Prod.mk.injEq] at h
    rcases h with ⟨rfl, rfl⟩ | ⟨rfl, rfl⟩ | ⟨rfl, rfl⟩ | ⟨rfl, rfl⟩ | ⟨rfl, rfl⟩ | ⟨rfl, rfl⟩ |
      ⟨rfl, rfl⟩ <;> exact ⟨_, rfl⟩
  | short h =>
    simp only [List.cons_append, escape?, h]
    exact ⟨_, rfl⟩
  | long h =>
    simp only [List.cons_append, escape?, h]
    exact ⟨_, rfl⟩

/-- A character is read up to where the next one begins. -/
theorem SpellsChar.takes_escaped? {c : Char} {s text t rest : List Char} (h : SpellsChar c s)
    (ht : Takes (escaped? t) text rest) : Takes (escaped? (s ++ t)) (c :: text) rest := by
  obtain ⟨_, ht⟩ := ht
  cases h with
  | plain htext hquote hslash =>
    rw [List.singleton_append, escaped?.eq_4 _ _ hquote hslash, if_pos htext, ht]
    exact ⟨_, rfl⟩
  | escaped h =>
    obtain ⟨_, he⟩ := h.takes_escape? t
    rw [List.cons_append, escaped?, he, Option.bind_eq_bind, Option.bind_some]
    dsimp only
    rw [ht]
    exact ⟨_, rfl⟩

/-- **The text between double quotes is read up to the closing one.** -/
theorem SpellsChars.takes_escaped? {text s : List Char} (h : SpellsChars text s)
    (rest : List Char) : Takes (escaped? (s ++ '"' :: rest)) text rest := by
  induction h with
  | nil =>
    rw [List.nil_append, escaped?]
    exact ⟨_, rfl⟩
  | cons h _ ih =>
    rw [List.append_assoc]
    exact h.takes_escaped? ih

theorem takes_verbatim? {s : List Char} (h : ∀ c ∈ s, IsVerbatim c) (rest : List Char) :
    Takes (verbatim? (s ++ '\'' :: rest)) s rest := by
  induction s with
  | nil => exact ⟨_, rfl⟩
  | cons c s ih =>
    obtain ⟨⟨htext, hquote⟩, h⟩ := List.forall_mem_cons.mp h
    obtain ⟨_, ih⟩ := ih h
    rw [List.cons_append, verbatim?.eq_3 _ _ hquote, if_pos htext, ih]
    exact ⟨_, rfl⟩

/-! ## Integers -/

theorem forall_of_digitsOf? {base : Nat} {s digits : List Char}
    (h : digitsOf? base s = some digits) :
    s ≠ [] ∧ ∀ c ∈ s, c = '_' ∨ Text.isDigitOf base c = true := by
  obtain ⟨hall, -⟩ := Option.ite_none_right_eq_some.mp h
  have hgroup : ∀ group ∈ Text.splitOn '_' s,
      group ≠ [] ∧ ∀ c ∈ group, Text.isDigitOf base c = true := by
    simpa [List.all_eq_true] using hall
  constructor
  · rintro rfl
    exact (hgroup [] List.mem_cons_self).1 rfl
  · intro c hc
    refine or_iff_not_imp_left.mpr fun hne => ?_
    obtain ⟨group, hmem, hc⟩ := Text.exists_mem_splitOn hne hc
    exact (hgroup group hmem).2 c hc

theorem forall_of_decimal? {s digits : List Char} (h : decimal? s = some digits) :
    s ≠ [] ∧ ∀ c ∈ s, c = '_' ∨ Text.isDigitOf 10 c = true := by
  obtain ⟨digits', hdigits, -⟩ := Option.bind_eq_some_iff.mp h
  exact forall_of_digitsOf? hdigits

/-- A sign, or nothing. -/
def IsSign (s : List Char) : Prop :=
  s = [] ∨ s = ['+'] ∨ s = ['-']

theorem exists_cutSign (run : List Char) :
    ∃ sign, IsSign sign ∧ run = sign ++ (cutSign run).2 := by
  rw [cutSign.eq_def]
  split
  · exact ⟨['-'], .inr (.inr rfl), rfl⟩
  · exact ⟨['+'], .inr (.inl rfl), rfl⟩
  · exact ⟨[], .inl rfl, rfl⟩

/-- The run of an integer: digits to a base behind its mark, or decimal digits behind a sign or
none.  Underscores may stand between the digits. -/
inductive IsIntegerRun : List Char → Prop
  | based {base : Nat} {mark : Char} {s : List Char} (hbase : base ≤ 16)
    (hmark : mark ∈ ['x', 'o', 'b'])
    (hs : ∀ c ∈ s, c = '_' ∨ Text.isDigitOf base c = true) : IsIntegerRun ('0' :: mark :: s)
  | decimal {sign s : List Char} (hsign : IsSign sign) (hne : s ≠ [])
    (hs : ∀ c ∈ s, c = '_' ∨ Text.isDigitOf 10 c = true) : IsIntegerRun (sign ++ s)

theorem isIntegerRun_of_anyInteger? {run : List Char} {n : Int} (h : anyInteger? run = some n) :
    IsIntegerRun run := by
  rw [anyInteger?.eq_def] at h
  split at h
  · obtain ⟨digits, hdigits, -⟩ := Option.map_eq_some_iff.mp h
    exact .based (Nat.le_refl 16) (by decide) (forall_of_digitsOf? hdigits).2
  · obtain ⟨digits, hdigits, -⟩ := Option.map_eq_some_iff.mp h
    exact .based (by decide) (by decide) (forall_of_digitsOf? hdigits).2
  · obtain ⟨digits, hdigits, -⟩ := Option.map_eq_some_iff.mp h
    exact .based (by decide) (by decide) (forall_of_digitsOf? hdigits).2
  · obtain ⟨digits, hdigits, -⟩ := Option.map_eq_some_iff.mp h
    obtain ⟨hne, hs⟩ := forall_of_decimal? hdigits
    obtain ⟨sign, hsign, hrun⟩ := exists_cutSign run
    rw [hrun]
    exact .decimal hsign hne hs

/-! ### Characters of a run -/

theorem isAlphanum_of_isDigitOf {base : Nat} {c : Char} (h : Text.isDigitOf base c = true) :
    c.isAlphanum = true := by
  rw [Text.isDigitOf, Text.hexValue?] at h
  show ((c.isUpper || c.isLower) || c.isDigit) = true
  rw [Bool.or_eq_true, Bool.or_eq_true]
  by_cases hdigit : '0' ≤ c ∧ c ≤ '9'
  · right
    rw [Char.isDigit, Bool.and_eq_true, decide_eq_true_eq, decide_eq_true_eq]
    exact hdigit
  by_cases hlower : 'a' ≤ c ∧ c ≤ 'f'
  · left; right
    show (decide ('a' ≤ c) && decide (c ≤ 'z')) = true
    rw [Bool.and_eq_true, decide_eq_true_eq, decide_eq_true_eq]
    exact ⟨hlower.1, UInt32.le_trans hlower.2 (by decide)⟩
  by_cases hupper : 'A' ≤ c ∧ c ≤ 'F'
  · left; left
    show decide ('A' ≤ c ∧ c ≤ 'Z') = true
    rw [decide_eq_true_eq]
    exact ⟨hupper.1, UInt32.le_trans hupper.2 (by decide)⟩
  · rw [if_neg hdigit, if_neg hlower, if_neg hupper] at h
    cases h

theorem IsIntegerRun.forall_isWordChar {run : List Char} (h : IsIntegerRun run) :
    ∀ c ∈ run, isWordChar c = true := by
  have hdigit : ∀ {base c}, c = '_' ∨ Text.isDigitOf base c = true → isWordChar c = true := by
    rintro base c (rfl | hc)
    · rfl
    · rw [isWordChar, isAlphanum_of_isDigitOf hc]
      rfl
  cases h with
  | based _ hmark hs =>
    refine List.forall_mem_cons.mpr ⟨rfl, List.forall_mem_cons.mpr ⟨?_, ?_⟩⟩
    · simp only [List.mem_cons, List.not_mem_nil, or_false] at hmark
      rcases hmark with rfl | rfl | rfl <;> rfl
    · exact fun c hc => hdigit (hs c hc)
  | decimal hsign _ hs =>
    refine List.forall_mem_append.mpr ⟨?_, fun c hc => hdigit (hs c hc)⟩
    rcases hsign with rfl | rfl | rfl <;> exact List.all_eq_true.mp rfl

theorem IsIntegerRun.ne_nil {run : List Char} (h : IsIntegerRun run) : run ≠ [] := by
  cases h with
  | based _ _ _ => exact List.cons_ne_nil _ _
  | decimal _ hne _ => exact List.append_ne_nil_of_right_ne_nil _ hne

/-! ### An integer is no date and no float -/

/-- Among the first two characters there is a mark or a sign, or everything is a decimal digit or
an underscore. -/
theorem IsIntegerRun.exists_or_forall {run : List Char} (h : IsIntegerRun run) :
    (∃ c ∈ run.take 2, Text.isDigitOf 10 c = false) ∨
      ∀ c ∈ run, c = '_' ∨ Text.isDigitOf 10 c = true := by
  cases h with
  | @based base mark s _ hmark _ =>
    refine .inl ⟨mark, List.mem_cons_of_mem _ List.mem_cons_self, ?_⟩
    simp only [List.mem_cons, List.not_mem_nil, or_false] at hmark
    rcases hmark with rfl | rfl | rfl <;> decide
  | @decimal sign s hsign _ hs =>
    rcases hsign with rfl | rfl | rfl
    · exact .inr hs
    · exact .inl ⟨'+', List.mem_cons_self, by decide⟩
    · exact .inl ⟨'-', List.mem_cons_self, by decide⟩

theorem IsIntegerRun.afterDate?_eq_none {run : List Char} (h : IsIntegerRun run) :
    afterDate? run = none := by
  rw [afterDate?.eq_def]
  split
  · rename_i a b c d e f g i rest
    rcases h.exists_or_forall with ⟨x, hx, hdigit⟩ | hall
    · have hmem : x ∈ [a, b, c, d] :=
        List.mem_of_mem_take (i := 2) hx
      rw [Text.number?_eq_none hdigit hmem]
      rfl
    · exact absurd (hall '-' (by simp)) (by decide)
  · rfl

theorem IsIntegerRun.afterMinute?_eq_none {run : List Char} (h : IsIntegerRun run) :
    afterMinute? run = none := by
  rw [afterMinute?.eq_def]
  split
  · rename_i a b c d rest
    rcases h.exists_or_forall with ⟨x, hx, hdigit⟩ | hall
    · have hmem : x ∈ [a, b] := hx
      rw [Text.number?_eq_none hdigit hmem]
      rfl
    · exact absurd (hall ':' (by simp)) (by decide)
  · rfl

theorem IsIntegerRun.isDatetime_eq_false {run : List Char} (h : IsIntegerRun run) :
    isDate run = false ∧ isDatetime run = false := by
  have hdate : isDate run = false := by
    rw [isDate, h.afterDate?_eq_none]
    rfl
  have htime : isTime run = false := by
    rw [isTime, afterTime?, h.afterMinute?_eq_none]
    rfl
  refine ⟨hdate, ?_⟩
  rw [isDatetime, hdate, htime, h.afterDate?_eq_none]
  rfl

theorem cutWhere_cons_cons {p : Char → Bool} {a b : Char} (ha : p a = false) (hb : p b = false)
    (s : List Char) : Text.cutWhere p (a :: b :: s) =
      (Text.cutWhere p s).map fun (before, after) => (a :: b :: before, after) := by
  rw [Text.cutWhere, Text.cutWhere, ha, hb]
  cases Text.cutWhere p s <;> rfl

theorem isFloat_based {mark : Char} (hmark : mark ∈ ['x', 'o', 'b']) (s : List Char) :
    isFloat ('0' :: mark :: s) = false := by
  have hplain : mark ≠ '_' ∧ Text.isDigitOf 10 mark = false ∧ (mark == '.') = false ∧
      (mark == 'e' || mark == 'E') = false := by
    simp only [List.mem_cons, List.not_mem_nil, or_false] at hmark
    rcases hmark with rfl | rfl | rfl <;> decide
  obtain ⟨hunderscore, hdigit, hpoint, hexponent⟩ := hplain
  have hwhole : ∀ t, decimal? ('0' :: mark :: t) = none := by
    intro t
    rw [Option.eq_none_iff_forall_ne_some]
    intro digits h
    rcases (forall_of_decimal? h).2 mark (List.mem_cons_of_mem _ List.mem_cons_self) with hm | hm
    · exact hunderscore hm
    · rw [hdigit] at hm
      cases hm
  have hsign : cutSign ('0' :: mark :: s) = (1, '0' :: mark :: s) := rfl
  have hword : ¬ ('0' :: mark :: s = "inf".toList ∨ '0' :: mark :: s = "nan".toList) := by
    rintro (h | h) <;> exact absurd (List.cons.inj h).1 (by decide)
  have hmantissa : ∀ t, Text.cutAt '.' ('0' :: mark :: t) =
      (Text.cutAt '.' t).map fun (before, after) => ('0' :: mark :: before, after) :=
    cutWhere_cons_cons rfl hpoint
  simp only [isFloat, hsign, if_neg hword]
  rw [cutWhere_cons_cons rfl hexponent]
  cases Text.cutWhere (fun c => c == 'e' || c == 'E') s with
  | none =>
    simp only [Option.map_none, hmantissa]
    cases Text.cutAt '.' s <;> simp only [Option.map_none, Option.map_some, hwhole]
  | some cut =>
    simp only [Option.map_some, hmantissa]
    cases Text.cutAt '.' cut.1 <;> simp only [Option.map_none, Option.map_some, hwhole]

theorem isFloat_decimal {sign s : List Char} (hsign : IsSign sign)
    (hs : ∀ c ∈ s, c = '_' ∨ Text.isDigitOf 10 c = true) : isFloat (sign ++ s) = false := by
  have hnot : ∀ x, x ≠ '_' → Text.isDigitOf 10 x = false → x ∉ s := by
    intro x hunderscore hdigit hx
    rcases hs x hx with rfl | h
    · exact hunderscore rfl
    · rw [hdigit] at h
      cases h
  have hcut : ∃ factor, cutSign (sign ++ s) = (factor, s) := by
    rcases hsign with rfl | rfl | rfl
    · refine ⟨1, cutSign.eq_3 s ?_ ?_⟩ <;> rintro t rfl
      · exact hnot '-' (by decide) (by decide) List.mem_cons_self
      · exact hnot '+' (by decide) (by decide) List.mem_cons_self
    · exact ⟨1, rfl⟩
    · exact ⟨-1, rfl⟩
  obtain ⟨factor, hcut⟩ := hcut
  have hword : ¬ (s = "inf".toList ∨ s = "nan".toList) := by
    rintro (rfl | rfl)
    · exact hnot 'i' (by decide) (by decide) (by decide)
    · exact hnot 'a' (by decide) (by decide) (by decide)
  have hmark : Text.cutWhere (fun c => c == 'e' || c == 'E') s = none := by
    refine Text.cutWhere_eq_none fun c hc => ?_
    rw [Bool.or_eq_false_iff, beq_eq_false_iff_ne, beq_eq_false_iff_ne]
    constructor <;> rintro rfl
    · exact hnot 'e' (by decide) (by decide) hc
    · exact hnot 'E' (by decide) (by decide) hc
  have hpoint : s.contains '.' = false := by
    rw [List.contains_eq_mem, decide_eq_false_iff_not]
    exact hnot '.' (by decide) (by decide)
  simp only [isFloat, hcut, if_neg hword, hmark, hpoint, Bool.false_eq_true, if_false]
  split
  · rename_i heq
    cases heq
  · rfl

theorem IsIntegerRun.isFloat_eq_false {run : List Char} (h : IsIntegerRun run) :
    isFloat run = false := by
  cases h with
  | based _ hmark _ => exact isFloat_based hmark _
  | decimal hsign _ hs => exact isFloat_decimal hsign hs

/-- **An integer is read as such** if it fits in sixty-four bits, and is no value if it does not. -/
theorem ofWord?_of_anyInteger? {run : List Char} {n : Int} (h : anyInteger? run = some n) :
    ofWord? run = if fits n then some (.integer n) else none := by
  have hrun := isIntegerRun_of_anyInteger? h
  have hword : ∀ {word : List Char}, anyInteger? word = none → run ≠ word := by
    rintro _ hnone rfl
    cases h.symm.trans hnone
  have htrue : run ≠ "true".toList := hword (by decide)
  have hfalse : run ≠ "false".toList := hword (by decide)
  rw [ofWord?, if_neg htrue, if_neg hfalse, hrun.isDatetime_eq_false.2, hrun.isFloat_eq_false,
    if_neg Bool.false_ne_true, if_neg Bool.false_ne_true, integer?, h, Option.bind_some]
  split <;> rfl

/-! ## Values -/

/-- Nothing that could belong to a value follows it on its line. -/
def EndsValue (s : List Char) : Prop :=
  ∀ c t, s = c :: t → isGap c = true ∨ c = '#' ∨ c = '\n'

theorem endsValue_nil : EndsValue [] :=
  fun _ _ h => absurd h.symm (List.cons_ne_nil _ _)

theorem not_isWordChar {c : Char} (h : isGap c = true ∨ c = '#' ∨ c = '\n') :
    isWordChar c = false := by
  rw [isGap, Bool.or_eq_true, beq_iff_eq, beq_iff_eq] at h
  rcases h with (rfl | rfl) | rfl | rfl <;> rfl

section Runs

variable {run rest : List Char}

theorem takeWhile_isWordChar_append (hrun : ∀ c ∈ run, isWordChar c = true)
    (hrest : EndsValue rest) : (run ++ rest).takeWhile isWordChar = run := by
  rw [List.takeWhile_append_of_pos hrun]
  cases rest with
  | nil => rw [List.takeWhile_nil, List.append_nil]
  | cons c rest =>
    rw [List.takeWhile_cons, not_isWordChar (hrest c rest rfl), if_neg Bool.false_ne_true,
      List.append_nil]

theorem dropWhile_isWordChar_append (hrun : ∀ c ∈ run, isWordChar c = true)
    (hrest : EndsValue rest) : (run ++ rest).dropWhile isWordChar = rest := by
  rw [List.dropWhile_append_of_pos hrun]
  cases rest with
  | nil => rfl
  | cons c rest =>
    rw [List.dropWhile_cons, not_isWordChar (hrest c rest rfl), if_neg Bool.false_ne_true]

/-- **A run that is no date is read on its own**, whatever follows it. -/
theorem word?_append (hne : run ≠ []) (hrun : ∀ c ∈ run, isWordChar c = true)
    (hdate : isDate run = false) (hrest : EndsValue rest) :
    ∃ shorter, word? (run ++ rest) = (ofWord? run).map fun value => ⟨value, rest, shorter⟩ := by
  obtain ⟨c, s, rfl⟩ := List.exists_cons_of_ne_nil hne
  obtain ⟨hc, hs⟩ := List.forall_mem_cons.mp hrun
  have htake := takeWhile_isWordChar_append hrun hrest
  have hdrop := dropWhile_isWordChar_append hs hrest
  rw [List.cons_append] at htake ⊢
  have shorter : rest.length < (c :: (s ++ rest)).length := by
    rw [List.length_cons, List.length_append]
    omega
  refine ⟨shorter, ?_⟩
  rw [word?, hc, htake]
  dsimp only
  rw [if_neg (by decide)]
  split
  · rename_i hr _
    obtain rfl := hdrop.symm.trans hr
    rw [hdate]
    rfl
  · simp only [hdrop]

end Runs

/-- The text of a value on one line: a string, an integer within sixty-four bits, a truth value, or
whatever else is read as the value no matter what follows it on the line. -/
inductive SpellsValue : Toml → List Char → Prop
  | string {text : String} {s : List Char} (h : SpellsString text s) : SpellsValue (.string text) s
  | integer {n : Int} {run : List Char} (h : anyInteger? run = some n) (hfits : fits n = true) :
    SpellsValue (.integer n) run
  | boolTrue : SpellsValue (.bool true) ['t', 'r', 'u', 'e']
  | boolFalse : SpellsValue (.bool false) ['f', 'a', 'l', 's', 'e']
  | other {value : Toml} {s : List Char}
    (h : ∀ rest, EndsValue rest → Takes (value? maxDepth (s ++ rest)) value rest) :
    SpellsValue value s

theorem value?_maxDepth {c : Char} (hlist : c ≠ '[') (htable : c ≠ '\x7b') (s : List Char) :
    value? maxDepth (c :: s) = simple? (c :: s) := by
  rw [maxDepth, value?.eq_4]
  · rintro t ht
    exact hlist (List.cons.inj ht).1
  · rintro t ht
    exact htable (List.cons.inj ht).1

theorem simple?_of_isWordChar {c : Char} (hc : isWordChar c = true) (s : List Char) :
    simple? (c :: s) = word? (c :: s) := by
  rw [simple?.eq_3]
  · rintro t ht
    obtain ⟨rfl, -⟩ := List.cons.inj ht
    cases hc
  · rintro t ht
    obtain ⟨rfl, -⟩ := List.cons.inj ht
    cases hc

/-- A run that is no date is read as a value on its own. -/
theorem value?_append_of_run {run rest : List Char} (hne : run ≠ [])
    (hrun : ∀ c ∈ run, isWordChar c = true) (hdate : isDate run = false) (hrest : EndsValue rest) :
    ∃ shorter, value? maxDepth (run ++ rest) =
      (ofWord? run).map fun value => ⟨value, rest, shorter⟩ := by
  obtain ⟨shorter, hword⟩ := word?_append hne hrun hdate hrest
  obtain ⟨c, s, rfl⟩ := List.exists_cons_of_ne_nil hne
  have hc := hrun c List.mem_cons_self
  have hlist : c ≠ '[' := by
    rintro rfl
    cases hc
  have htable : c ≠ '\x7b' := by
    rintro rfl
    cases hc
  have hvalue := (value?_maxDepth hlist htable (s ++ rest)).trans (simple?_of_isWordChar hc _)
  exact ⟨shorter, hvalue.trans hword⟩

/-- The two quotes of an empty string are not followed by a third one, and the first character of
any other string is none. -/
theorem ne_two_quotes {quote : Char} {s rest : List Char} (hs : ∀ c t, s = c :: t → c ≠ quote)
    (hrest : ∀ t, rest ≠ quote :: t) (t : List Char) :
    s ++ quote :: rest ≠ quote :: quote :: t := by
  intro h
  cases s with
  | nil => exact hrest t (List.cons.inj h).2
  | cons c s => exact hs c s rfl (List.cons.inj h).1

theorem SpellsChars.head_ne {text s : List Char} (h : SpellsChars text s) :
    ∀ c t, s = c :: t → c ≠ '"' := by
  cases h with
  | nil => exact nofun
  | cons h _ =>
    cases h with
    | plain _ hquote _ =>
      rintro _ _ ⟨⟩
      exact hquote
    | escaped _ =>
      rintro _ _ ⟨⟩
      decide

/-- **A string is read up to its closing quote.** -/
theorem SpellsString.takes_value? {text : String} {s rest : List Char} (h : SpellsString text s)
    (hrest : EndsValue rest) : Takes (value? maxDepth (s ++ rest)) (.string text) rest := by
  have hquote : ∀ quote, quote ∈ ['"', '\''] → ∀ t, rest ≠ quote :: t := by
    intro quote hquote t ht
    simp only [List.mem_cons, List.not_mem_nil, or_false] at hquote
    rcases hquote with rfl | rfl <;> exact absurd (hrest _ t ht) (by decide)
  cases h with
  | @escaped text s h =>
    have htaken := ((h.takes_escaped? rest).behind '"').map
      fun text => Toml.string (String.ofList text)
    rw [List.cons_append, List.append_assoc, value?_maxDepth (by decide) (by decide), simple?,
      quoted?.eq_3]
    · exact htaken
    · exact ne_two_quotes h.head_ne (hquote '"' (by decide))
  | @verbatim s h =>
    have htaken := ((takes_verbatim? h rest).behind '\'').map
      fun text => Toml.string (String.ofList text)
    rw [List.cons_append, List.append_assoc, value?_maxDepth (by decide) (by decide), simple?,
      quoted?.eq_4]
    · exact htaken
    · refine ne_two_quotes ?_ (hquote '\'' (by decide))
      rintro c t rfl
      exact (h c List.mem_cons_self).2

/-- **A value is read up to what follows it on its line.** -/
theorem SpellsValue.takes_value? {value : Toml} {s rest : List Char} (h : SpellsValue value s)
    (hrest : EndsValue rest) : Takes (value? maxDepth (s ++ rest)) value rest := by
  cases h with
  | string h => exact h.takes_value? hrest
  | integer h hfits =>
    have hrun := isIntegerRun_of_anyInteger? h
    obtain ⟨shorter, hvalue⟩ := value?_append_of_run hrun.ne_nil hrun.forall_isWordChar
      hrun.isDatetime_eq_false.1 hrest
    rw [ofWord?_of_anyInteger? h, if_pos hfits] at hvalue
    exact ⟨shorter, hvalue⟩
  | boolTrue => exact value?_append_of_run (by decide) (List.all_eq_true.mp rfl) rfl hrest
  | boolFalse => exact value?_append_of_run (by decide) (List.all_eq_true.mp rfl) rfl hrest
  | other h => exact h rest hrest

/-- **An integer that does not fit in sixty-four bits is not read.** -/
theorem value?_eq_none_of_anyInteger? {n : Int} {run rest : List Char}
    (h : anyInteger? run = some n) (hfits : fits n = false) (hrest : EndsValue rest) :
    value? maxDepth (run ++ rest) = none := by
  have hrun := isIntegerRun_of_anyInteger? h
  obtain ⟨shorter, hvalue⟩ := value?_append_of_run hrun.ne_nil hrun.forall_isWordChar
    hrun.isDatetime_eq_false.1 hrest
  rwa [ofWord?_of_anyInteger? h, hfits, if_neg Bool.false_ne_true, Option.map_none] at hvalue

/-- A value does not begin with a space or a tab. -/
theorem SpellsValue.exists_cons {value : Toml} {s : List Char} (h : SpellsValue value s) :
    ∃ c t, s = c :: t ∧ isGap c = false := by
  obtain ⟨_, htaken⟩ := h.takes_value? endsValue_nil
  match s with
  | [] => cases htaken
  | c :: t =>
    refine ⟨c, t, rfl, Bool.eq_false_iff.mpr fun hgap => ?_⟩
    rw [isGap, Bool.or_eq_true, beq_iff_eq, beq_iff_eq] at hgap
    rcases hgap with rfl | rfl <;> cases htaken

/-! ## Every string and every integer can be written

The text that is found has no carriage return, so that line ends make no difference to it. -/

theorem scalar?_control : ∀ n < 0x80, scalar? ['0', '0', Text.hexDigit (n / 16),
    Text.hexDigit (n % 16)] = some (Char.ofNat n) ∧
      '\r' ∉ ['\\', 'u', '0', '0', Text.hexDigit (n / 16), Text.hexDigit (n % 16)] := by
  decide

theorem exists_spellsChar (c : Char) : ∃ s, SpellsChar c s ∧ '\r' ∉ s := by
  by_cases hquote : c = '"'
  · rw [hquote]
    exact ⟨_, .escaped (.marked List.mem_cons_self), by decide⟩
  by_cases hslash : c = '\\'
  · rw [hslash]
    exact ⟨_, .escaped (.marked (List.mem_cons_of_mem _ List.mem_cons_self)), by decide⟩
  by_cases htext : isTextChar c = true
  · refine ⟨[c], .plain htext hquote hslash, fun hmem => ?_⟩
    rw [← List.mem_singleton.mp hmem] at htext
    cases htext
  have hlt : c.toNat < 0x80 := by
    rw [isTextChar, Bool.or_eq_true, Bool.and_eq_true, decide_eq_true_eq, bne_iff_ne] at htext
    omega
  obtain ⟨hscalar, hreturn⟩ := scalar?_control c.toNat hlt
  rw [Char.ofNat_toNat] at hscalar
  exact ⟨_, .escaped (.short hscalar), hreturn⟩

theorem exists_spellsChars (text : List Char) : ∃ s, SpellsChars text s ∧ '\r' ∉ s := by
  induction text with
  | nil => exact ⟨[], .nil, List.not_mem_nil⟩
  | cons c text ih =>
    obtain ⟨s, hs, hreturn⟩ := exists_spellsChar c
    obtain ⟨t, ht, hreturn'⟩ := ih
    exact ⟨s ++ t, .cons hs ht, List.not_mem_append hreturn hreturn'⟩

theorem exists_spellsString (text : String) : ∃ s, SpellsString text s ∧ '\r' ∉ s := by
  obtain ⟨s, hs, hreturn⟩ := exists_spellsChars text.toList
  have hstring := SpellsString.escaped hs
  rw [String.ofList_toList] at hstring
  refine ⟨_, hstring, ?_⟩
  exact List.not_mem_cons_of_ne_of_not_mem (by decide) (List.not_mem_append hreturn (by decide))

theorem decimal?_toDigits (n : Nat) :
    decimal? (Nat.toDigits 10 n) = some (Nat.toDigits 10 n) := by
  have hdigits : ∀ c ∈ Nat.toDigits 10 n, c.isDigit = true :=
    fun c hc => Nat.isDigit_of_mem_toDigits (by decide) (by decide) hc
  have hunderscore : '_' ∉ Nat.toDigits 10 n := fun h => absurd (hdigits _ h) (by decide)
  have hgroup : (!(Nat.toDigits 10 n).isEmpty && (Nat.toDigits 10 n).all (Text.isDigitOf 10)) =
      true := by
    rw [Bool.and_eq_true, Bool.not_eq_true', List.isEmpty_eq_false_iff, List.all_eq_true]
    exact ⟨Nat.toDigits_ne_nil, fun c hc => Text.isDigitOf_of_isDigit (hdigits c hc)⟩
  have hread : digitsOf? 10 (Nat.toDigits 10 n) = some (Nat.toDigits 10 n) := by
    simp only [digitsOf?, Text.splitOn_eq_self hunderscore, List.all_cons, List.all_nil, hgroup,
      Bool.and_true, if_true, List.flatten_cons, List.flatten_nil, List.append_nil]
  have hzero : (1 < (Nat.toDigits 10 n).length && (Nat.toDigits 10 n).head? == some '0') =
      false := by
    rcases Nat.eq_zero_or_pos n with rfl | hpos
    · decide
    · obtain ⟨c, d, hcons, hc⟩ := Text.exists_toDigits_eq_cons hpos
      have hhead : (some c == some '0') = false := beq_eq_false_iff_ne.mpr fun h =>
        hc (Option.some.inj h)
      rw [hcons, List.head?_cons, hhead, Bool.and_false]
  rw [decimal?, hread, Option.bind_some, hzero]
  rfl

theorem anyInteger?_plus (m : Nat) : anyInteger? ('+' :: Nat.toDigits 10 m) = some (m : Int) := by
  show (decimal? (Nat.toDigits 10 m)).map (fun digits => (1 : Int) * Text.numberOf 10 digits) = _
  rw [decimal?_toDigits, Option.map_some, Text.numberOf_toDigits, Int.one_mul]

theorem anyInteger?_minus (m : Nat) :
    anyInteger? ('-' :: Nat.toDigits 10 m) = some (-(m : Int)) := by
  show (decimal? (Nat.toDigits 10 m)).map (fun digits => (-1 : Int) * Text.numberOf 10 digits) = _
  rw [decimal?_toDigits, Option.map_some, Text.numberOf_toDigits, Int.neg_one_mul]

theorem exists_anyInteger? (n : Int) : ∃ run, anyInteger? run = some n := by
  cases n with
  | ofNat m => exact ⟨_, anyInteger?_plus m⟩
  | negSucc m => exact ⟨_, anyInteger?_minus (m + 1)⟩

/-- Strings, truth values, and integers within sixty-four bits. -/
def IsPlain : Toml → Prop
  | .string _ | .bool _ => True
  | .integer n => fits n = true
  | _ => False

theorem IsPlain.exists_spellsValue {value : Toml} (h : IsPlain value) :
    ∃ s, SpellsValue value s ∧ '\r' ∉ s := by
  cases value with
  | string text =>
    obtain ⟨s, hs, hreturn⟩ := exists_spellsString text
    exact ⟨s, .string hs, hreturn⟩
  | integer n =>
    obtain ⟨run, hrun⟩ := exists_anyInteger? n
    refine ⟨run, .integer hrun h, fun hmem => ?_⟩
    cases (isIntegerRun_of_anyInteger? hrun).forall_isWordChar _ hmem
  | bool b =>
    cases b with
    | false => exact ⟨_, .boolFalse, by decide⟩
    | true => exact ⟨_, .boolTrue, by decide⟩
  | _ => exact h.elim

end LiteralRows.Toml
