import LiteralRows.Proofs.Text.Digits
import LiteralRows.Token.Numeric

/-!
# Numerals

The texts that may stand bare in SQL, as a grammar that does not mention how they are read:

    numeral     sign magnitude exponent
    sign        nothing, + or -
    magnitude   digits, digits '.', digits '.' digits, or '.' digits
    exponent    nothing, or e or E, a sign and digits

`numeral_of_isNumeric` says that the lexical test lets nothing else through,
`Numeral.isNumeric_eq` that it lets all of them through, and `Numeral.forall_mem` that nothing in a
numeral could end it or make it look like another literal.
-/

namespace LiteralRows.Token

open Text (EndsDigits endsDigits_cons endsDigits_nil)

/-- One of the ten ASCII digits. -/
def IsDigit (c : Char) : Prop :=
  '0' ≤ c ∧ c ≤ '9'

instance : DecidablePred IsDigit := fun c => inferInstanceAs (Decidable ('0' ≤ c ∧ c ≤ '9'))

/-- At least one digit, and nothing else. -/
inductive Digits : List Char → Prop
  | one {c : Char} (h : IsDigit c) : Digits [c]
  | cons {c : Char} {s : List Char} (h : IsDigit c) (more : Digits s) : Digits (c :: s)

inductive Sign : List Char → Prop
  | absent : Sign []
  | plus : Sign ['+']
  | minus : Sign ['-']

inductive Magnitude : List Char → Prop
  | whole {a : List Char} (ha : Digits a) : Magnitude a
  | pointed {a : List Char} (ha : Digits a) : Magnitude (a ++ ['.'])
  | mixed {a b : List Char} (ha : Digits a) (hb : Digits b) : Magnitude (a ++ '.' :: b)
  | fraction {b : List Char} (hb : Digits b) : Magnitude ('.' :: b)

inductive Exponent : List Char → Prop
  | absent : Exponent []
  | marked {mark : Char} {s d : List Char} (hmark : mark = 'e' ∨ mark = 'E') (hs : Sign s)
    (hd : Digits d) : Exponent (mark :: (s ++ d))

inductive Numeral : List Char → Prop
  | mk {s m e : List Char} (hs : Sign s) (hm : Magnitude m) (he : Exponent e) :
    Numeral (s ++ (m ++ e))

/-! ## What the lexical test lets through -/

theorem isDigit_iff {c : Char} : c.isDigit = true ↔ IsDigit c := by
  simp only [Char.isDigit, IsDigit, Char.le_def, Bool.and_eq_true, decide_eq_true_eq, ge_iff_le]

theorem digits_of_forall_isDigit {s : List Char} (hne : s ≠ []) (h : ∀ c ∈ s, c.isDigit = true) :
    Digits s := by
  induction s with
  | nil => exact absurd rfl hne
  | cons c s ih =>
    have hc : IsDigit c := isDigit_iff.mp (h c List.mem_cons_self)
    cases s with
    | nil => exact .one hc
    | cons d s =>
      exact .cons hc (ih (List.cons_ne_nil d s) fun x hx => h x (List.mem_cons_of_mem c hx))

theorem sign_append_afterSign (s : List Char) : ∃ sign, Sign sign ∧ s = sign ++ afterSign s := by
  unfold afterSign
  split
  · exact ⟨['+'], .plus, rfl⟩
  · exact ⟨['-'], .minus, rfl⟩
  · exact ⟨[], .absent, rfl⟩

theorem cutDigits_append (s : List Char) : (cutDigits s).1 ++ (cutDigits s).2 = s :=
  List.takeWhile_append_dropWhile

/-- The digits that were cut off are digits of the grammar, if there are any. -/
theorem digits_cutDigits {s : List Char} (h : (cutDigits s).1 ≠ []) : Digits (cutDigits s).1 :=
  digits_of_forall_isDigit h (List.all_eq_true.mp List.all_takeWhile)

theorem exponent_of_isExponent {s : List Char} (h : isExponent s = true) : Exponent s := by
  cases s with
  | nil => exact .absent
  | cons mark s =>
    simp only [isExponent, Bool.and_eq_true, Bool.or_eq_true, beq_iff_eq, Bool.not_eq_true',
      List.isEmpty_eq_false_iff, List.all_eq_true] at h
    obtain ⟨⟨hmark, hne⟩, hall⟩ := h
    obtain ⟨sign, hsign, hs⟩ := sign_append_afterSign s
    rw [hs]
    exact .marked hmark hsign (digits_of_forall_isDigit hne hall)

/-- The whole part and the fraction that are cut off are a magnitude, unless both are empty. -/
theorem magnitude_cut {s : List Char}
    (h : (cutDigits s).1 ≠ [] ∨ (cutFraction (cutDigits s).2).1 ≠ []) :
    ∃ m, Magnitude m ∧ s = m ++ (cutFraction (cutDigits s).2).2 := by
  have hs : s = (cutDigits s).1 ++ (cutDigits s).2 := (cutDigits_append s).symm
  generalize hrest : (cutDigits s).2 = rest at h hs ⊢
  unfold cutFraction at h ⊢
  split at h <;> rename_i after
  · have hafter : after = (cutDigits after).1 ++ (cutDigits after).2 :=
      (cutDigits_append after).symm
    by_cases hwhole : (cutDigits s).1 = []
    · have hfraction := h.resolve_left (fun hne => hne hwhole)
      refine ⟨_, .fraction (digits_cutDigits hfraction), ?_⟩
      rw [List.cons_append, ← hafter, hs, hwhole]
      rfl
    · by_cases hfraction : (cutDigits after).1 = []
      · refine ⟨_, .pointed (digits_cutDigits hwhole), ?_⟩
        rw [hfraction, List.nil_append] at hafter
        rw [List.append_assoc, ← hafter]
        exact hs
      · refine ⟨_, .mixed (digits_cutDigits hwhole) (digits_cutDigits hfraction), ?_⟩
        rw [List.append_assoc, List.cons_append, ← hafter]
        exact hs
  · have hwhole := h.resolve_right (fun hne => hne rfl)
    exact ⟨_, .whole (digits_cutDigits hwhole), hs⟩

/-- **Only numerals pass the lexical test.** -/
theorem numeral_of_isNumeric {s : List Char} (h : isNumeric s = true) : Numeral s := by
  simp only [isNumeric, Bool.and_eq_true, Bool.not_eq_true', Bool.and_eq_false_iff,
    List.isEmpty_eq_false_iff] at h
  obtain ⟨hdigits, hexponent⟩ := h
  obtain ⟨sign, hsign, hs⟩ := sign_append_afterSign s
  obtain ⟨m, hm, hrest⟩ := magnitude_cut hdigits
  rw [hs, hrest]
  exact .mk hsign hm (exponent_of_isExponent hexponent)

/-! ## The characters of a numeral -/

/-- The character may occur in a numeral. -/
def IsNumeralChar (c : Char) : Prop :=
  IsDigit c ∨ c ∈ ['+', '-', '.', 'e', 'E']

instance : DecidablePred IsNumeralChar :=
  fun c => inferInstanceAs (Decidable (IsDigit c ∨ c ∈ ['+', '-', '.', 'e', 'E']))

theorem Digits.forall_mem {s : List Char} (h : Digits s) : ∀ c ∈ s, IsNumeralChar c := by
  induction h with
  | one h => exact List.forall_mem_singleton.mpr (.inl h)
  | cons h _ ih => exact List.forall_mem_cons.mpr ⟨.inl h, ih⟩

theorem Digits.ne_nil {s : List Char} (h : Digits s) : s ≠ [] := by
  cases h <;> exact List.cons_ne_nil _ _

theorem Sign.forall_mem {s : List Char} (h : Sign s) : ∀ c ∈ s, IsNumeralChar c := by
  cases h with
  | absent => exact List.forall_mem_nil _
  | plus => exact List.forall_mem_singleton.mpr (by decide)
  | minus => exact List.forall_mem_singleton.mpr (by decide)

theorem Magnitude.forall_mem {s : List Char} (h : Magnitude s) : ∀ c ∈ s, IsNumeralChar c := by
  have hpoint : IsNumeralChar '.' := by decide
  cases h with
  | whole ha => exact ha.forall_mem
  | pointed ha =>
    exact List.forall_mem_append.mpr ⟨ha.forall_mem, List.forall_mem_singleton.mpr hpoint⟩
  | mixed ha hb =>
    exact List.forall_mem_append.mpr
      ⟨ha.forall_mem, List.forall_mem_cons.mpr ⟨hpoint, hb.forall_mem⟩⟩
  | fraction hb => exact List.forall_mem_cons.mpr ⟨hpoint, hb.forall_mem⟩

theorem Magnitude.ne_nil {s : List Char} (h : Magnitude s) : s ≠ [] := by
  cases h with
  | whole ha => exact ha.ne_nil
  | pointed ha => exact List.append_ne_nil_of_left_ne_nil ha.ne_nil _
  | mixed ha hb => exact List.append_ne_nil_of_left_ne_nil ha.ne_nil _
  | fraction hb => exact List.cons_ne_nil _ _

theorem Exponent.forall_mem {s : List Char} (h : Exponent s) : ∀ c ∈ s, IsNumeralChar c := by
  cases h with
  | absent => exact List.forall_mem_nil _
  | marked hmark hs hd =>
    refine List.forall_mem_cons.mpr ⟨?_, List.forall_mem_append.mpr ⟨hs.forall_mem, hd.forall_mem⟩⟩
    rcases hmark with rfl | rfl <;> decide

/-- **A numeral holds signs, digits, points and exponent marks only.** -/
theorem Numeral.forall_mem {s : List Char} (h : Numeral s) : ∀ c ∈ s, IsNumeralChar c := by
  cases h with
  | mk hs hm he =>
    exact List.forall_mem_append.mpr
      ⟨hs.forall_mem, List.forall_mem_append.mpr ⟨hm.forall_mem, he.forall_mem⟩⟩

theorem Numeral.ne_nil {s : List Char} (h : Numeral s) : s ≠ [] := by
  cases h with
  | mk hs hm he =>
    exact List.append_ne_nil_of_right_ne_nil _ (List.append_ne_nil_of_left_ne_nil hm.ne_nil _)

/-! ## Numerals pass the lexical test -/

theorem Digits.forall_isDigit {s : List Char} (h : Digits s) : ∀ c ∈ s, c.isDigit = true := by
  induction h with
  | one h => exact List.forall_mem_singleton.mpr (isDigit_iff.mpr h)
  | cons h _ ih => exact List.forall_mem_cons.mpr ⟨isDigit_iff.mpr h, ih⟩

/-- Digits are cut off as they stand, up to the first character that is none. -/
theorem cutDigits_append_eq {d s : List Char} (hd : ∀ c ∈ d, c.isDigit = true)
    (hs : EndsDigits s) : cutDigits (d ++ s) = (d, s) := by
  rw [cutDigits, Text.takeWhile_isDigit_append hd hs, Text.dropWhile_isDigit_append hd hs]

theorem cutDigits_eq_self {s : List Char} (h : EndsDigits s) : cutDigits s = ([], s) :=
  cutDigits_append_eq (List.forall_mem_nil _) h

/-- The text does not begin with a sign. -/
def IsUnsigned (s : List Char) : Prop :=
  ∀ c s', s = c :: s' → c ≠ '+' ∧ c ≠ '-'

theorem isUnsigned_cons {c : Char} (h : c ≠ '+' ∧ c ≠ '-') (s : List Char) :
    IsUnsigned (c :: s) := by
  rintro _ _ ⟨⟩
  exact h

theorem Digits.isUnsigned_append {d : List Char} (h : Digits d) (s : List Char) :
    IsUnsigned (d ++ s) := by
  obtain ⟨c, d, rfl⟩ := List.exists_cons_of_ne_nil h.ne_nil
  have hc := h.forall_isDigit c List.mem_cons_self
  refine isUnsigned_cons ⟨?_, ?_⟩ _ <;>
  · rintro rfl
    exact absurd hc (by decide)

theorem Magnitude.isUnsigned_append {m : List Char} (h : Magnitude m) (s : List Char) :
    IsUnsigned (m ++ s) := by
  cases h with
  | whole ha => exact ha.isUnsigned_append s
  | pointed ha =>
    rw [List.append_assoc]
    exact ha.isUnsigned_append _
  | mixed ha hb =>
    rw [List.append_assoc]
    exact ha.isUnsigned_append _
  | fraction hb => exact isUnsigned_cons (by decide) _

/-- The sign is taken off a text that goes on without another one. -/
theorem Sign.afterSign_append {sign s : List Char} (h : Sign sign) (hs : IsUnsigned s) :
    afterSign (sign ++ s) = s := by
  cases h with
  | absent =>
    rw [List.nil_append]
    unfold afterSign
    split
    · exact absurd rfl (hs _ _ rfl).1
    · exact absurd rfl (hs _ _ rfl).2
    · rfl
  | plus => rfl
  | minus => rfl

/-- An exponent ends the digits before it, and a point does not begin it. -/
theorem Exponent.endsDigits {e : List Char} (h : Exponent e) :
    EndsDigits e ∧ cutFraction e = ([], e) := by
  cases h with
  | absent => exact ⟨endsDigits_nil, rfl⟩
  | marked hmark hs hd =>
    rcases hmark with rfl | rfl
    · exact ⟨endsDigits_cons rfl _, rfl⟩
    · exact ⟨endsDigits_cons rfl _, rfl⟩

theorem Exponent.isExponent_eq {e : List Char} (h : Exponent e) : isExponent e = true := by
  cases h with
  | absent => rfl
  | @marked mark s d hmark hs hd =>
    have hne : d.isEmpty = false := List.isEmpty_eq_false_iff.mpr hd.ne_nil
    have hall : d.all Char.isDigit = true := List.all_eq_true.mpr hd.forall_isDigit
    have hunsigned : IsUnsigned d := by
      rw [← List.append_nil d]
      exact hd.isUnsigned_append []
    rw [isExponent, hs.afterSign_append hunsigned, hne, hall]
    rcases hmark with rfl | rfl <;> rfl

/-- A magnitude is cut into its whole part and its fraction, one of which has digits; what follows
them is the exponent. -/
theorem Magnitude.cut_append {m e : List Char} (hm : Magnitude m) (he : Exponent e) :
    ∃ whole fraction after, cutDigits (m ++ e) = (whole, after) ∧
      cutFraction after = (fraction, e) ∧ (whole ≠ [] ∨ fraction ≠ []) := by
  obtain ⟨hends, hnone⟩ := he.endsDigits
  cases hm with
  | whole ha =>
    exact ⟨m, [], e, cutDigits_append_eq ha.forall_isDigit hends, hnone, .inl ha.ne_nil⟩
  | @pointed a ha =>
    refine ⟨a, [], '.' :: e, ?_, cutDigits_eq_self hends, .inl ha.ne_nil⟩
    rw [List.append_assoc]
    exact cutDigits_append_eq ha.forall_isDigit (endsDigits_cons rfl e)
  | @mixed a b ha hb =>
    refine ⟨a, b, '.' :: (b ++ e), ?_, cutDigits_append_eq hb.forall_isDigit hends, .inl ha.ne_nil⟩
    rw [List.append_assoc]
    exact cutDigits_append_eq ha.forall_isDigit (endsDigits_cons rfl _)
  | @fraction b hb =>
    exact ⟨[], b, '.' :: (b ++ e), cutDigits_eq_self (endsDigits_cons rfl _),
      cutDigits_append_eq hb.forall_isDigit hends, .inr hb.ne_nil⟩

/-- **Every numeral passes the lexical test.** -/
theorem Numeral.isNumeric_eq {s : List Char} (h : Numeral s) : isNumeric s = true := by
  cases h with
  | @mk sign m e hsign hm he =>
    obtain ⟨whole, fraction, after, hwhole, hfraction, hdigits⟩ := hm.cut_append he
    have hsome : (whole.isEmpty && fraction.isEmpty) = false := by
      rw [Bool.and_eq_false_iff, List.isEmpty_eq_false_iff, List.isEmpty_eq_false_iff]
      exact hdigits
    rw [isNumeric, hsign.afterSign_append (hm.isUnsigned_append e), hwhole]
    dsimp only
    rw [hfraction, hsome, he.isExponent_eq]
    rfl

end LiteralRows.Token
