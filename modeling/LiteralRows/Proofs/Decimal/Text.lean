import LiteralRows.Proofs.Decimal.Shortest
import LiteralRows.Proofs.Token.Numeral

/-!
# The texts of doubles

A finite double is written with a minus or without, with digits, and with a fraction, an exponent or
both (`IsReal`).  This holds for zeros of either sign, for positional texts and for texts with a
power of ten alike (`isReal_text`), because the shortest decimal always has digits.

Such a text is a numeral, and not the text of an integer: a point or an exponent mark stands in it.

The text of an integer is a minus or none, and digits (`isInteger_toString`), and the integer is
read back from it (`toInt?_toString`).
-/

namespace LiteralRows.Decimal

open Token (Digits Sign Magnitude Exponent Numeral digits_of_forall_isDigit)

/-- A minus, or nothing. -/
inductive Minus : List Char → Prop
  | absent : Minus []
  | given : Minus ['-']

/-- A point and digits, or nothing. -/
inductive Fraction : List Char → Prop
  | absent : Fraction []
  | given {d : List Char} (hd : Digits d) : Fraction ('.' :: d)

/-- An exponent mark, a minus or none, and digits; or nothing. -/
inductive PowerOfTen : List Char → Prop
  | absent : PowerOfTen []
  | given {s d : List Char} (hs : Minus s) (hd : Digits d) : PowerOfTen ('e' :: (s ++ d))

/-- The text of a real: a minus or none, digits, and a fraction, an exponent or both. -/
inductive IsReal : List Char → Prop
  | mk {s d f e : List Char} (hs : Minus s) (hd : Digits d) (hf : Fraction f) (he : PowerOfTen e)
    (hne : f ≠ [] ∨ e ≠ []) : IsReal (s ++ (d ++ (f ++ e)))

/-- The text of an integer: a minus or none, and digits. -/
inductive IsInteger : List Char → Prop
  | mk {s d : List Char} (hs : Minus s) (hd : Digits d) : IsInteger (s ++ d)

/-! ## Reals and integers among the numerals -/

theorem Minus.sign {s : List Char} (h : Minus s) : Sign s := by
  cases h with
  | absent => exact .absent
  | given => exact .minus

theorem Fraction.magnitude {d f : List Char} (h : Fraction f) (hd : Digits d) :
    Magnitude (d ++ f) := by
  cases h with
  | absent =>
    rw [List.append_nil]
    exact .whole hd
  | given hf => exact .mixed hd hf

theorem PowerOfTen.exponent {e : List Char} (h : PowerOfTen e) : Exponent e := by
  cases h with
  | absent => exact .absent
  | given hs hd => exact .marked (.inl rfl) hs.sign hd

/-- **A real is a numeral.** -/
theorem IsReal.numeral {s : List Char} (h : IsReal s) : Numeral s := by
  cases h with
  | @mk s d f e hs hd hf he _ =>
    have hnumeral := Numeral.mk hs.sign (hf.magnitude hd) he.exponent
    rwa [List.append_assoc] at hnumeral

/-- **An integer is a numeral.** -/
theorem IsInteger.numeral {s : List Char} (h : IsInteger s) : Numeral s := by
  cases h with
  | @mk s d hs hd =>
    have hnumeral := Numeral.mk hs.sign (.whole hd) .absent
    rwa [List.append_nil] at hnumeral

/-- A real has a point or an exponent mark. -/
theorem IsReal.mem {s : List Char} (h : IsReal s) : '.' ∈ s ∨ 'e' ∈ s := by
  cases h with
  | @mk s d f e hs hd hf he hne =>
    have hpart : ∀ c, c ∈ f ∨ c ∈ e → c ∈ s ++ (d ++ (f ++ e)) := fun c hc =>
      List.mem_append_right s (List.mem_append_right d (List.mem_append.mpr hc))
    cases hf with
    | given _ => exact .inl (hpart _ (.inl List.mem_cons_self))
    | absent =>
      cases he with
      | given _ _ => exact .inr (hpart _ (.inr List.mem_cons_self))
      | absent => rcases hne with hne | hne <;> exact absurd rfl hne

theorem IsInteger.exists_append {s : List Char} (h : IsInteger s) :
    ∃ sign d, s = sign ++ d ∧ Minus sign ∧ Digits d := by
  cases h with
  | mk hs hd => exact ⟨_, _, rfl, hs, hd⟩

theorem IsInteger.forall_mem {s : List Char} (h : IsInteger s) :
    ∀ c ∈ s, c = '-' ∨ c.isDigit = true := by
  cases h with
  | mk hs hd =>
    intro c hc
    rcases List.mem_append.mp hc with hc | hc
    · cases hs with
      | absent => cases hc
      | given => exact .inl (List.mem_singleton.mp hc)
    · exact .inr (hd.forall_isDigit c hc)

/-- **No real is an integer.** -/
theorem IsReal.not_isInteger {s : List Char} (h : IsReal s) : ¬ IsInteger s := by
  intro hinteger
  rcases h.mem with hmem | hmem
  · exact absurd (hinteger.forall_mem _ hmem) (by decide)
  · exact absurd (hinteger.forall_mem _ hmem) (by decide)

/-! ## Texts of integers -/

theorem digits_toDigits (n : Nat) : Digits (Nat.toDigits 10 n) :=
  digits_of_forall_isDigit Nat.toDigits_ne_nil fun _ hc =>
    Nat.isDigit_of_mem_toDigits (by decide) (by decide) hc

theorem toList_toString_ofNat (n : Nat) : (toString (Int.ofNat n)).toList = Nat.toDigits 10 n := by
  show (Nat.repr n).toList = _
  rw [Nat.repr_eq_ofList_toDigits, String.toList_ofList]

theorem toList_toString_negSucc (n : Nat) :
    (toString (Int.negSucc n)).toList = '-' :: Nat.toDigits 10 (n + 1) := by
  show ("-" ++ Nat.repr (n + 1)).toList = _
  rw [String.toList_append, Nat.repr_eq_ofList_toDigits, String.toList_ofList, String.toList_ofList,
    List.singleton_append]

theorem isInteger_toString (n : Int) : IsInteger (toString n).toList := by
  cases n with
  | ofNat n =>
    rw [toList_toString_ofNat, ← List.nil_append (Nat.toDigits 10 n)]
    exact .mk .absent (digits_toDigits n)
  | negSucc n =>
    rw [toList_toString_negSucc, ← List.singleton_append]
    exact .mk .given (digits_toDigits (n + 1))

/-! ## Integers that are read back -/

/-- A loop that does the same at every item has done it if there is one. -/
theorem forIn_of_forall_yield {α β : Type} {f : α → β → Id (ForInStep β)} {b : β} :
    ∀ {l : List α}, l ≠ [] → (∀ x ∈ l, ∀ start, f x start = pure (.yield b)) →
      ∀ start, forIn l start f = pure b
  | [], hne, _, _ => absurd rfl hne
  | [x], _, h, start => by
    rw [List.forIn_cons, h x List.mem_cons_self]
    rfl
  | x :: y :: l, _, h, start => by
    rw [List.forIn_cons, h x List.mem_cons_self]
    exact forIn_of_forall_yield (List.cons_ne_nil y l)
      (fun z hz => h z (List.mem_cons_of_mem x hz)) b

section Slice

variable {d : List Char} {s : String.Slice}

theorem isNat_of_digits (hd : Digits d) (hs : s.copy.toList = d) : s.isNat = true := by
  -- The loop remembers whether it stands behind a digit, which it does after every step.
  rw [String.Slice.isNat]
  dsimp only
  rw [String.Slice.forIn_eq_forIn_toList, hs, forIn_of_forall_yield (b := (none, true)) hd.ne_nil]
  · rfl
  · intro c hc start
    have hdigit := hd.forall_isDigit c hc
    rw [if_neg (Text.ne_of_isDigit hdigit rfl), if_pos hdigit]

/-- Digits are read as their number. -/
theorem toNat?_of_digits (hd : Digits d) (hs : s.copy.toList = d) :
    s.toNat? = some (Text.numberOf 10 d) := by
  rw [String.Slice.toNat?, if_pos (isNat_of_digits hd hs), String.Slice.foldl_eq_foldl_toList, hs,
    Text.numberOf]
  congr 1
  refine List.foldl_ext _ _ _ fun n c hc => ?_
  have hdigit := hd.forall_isDigit c hc
  rw [if_neg (Text.ne_of_isDigit hdigit rfl), Text.hexValue?_of_isDigit hdigit, Option.getD_some]

end Slice

/-- **The text of an integer is read as that integer.** -/
theorem toInt?_toString (n : Int) : (toString n).toInt? = some n := by
  rw [String.toInt?, String.Slice.toInt?]
  cases n with
  | ofNat n =>
    have hplain : (toString (Int.ofNat n)).toSlice.dropPrefix? '-' = none := by
      rw [String.Slice.dropPrefix?_eq_none_iff, String.Slice.startsWith_char_eq_head?,
        String.copy_toSlice, toList_toString_ofNat]
      refine beq_eq_false_iff_ne.mpr fun hhead => ?_
      have hdigit := (digits_toDigits n).forall_isDigit '-' (List.mem_of_mem_head? hhead)
      exact absurd hdigit (by decide)
    have hdigits : (toString (Int.ofNat n)).toSlice.copy.toList = Nat.toDigits 10 n := by
      rw [String.copy_toSlice, toList_toString_ofNat]
    rw [hplain]
    dsimp only
    rw [toNat?_of_digits (digits_toDigits n) hdigits, Text.numberOf_toDigits]
    rfl
  | negSucc n =>
    have hminus : (toString (Int.negSucc n)).toSlice.dropPrefix? '-' ≠ none := by
      rw [Ne, String.Slice.dropPrefix?_eq_none_iff, String.Slice.startsWith_char_eq_head?,
        String.copy_toSlice, toList_toString_negSucc, List.head?_cons, beq_self_eq_true]
      exact Bool.false_ne_true.symm
    obtain ⟨rest, hrest⟩ := Option.ne_none_iff_exists'.mp hminus
    have hcopy := String.Slice.eq_append_of_dropPrefix?_char_eq_some hrest
    rw [String.copy_toSlice, ← String.toList_inj, toList_toString_negSucc,
      String.toList_append] at hcopy
    have hdigits : rest.copy.toList = Nat.toDigits 10 (n + 1) := (List.cons.inj hcopy).2.symm
    rw [hrest]
    dsimp only
    rw [toNat?_of_digits (digits_toDigits (n + 1)) hdigits, Text.numberOf_toDigits]
    rfl

/-! ## Texts of decimals -/

section Scientific

variable {s : Scientific} {sign : List Char}

theorem isReal_of_digits (hs : Minus sign) {whole fraction : List Char} (hw : Digits whole)
    (hf : Digits fraction) : IsReal (sign ++ (whole ++ '.' :: fraction)) := by
  have hreal := IsReal.mk hs hw (.given hf) .absent (.inl (List.cons_ne_nil _ _))
  rwa [List.append_nil] at hreal

theorem isDigit_of_mem_zeros {n : Nat} {c : Char} (h : c ∈ List.replicate n '0') :
    c.isDigit = true := by
  rw [List.eq_of_mem_replicate h]
  rfl

theorem isReal_positional (hs : Minus sign) (hne : s.digits ≠ [])
    (hd : ∀ c ∈ s.digits, c.isDigit = true) : IsReal (sign ++ s.positional) := by
  rw [Scientific.positional]
  split
  · refine isReal_of_digits hs (.one (by decide)) (digits_of_forall_isDigit ?_ ?_)
    · exact List.append_ne_nil_of_right_ne_nil _ hne
    · exact List.forall_mem_append.mpr ⟨fun c => isDigit_of_mem_zeros, hd⟩
  · dsimp only
    generalize hpadded : s.digits ++
      List.replicate (s.exponent.toNat + 1 - s.digits.length) '0' = padded
    have hall : ∀ c ∈ padded, c.isDigit = true := by
      rw [← hpadded]
      exact List.forall_mem_append.mpr ⟨hd, fun c => isDigit_of_mem_zeros⟩
    have hlength : s.exponent.toNat + 1 ≤ padded.length := by
      rw [← hpadded, List.length_append, List.length_replicate]
      omega
    have hwhole : padded.take (s.exponent.toNat + 1) ≠ [] := by
      rw [← List.length_pos_iff, List.length_take]
      omega
    refine isReal_of_digits hs (digits_of_forall_isDigit hwhole fun c hc =>
      hall c (List.mem_of_mem_take hc)) ?_
    split
    · exact .one (by decide)
    · rename_i hafter
      exact digits_of_forall_isDigit (fun hnil => hafter (List.isEmpty_iff.mpr hnil)) fun c hc =>
        hall c (List.mem_of_mem_drop hc)

theorem isReal_withExponent (hs : Minus sign) (hne : s.digits ≠ [])
    (hd : ∀ c ∈ s.digits, c.isDigit = true) : IsReal (sign ++ s.withExponent) := by
  have hpower : PowerOfTen ('e' :: (toString s.exponent).toList) := by
    obtain ⟨sign, d, htext, hsign, hexponent⟩ := (isInteger_toString s.exponent).exists_append
    rw [htext]
    exact .given hsign hexponent
  rw [Scientific.withExponent]
  split
  · exact absurd ‹s.digits = []› hne
  · rename_i d hdigits
    rw [hdigits] at hd
    have hwhole : Digits [d] := digits_of_forall_isDigit (List.cons_ne_nil _ _) hd
    exact .mk hs hwhole .absent hpower (.inr (List.cons_ne_nil _ _))
  · rename_i d more hmore hdigits
    rw [hdigits] at hd
    obtain ⟨hfirst, hd⟩ := List.forall_mem_cons.mp hd
    have hwhole : Digits [d] :=
      digits_of_forall_isDigit (List.cons_ne_nil _ _) (List.forall_mem_singleton.mpr hfirst)
    have hfraction : Digits more := digits_of_forall_isDigit hmore hd
    exact .mk hs hwhole (.given hfraction) hpower (.inr (List.cons_ne_nil _ _))

end Scientific

/-- **The text of a finite double is that of a real.** -/
theorem isReal_text {bits : UInt64} {negative : Bool} {m : Nat} {e : Int} {narrow : Bool}
    (h : Double.ofBits bits = .finite negative m e narrow) :
    IsReal (Double.ofBits bits).text := by
  have hminus : Minus (if negative then ['-'] else []) := by
    cases negative
    · exact .absent
    · exact .given
  rw [h, Double.text]
  generalize (if negative then ['-'] else []) = sign at hminus ⊢
  split
  · have hzero : Digits ['0'] := .one (by decide)
    exact isReal_of_digits hminus hzero hzero
  · rename_i hm
    obtain ⟨hne, hd⟩ := digits_shortest (isPositive_of_ofBits h hm)
    dsimp only
    split
    · exact isReal_positional hminus hne hd
    · exact isReal_withExponent hminus hne hd

end LiteralRows.Decimal
