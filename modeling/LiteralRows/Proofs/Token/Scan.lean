import LiteralRows.Proofs.Text.Case
import LiteralRows.Proofs.Text.Utf8
import LiteralRows.Proofs.Token.Numeral
import Mathlib.Data.List.TakeWhile

/-!
# The lexical test, place by place

`isNumeric` takes a text apart from the front.  The same test can be made by a place that goes over
the bytes of the text, from part to part:

    place    after the sign    after the digits    after the fraction    after the exponent
    left     afterSign s       (cutDigits _).2     (cutFraction _).2     nothing, or no numeral

Counting digits from a place is only possible if the place is not behind the end, and a place behind
a point or an exponent mark could well be.  `scan?` is that scan, with nothing for an answer where
it leaves the bytes.

* `Leaves bytes i s`: place `i` is not behind the end, and the text `s` is left from there on.
* `Leaves.afterSign`, `Leaves.digits`, `Leaves.fraction`, `Leaves.exponent`: what one step of the
  scan does, with the text that it leaves.  A byte of ASCII is always a character of its own, so
  that a place never comes to stand inside a character.
* `scan?_encode`: on the bytes of a text the scan gives the answer of the lexical test.

`isNumeric_iff_numeral` puts the scan, the test and the grammar together.
-/

namespace LiteralRows

namespace Text.Utf8

/-! ## ASCII bytes of an encoding -/

/-- The first byte of a character is one of ASCII only if the character is, and is then all of
it. -/
theorem exists_encodeChar_of_lead (c : Char) :
    ∃ lead tail, encodeChar c = lead :: tail ∧
      (lead < 0x80 → c = Char.ofNat lead.toNat ∧ tail = []) := by
  obtain ⟨lead, tail, hencode, hspells⟩ := exists_encodeChar c
  refine ⟨lead, tail, hencode, fun hlead => ?_⟩
  have hfront := hspells.front_eq []
  rw [front_of_ascii hlead, Front.whole.injEq] at hfront
  exact ⟨hfront.1.symm, List.length_eq_zero_iff.mp hfront.2.symm⟩

theorem encodeChar_of_ascii {b : UInt8} (h : b < 0x80) : encodeChar (Char.ofNat b.toNat) = [b] := by
  have hb : b.toNat < 0x80 := h
  have hvalid : b.toNat.isValidChar := .inl (by omega)
  rw [encodeChar]
  dsimp only
  rw [toNat_ofNat_of_isValidChar hvalid, if_pos hb, UInt8.ofNat_toNat]

/-- A text begins with an ASCII byte exactly if it begins with the character. -/
theorem head?_encode_eq_some_iff {b : UInt8} (h : b < 0x80) (s : List Char) :
    (encode s).head? = some b ↔ s.head? = some (Char.ofNat b.toNat) := by
  cases s with
  | nil => exact ⟨nofun, nofun⟩
  | cons c s =>
    obtain ⟨lead, tail, hencode, hlead⟩ := exists_encodeChar_of_lead c
    rw [encode_cons, hencode, List.cons_append, List.head?_cons, List.head?_cons, Option.some.injEq,
      Option.some.injEq]
    constructor
    · rintro rfl
      exact (hlead h).1
    · rintro rfl
      rw [encodeChar_of_ascii h, List.cons.injEq] at hencode
      exact hencode.1.symm

end Text.Utf8

namespace Token

open Text.Utf8 (encode encode_cons encode_nil)

/-! ## The scan -/

/-- The byte of a digit. -/
def isDigitByte (b : UInt8) : Bool :=
  0x30 ≤ b && b ≤ 0x39

/-- The number of digits from a place on; none if the place lies past the end. -/
def digitsFrom? (bytes : List UInt8) (i : Nat) : Option Nat :=
  if i ≤ bytes.length then some ((bytes.drop i).takeWhile isDigitByte).length else none

/-- The place after a sign, if there is a sign at this place. -/
def placeAfterSign (bytes : List UInt8) (i : Nat) : Nat :=
  if bytes[i]? = some 0x2B ∨ bytes[i]? = some 0x2D then i + 1 else i

/-- The number of digits after a point at this place, and the place after them. -/
def fractionFrom? (bytes : List UInt8) (i : Nat) : Option (Nat × Nat) :=
  if bytes[i]? = some 0x2E then
    (digitsFrom? bytes (i + 1)).map fun count => (count, i + 1 + count)
  else some (0, i)

/-- Whether nothing but an exponent is left from this place on. -/
def exponentFrom? (bytes : List UInt8) (i : Nat) : Option Bool :=
  if bytes[i]? = some 0x65 ∨ bytes[i]? = some 0x45 then
    let first := placeAfterSign bytes (i + 1)
    (digitsFrom? bytes first).map fun count => count ≠ 0 && first + count = bytes.length
  else some (i = bytes.length)

/-- The lexical test by places: one place goes over the bytes of a text, from part to part. -/
def scan? (bytes : List UInt8) : Option Bool := do
  let start := placeAfterSign bytes 0
  let whole ← digitsFrom? bytes start
  let (fraction, mark) ← fractionFrom? bytes (start + whole)
  if whole + fraction = 0 then some false else exponentFrom? bytes mark

/-! ## What is left from a place on -/

/-- The place lies in the bytes, and this text is left from there on. -/
structure Leaves (bytes : List UInt8) (i : Nat) (s : List Char) : Prop where
  le_length : i ≤ bytes.length
  drop_eq : bytes.drop i = encode s

variable {bytes : List UInt8} {i : Nat} {s : List Char}

theorem leaves_zero (s : List Char) : Leaves (encode s) 0 s where
  le_length := Nat.zero_le _
  drop_eq := List.drop_zero

theorem Leaves.getElem?_eq_some_iff (h : Leaves bytes i s) {b : UInt8} (hb : b < 0x80) :
    bytes[i]? = some b ↔ s.head? = some (Char.ofNat b.toNat) := by
  rw [← List.head?_drop, h.drop_eq, Text.Utf8.head?_encode_eq_some_iff hb]

/-- Behind an ASCII character one byte further on the rest is left. -/
theorem Leaves.next {b : UInt8} (hb : b < 0x80) (h : Leaves bytes i (Char.ofNat b.toNat :: s)) :
    Leaves bytes (i + 1) s := by
  have hdrop := h.drop_eq
  rw [encode_cons, Text.Utf8.encodeChar_of_ascii hb, List.singleton_append] at hdrop
  have hlt : i < bytes.length := by
    by_contra hge
    rw [List.drop_eq_nil_of_le (Nat.le_of_not_lt hge)] at hdrop
    cases hdrop
  refine ⟨hlt, ?_⟩
  rw [← List.tail_drop, hdrop, List.tail_cons]

theorem Leaves.eq_length_iff (h : Leaves bytes i s) : i = bytes.length ↔ s = [] := by
  have hdrop := h.drop_eq
  have hle := h.le_length
  constructor
  · rintro rfl
    rw [List.drop_length] at hdrop
    cases s with
    | nil => rfl
    | cons c s =>
      obtain ⟨lead, tail, hencode, -⟩ := Text.Utf8.exists_encodeChar_of_lead c
      rw [encode_cons, hencode] at hdrop
      cases hdrop
  · rintro rfl
    rw [encode_nil, List.drop_eq_nil_iff] at hdrop
    omega

/-! ## The parts of a numeral -/

theorem lt_of_isDigitByte {b : UInt8} (h : isDigitByte b = true) : b < 0x80 := by
  rw [isDigitByte, Bool.and_eq_true, decide_eq_true_eq, decide_eq_true_eq] at h
  exact UInt8.lt_of_le_of_lt h.2 (by decide)

theorem isDigit_ofNat {b : UInt8} (h : b < 0x80) :
    (Char.ofNat b.toNat).isDigit = isDigitByte b := by
  have hb : b.toNat < 0x80 := h
  have hval : (Char.ofNat b.toNat).val.toNat = b.toNat :=
    Text.toNat_ofNat_of_isValidChar (.inl (by omega))
  rw [Bool.eq_iff_iff]
  simp only [Char.isDigit, isDigitByte, Bool.and_eq_true, decide_eq_true_eq, ge_iff_le,
    UInt32.le_iff_toNat_le, UInt8.le_iff_toNat_le, hval]
  rfl

theorem exists_eq_ofNat_of_isDigit {c : Char} (h : c.isDigit = true) :
    ∃ b : UInt8, b < 0x80 ∧ c = Char.ofNat b.toNat := by
  obtain ⟨-, hle⟩ := isDigit_iff.mp h
  have hle : c.toNat ≤ 57 := hle
  refine ⟨UInt8.ofNat c.toNat, ?_, ?_⟩
  · rw [UInt8.lt_iff_toNat_lt, Text.Utf8.toNat_ofNat (by omega)]
    exact Nat.lt_of_le_of_lt hle (by decide)
  · rw [Text.Utf8.toNat_ofNat (by omega), Char.ofNat_toNat]

/-- The digits at the front of a text are as many bytes of its encoding, and no other byte there is
one of a digit. -/
theorem takeWhile_encode (s : List Char) :
    ((encode s).takeWhile isDigitByte).length = (cutDigits s).1.length ∧
      (encode s).drop (cutDigits s).1.length = encode (cutDigits s).2 := by
  induction s with
  | nil => exact ⟨rfl, rfl⟩
  | cons c s ih =>
    by_cases hc : c.isDigit = true
    · obtain ⟨b, hb, rfl⟩ := exists_eq_ofNat_of_isDigit hc
      have hdigit : isDigitByte b = true := by rwa [← isDigit_ofNat hb]
      rw [cutDigits, encode_cons, Text.Utf8.encodeChar_of_ascii hb, List.singleton_append,
        List.takeWhile_cons_of_pos hdigit, List.takeWhile_cons_of_pos hc,
        List.dropWhile_cons_of_pos hc, List.length_cons, List.length_cons, List.drop_succ_cons]
      exact ⟨congrArg Nat.succ ih.1, ih.2⟩
    · obtain ⟨lead, tail, hencode, hlead⟩ := Text.Utf8.exists_encodeChar_of_lead c
      have hother : ¬ isDigitByte lead = true := by
        intro hdigit
        have hascii := lt_of_isDigitByte hdigit
        rw [(hlead hascii).1, isDigit_ofNat hascii] at hc
        exact hc hdigit
      rw [cutDigits, List.takeWhile_cons_of_neg hc, List.dropWhile_cons_of_neg hc, encode_cons,
        hencode, List.cons_append, List.takeWhile_cons_of_neg hother]
      exact ⟨rfl, rfl⟩

/-- The scan counts the digits that are cut off, and moves on to what follows them. -/
theorem Leaves.digits (h : Leaves bytes i s) :
    digitsFrom? bytes i = some (cutDigits s).1.length ∧
      Leaves bytes (i + (cutDigits s).1.length) (cutDigits s).2 := by
  obtain ⟨hcount, hrest⟩ := takeWhile_encode s
  have hle : (cutDigits s).1.length ≤ bytes.length - i := by
    rw [← hcount, ← h.drop_eq, ← List.length_drop]
    exact (List.takeWhile_prefix _).length_le
  refine ⟨?_, ?_, ?_⟩
  · rw [digitsFrom?, if_pos h.le_length, h.drop_eq, hcount]
  · have := h.le_length
    omega
  · rw [← List.drop_drop, h.drop_eq, hrest]

theorem Leaves.afterSign (h : Leaves bytes i s) :
    Leaves bytes (placeAfterSign bytes i) (afterSign s) := by
  have hplus := h.getElem?_eq_some_iff (b := 0x2B) (by decide)
  have hminus := h.getElem?_eq_some_iff (b := 0x2D) (by decide)
  unfold Token.afterSign
  split
  · rw [placeAfterSign, if_pos (.inl (hplus.mpr rfl))]
    exact h.next (b := 0x2B) (by decide)
  · rw [placeAfterSign, if_pos (.inr (hminus.mpr rfl))]
    exact h.next (b := 0x2D) (by decide)
  · rename_i hnoplus hnominus
    have hunsigned : ¬ (bytes[i]? = some 0x2B ∨ bytes[i]? = some 0x2D) := by
      rw [hplus, hminus, List.head?_eq_some_iff, List.head?_eq_some_iff]
      rintro (⟨t, rfl⟩ | ⟨t, rfl⟩)
      · exact hnoplus t rfl
      · exact hnominus t rfl
    rwa [placeAfterSign, if_neg hunsigned]

theorem Leaves.fraction (h : Leaves bytes i s) :
    ∃ mark, fractionFrom? bytes i = some ((cutFraction s).1.length, mark) ∧
      Leaves bytes mark (cutFraction s).2 := by
  have hpoint := h.getElem?_eq_some_iff (b := 0x2E) (by decide)
  unfold cutFraction
  split
  · obtain ⟨hcount, hafter⟩ := (h.next (b := 0x2E) (by decide)).digits
    rw [fractionFrom?, if_pos (hpoint.mpr rfl), hcount]
    exact ⟨_, rfl, hafter⟩
  · rename_i hnopoint
    have hunpointed : ¬ bytes[i]? = some 0x2E := by
      rw [hpoint, List.head?_eq_some_iff]
      rintro ⟨t, rfl⟩
      exact hnopoint t rfl
    rw [fractionFrom?, if_neg hunpointed]
    exact ⟨i, rfl, h⟩

/-- A text is digits and nothing else exactly if some are cut off and nothing is left behind. -/
theorem cutDigits_all_iff (s : List Char) :
    (cutDigits s).1.length ≠ 0 ∧ (cutDigits s).2 = [] ↔
      s.isEmpty = false ∧ s.all Char.isDigit = true := by
  rw [List.isEmpty_eq_false_iff, List.all_eq_true, Ne, List.length_eq_zero_iff,
    ← List.dropWhile_eq_nil_iff]
  refine and_congr_left fun hrest => not_congr ?_
  have hrest : (cutDigits s).2 = [] := hrest
  have happend := cutDigits_append s
  rw [hrest, List.append_nil] at happend
  rw [happend]

theorem Leaves.exponent (h : Leaves bytes i s) : exponentFrom? bytes i = some (isExponent s) := by
  have hlower := h.getElem?_eq_some_iff (b := 0x65) (by decide)
  have hupper := h.getElem?_eq_some_iff (b := 0x45) (by decide)
  -- behind either mark, the sign and the digits have to use up the text
  have hmarked : ∀ {t}, (bytes[i]? = some 0x65 ∨ bytes[i]? = some 0x45) → Leaves bytes (i + 1) t →
      exponentFrom? bytes i =
        some (!(Token.afterSign t).isEmpty && (Token.afterSign t).all Char.isDigit) := by
    intro t hmark ht
    obtain ⟨hcount, hrest⟩ := ht.afterSign.digits
    rw [exponentFrom?, if_pos hmark]
    dsimp only
    rw [hcount, Option.map_some, Option.some.injEq, Bool.eq_iff_iff]
    simp only [Bool.and_eq_true, decide_eq_true_eq, Bool.not_eq_true', hrest.eq_length_iff,
      cutDigits_all_iff]
  have hunmarked : ¬ (s.head? = some 'e' ∨ s.head? = some 'E') →
      exponentFrom? bytes i = some (decide (s = [])) := by
    intro hnone
    have hnone : ¬ (bytes[i]? = some 0x65 ∨ bytes[i]? = some 0x45) := by
      rw [hlower, hupper]
      exact hnone
    rw [exponentFrom?, if_neg hnone, Option.some.injEq, decide_eq_decide]
    exact h.eq_length_iff
  cases s with
  | nil => exact hunmarked nofun
  | cons c t =>
    by_cases hmark : c = 'e' ∨ c = 'E'
    · rcases hmark with rfl | rfl
      · exact hmarked (.inl (hlower.mpr rfl)) (h.next (b := 0x65) (by decide))
      · exact hmarked (.inr (hupper.mpr rfl)) (h.next (b := 0x45) (by decide))
    · have hother : (c == 'e' || c == 'E') = false := by
        rw [Bool.or_eq_false_iff, beq_eq_false_iff_ne, beq_eq_false_iff_ne]
        exact not_or.mp hmark
      rw [hunmarked (by rwa [List.head?_cons, Option.some.injEq, Option.some.injEq]), isExponent,
        hother]
      rfl

/-- **The scan by places never leaves the text**, and decides what the lexical test decides. -/
theorem scan?_encode (s : List Char) : scan? (encode s) = some (isNumeric s) := by
  have hsign := (leaves_zero s).afterSign
  obtain ⟨hwhole, hpoint⟩ := hsign.digits
  obtain ⟨mark, hfraction, hmark⟩ := hpoint.fraction
  have hsum (a b : List Char) : a.length + b.length = 0 ↔ (a.isEmpty && b.isEmpty) = true := by
    rw [Nat.add_eq_zero_iff, List.length_eq_zero_iff, List.length_eq_zero_iff, Bool.and_eq_true,
      List.isEmpty_iff, List.isEmpty_iff]
  simp only [scan?, hwhole, hfraction, Option.bind_eq_bind, Option.bind_some, hmark.exponent, hsum,
    isNumeric]
  by_cases hnone : ((cutDigits (afterSign s)).1.isEmpty &&
      (cutFraction (cutDigits (afterSign s)).2).1.isEmpty) = true
  · rw [if_pos hnone, hnone]
    rfl
  · rw [if_neg hnone, Bool.eq_false_iff.mpr hnone]
    rfl

/-- **The lexical test is the grammar of numerals.**  A text passes exactly if it is a numeral.  A
scan over its bytes comes to the same answer without ever leaving them, and no text passes that
holds anything but ASCII signs, digits, points and exponent marks. -/
theorem isNumeric_iff_numeral (s : List Char) :
    (isNumeric s = true ↔ Numeral s) ∧ scan? (encode s) = some (isNumeric s) ∧
      ∀ c ∈ s, ¬ IsNumeralChar c → isNumeric s = false := by
  refine ⟨⟨numeral_of_isNumeric, Numeral.isNumeric_eq⟩, scan?_encode s, fun c hc hother => ?_⟩
  rw [Bool.eq_false_iff]
  exact fun hpass => hother ((numeral_of_isNumeric hpass).forall_mem c hc)

/-- A numeral that ends in its point, and digits outside ASCII. -/
example : isNumeric "-1.".toList = true ∧ isNumeric "\u0661\u0662".toList = false := by
  decide

end Token
end LiteralRows
