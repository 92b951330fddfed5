import LiteralRows.Text.Digits
import Mathlib.Data.List.Basic

/-!
# Runs of digits

A reader of numbers takes all the digits that it can get.  What it takes is the run that was
written, provided that the text behind the run does not go on with a digit (`EndsDigits`).

The digits of a natural number stand for that number again (`numberOf_toDigits`), and none of them
is a leading zero (`exists_toDigits_eq_cons`).
-/

namespace LiteralRows.Text

/-- The text does not begin with a digit. -/
def EndsDigits (s : List Char) : Prop :=
  ∀ c s', s = c :: s' → c.isDigit = false

theorem endsDigits_nil : EndsDigits [] := nofun

theorem endsDigits_cons {c : Char} (h : c.isDigit = false) (s : List Char) :
    EndsDigits (c :: s) := by
  rintro _ _ ⟨⟩
  exact h

variable {d s : List Char}

theorem takeWhile_isDigit_append (hd : ∀ c ∈ d, c.isDigit = true) (hs : EndsDigits s) :
    (d ++ s).takeWhile Char.isDigit = d := by
  rw [List.takeWhile_append_of_pos hd]
  cases s with
  | nil => rw [List.takeWhile_nil, List.append_nil]
  | cons c s =>
    have hc : ¬ c.isDigit = true := by
      rw [hs c s rfl]
      exact Bool.false_ne_true
    rw [List.takeWhile_cons_of_neg hc, List.append_nil]

theorem dropWhile_isDigit_append (hd : ∀ c ∈ d, c.isDigit = true) (hs : EndsDigits s) :
    (d ++ s).dropWhile Char.isDigit = s := by
  rw [List.dropWhile_append_of_pos hd]
  cases s with
  | nil => rfl
  | cons c s =>
    have hc : ¬ c.isDigit = true := by
      rw [hs c s rfl]
      exact Bool.false_ne_true
    rw [List.dropWhile_cons_of_neg hc]

/-- A digit is none of the other characters. -/
theorem ne_of_isDigit {c x : Char} (hc : c.isDigit = true) (hx : x.isDigit = false) : c ≠ x := by
  rintro rfl
  rw [hc] at hx
  cases hx

theorem hexValue?_of_isDigit {c : Char} (h : c.isDigit = true) :
    hexValue? c = some (c.toNat - '0'.toNat) := by
  have hrange : '0' ≤ c ∧ c ≤ '9' := by
    simpa only [Char.isDigit, Char.le_def, Bool.and_eq_true, decide_eq_true_eq] using h
  rw [hexValue?, if_pos hrange]

theorem isDigitOf_of_isDigit {c : Char} (h : c.isDigit = true) : isDigitOf 10 c = true := by
  have hle : c.toNat ≤ '9'.toNat := by
    simp only [Char.isDigit, Bool.and_eq_true, decide_eq_true_eq] at h
    exact UInt32.le_iff_toNat_le.mp h.2
  have hlt : c.toNat - '0'.toNat < 10 := by
    have h9 : '9'.toNat = 57 := rfl
    have h0 : '0'.toNat = 48 := rfl
    omega
  rw [isDigitOf, hexValue?_of_isDigit h]
  exact decide_eq_true hlt

/-- A run in which something is no digit stands for no number. -/
theorem number?_eq_none {base : Nat} {c : Char} (hc : isDigitOf base c = false) (h : c ∈ s) :
    number? base s = none := by
  have hall : s.all (isDigitOf base) = false :=
    List.all_eq_false.mpr ⟨c, h, by rw [hc]; exact Bool.false_ne_true⟩
  rw [number?, hall, Bool.and_false, if_neg Bool.false_ne_true]

/-! ## The digits of a number -/

/-- **The digits of a natural number stand for it.** -/
theorem numberOf_toDigits (n : Nat) : numberOf 10 (Nat.toDigits 10 n) = n := by
  have hdigit : ∀ c ∈ Nat.toDigits 10 n, c.isDigit = true :=
    fun c hc => Nat.isDigit_of_mem_toDigits (by decide) (by decide) hc
  have hsame : numberOf 10 (Nat.toDigits 10 n) = Nat.ofDigitChars 10 (Nat.toDigits 10 n) 0 := by
    refine List.foldl_ext _ _ 0 fun m c hc => ?_
    rw [hexValue?_of_isDigit (hdigit c hc), Option.getD_some, Nat.mul_comm]
  rw [hsame, Nat.ofDigitChars_toDigits (by decide) (by decide)]

theorem digitChar_ne_zero : ∀ n < 10, 0 < n → n.digitChar ≠ '0' := by decide

/-- A number that is not zero is written without a leading zero. -/
theorem exists_toDigits_eq_cons {n : Nat} (h : 0 < n) :
    ∃ c d, Nat.toDigits 10 n = c :: d ∧ c ≠ '0' := by
  induction n using Nat.strongRecOn with
  | ind n ih =>
    rw [Nat.toDigits_eq_if (by decide)]
    by_cases hn : n < 10
    · rw [if_pos hn]
      exact ⟨_, [], rfl, digitChar_ne_zero n hn h⟩
    · rw [if_neg hn]
      obtain ⟨c, d, hdigits, hc⟩ := ih (n / 10) (by omega) (by omega)
      exact ⟨c, d ++ [(n % 10).digitChar], by rw [hdigits, List.cons_append], hc⟩

end LiteralRows.Text
