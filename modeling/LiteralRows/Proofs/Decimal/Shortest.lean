import LiteralRows.Decimal.Shortest
import LiteralRows.Proofs.Text.Digits
import Mathlib.Data.List.TakeWhile
import Mathlib.Tactic.Positivity
import Mathlib.Tactic.Ring

/-!
# Seventeen digits suffice

The search for the shortest decimal tries grids of one digit, two digits and so on up to seventeen,
and is written without a proof that it ends with a hit.  It always does:

* `leadingExponent_spec`: the exponent of the first digit is right, so that the grid of seventeen
  digits is `10 ^ 16` times finer than the number is large.
* `exists_onGrid?`: a grid whose points are closer together than the interval of a number is wide
  has a point in it, and one of the two points next to the number is such a point.
* `exists_search_eq`: so the search gives a positive decimal, whatever number of digits it needs.

A positive decimal has a digit that is no zero (`digits_ofScaled`), so that its text is never left
without digits.
-/

namespace LiteralRows.Decimal

/-- The significand and the exponent of a positive double. -/
structure IsPositive (m : Nat) (e : Int) (narrow : Bool) : Prop where
  pos : 0 < m
  lt : m < 2 ^ 53
  le : -1074 ≤ e
  narrow : narrow = true → m = 2 ^ 52

theorem isPositive_of_ofBits {bits : UInt64} {negative : Bool} {m : Nat} {e : Int} {narrow : Bool}
    (h : Double.ofBits bits = .finite negative m e narrow) (hm : m ≠ 0) :
    IsPositive m e narrow := by
  have hfraction : bits.toNat % Nat.pow 2 52 < 2 ^ 52 := Nat.mod_lt _ (by decide)
  simp only [Double.ofBits] at h
  split at h
  · split at h <;> cases h
  · split at h
    · cases h
      exact ⟨Nat.pos_of_ne_zero hm, Nat.lt_trans hfraction (by decide), Int.le_refl _, nofun⟩
    · rename_i hexponent
      cases h
      have hpow : Nat.pow 2 52 = 2 ^ 52 := rfl
      refine ⟨Nat.pos_of_ne_zero hm, by omega, by omega, fun hnarrow => ?_⟩
      rw [Bool.and_eq_true, decide_eq_true_eq] at hnarrow
      rw [hnarrow.1]
      rfl

/-! ## The exponent of the first digit -/

theorem two_pow_le_ten_pow {n k : Nat} (h : n ≤ 3 * k) : 2 ^ n ≤ 10 ^ k :=
  calc 2 ^ n ≤ 2 ^ (3 * k) := Nat.pow_le_pow_right (by decide) h
    _ = (2 ^ 3) ^ k := Nat.pow_mul 2 3 k
    _ ≤ 10 ^ k := Nat.pow_le_pow_left (by decide) k

theorem pow_length_toDigits_le {n : Nat} (hn : 0 < n) :
    10 ^ ((Nat.toDigits 10 n).length - 1) ≤ n := by
  rcases Nat.eq_zero_or_pos ((Nat.toDigits 10 n).length - 1) with hzero | hpos
  · rw [hzero]
    exact hn
  · refine Nat.not_lt.mp fun hlt => ?_
    have hle := (Nat.length_toDigits_le_iff (by decide) hpos).mpr hlt
    omega

/-- A quotient `a / b` is at least `10 ^ 16` times `10 ^ p`, where `p` is the exponent of its
seventeenth digit.  It is multiplied by a power of ten first, to have a digit before its point. -/
theorem pow_seventeenth_le {a b k : Nat} {p : Int} (hb : 0 < b) (h : b ≤ a * 10 ^ k)
    (hp : p = (Nat.toDigits 10 (a * 10 ^ k / b)).length - (k + 17 : Nat)) :
    10 ^ 16 * (10 ^ p.toNat * b) ≤ a * 10 ^ (-p).toNat := by
  have hfirst := pow_length_toDigits_le (Nat.div_pos h hb)
  rw [Nat.le_div_iff_mul_le hb] at hfirst
  have hpositive := @Nat.length_toDigits_pos 10 (a * 10 ^ k / b)
  generalize (Nat.toDigits 10 (a * 10 ^ k / b)).length = digits at hfirst hp hpositive
  have hexponents : digits - 1 + (-p).toNat = k + 16 + p.toNat := by omega
  refine Nat.le_of_mul_le_mul_left (c := 10 ^ k) ?_ (Nat.pow_pos (by decide))
  calc 10 ^ k * (10 ^ 16 * (10 ^ p.toNat * b))
      = 10 ^ (k + 16 + p.toNat) * b := by rw [Nat.pow_add, Nat.pow_add]; ring
    _ = 10 ^ (digits - 1) * b * 10 ^ (-p).toNat := by rw [← hexponents, Nat.pow_add]; ring
    _ ≤ a * 10 ^ k * 10 ^ (-p).toNat := Nat.mul_le_mul_right _ hfirst
    _ = 10 ^ k * (a * 10 ^ (-p).toNat) := by ring

/-- **The first digit stands where it should**: a number is at least `10 ^ 16` times the distance of
the points on the grid of seventeen digits.  Both sides are multiplied by what makes them whole. -/
theorem leadingExponent_spec {m : Nat} {e p : Int} (hm : 0 < m) (he : -1074 ≤ e)
    (hp : p = leadingExponent m e + 1 - (17 : Nat)) :
    10 ^ 16 * (10 ^ p.toNat * 2 ^ (-e).toNat) ≤ m * (2 ^ e.toNat * 10 ^ (-p).toNat) := by
  have hsmall : 2 ^ (-e).toNat ≤ 10 ^ 400 := two_pow_le_ten_pow (by omega)
  rw [← Nat.mul_assoc m]
  refine pow_seventeenth_le (Nat.two_pow_pos _) (k := 400) (Nat.le_trans hsmall ?_) ?_
  · exact Nat.le_mul_of_pos_left _ (Nat.mul_pos hm (Nat.two_pow_pos _))
  · simp only [hp, leadingExponent, Nat.pow_eq, -Nat.reducePow]
    omega

/-! ## Points of a grid -/

/-- A point of a grid that is found is positive. -/
theorem pos_of_onGrid? {m n : Nat} {e p : Int} {narrow : Bool}
    (h : onGrid? m e narrow p = some n) : 0 < n := by
  simp only [onGrid?] at h
  split at h
  · rename_i hbelow _
    rw [Bool.and_eq_true, decide_eq_true_eq] at hbelow
    split at h <;> cases h
    · exact hbelow.1
    · exact Nat.succ_pos _
  · rename_i hbelow _
    rw [Bool.and_eq_true, decide_eq_true_eq] at hbelow
    cases h
    exact hbelow.1
  · cases h
    exact Nat.succ_pos _
  · cases h

/-- Of two neighbouring points around a number, one lies in an interval around the number that is
wider than they are apart. -/
theorem between_of_gap {low value high x step : Nat} (hx : x ≤ value) (hnext : value < x + step)
    (hlow : low ≤ value) (hhigh : value < high) (hgap : low + step < high) :
    (low < x ∧ x < high) ∨ (low < x + step ∧ x + step < high) := by
  omega

/-- What lies between two bounds lies between them with or without the bounds themselves. -/
theorem inside_of_between {low high x : Nat} (h : low < x ∧ x < high) (m : Nat) :
    (if m % 2 = 0 then decide (low ≤ x) && decide (x ≤ high)
      else decide (low < x) && decide (x < high)) = true := by
  split
  · rw [decide_eq_true (Nat.le_of_lt h.1), decide_eq_true (Nat.le_of_lt h.2), Bool.and_self]
  · rw [decide_eq_true h.1, decide_eq_true h.2, Bool.and_self]

/-- **A fine grid has a point in the interval of a number.**  Here `g` is the distance of the points
and `s` that of two numbers, both multiplied by what makes them whole; the interval reaches half a
distance upwards and downwards, or a quarter downwards if it is narrow. -/
theorem exists_onGrid? {m : Nat} {e p : Int} {narrow : Bool} {g s : Nat} (hm : 0 < m)
    (hg : g = 10 ^ p.toNat * 2 ^ (-e).toNat) (hs : s = 2 ^ e.toNat * 10 ^ (-p).toNat)
    (hfine : 4 * g < (if narrow then 3 else 4) * s) (hlarge : g ≤ m * s) :
    ∃ n, onGrid? m e narrow p = some n := by
  have hgpos : 0 < 4 * g := by
    rw [hg]
    positivity
  have hspos : 0 < s := by
    rw [hs]
    positivity
  have hbelow : 4 * m * s / (4 * g) * (4 * g) ≤ 4 * m * s := Nat.div_mul_le_self _ _
  have habove : 4 * m * s < 4 * m * s / (4 * g) * (4 * g) + 4 * g := Nat.lt_div_mul_add hgpos
  have hfirst : 0 < 4 * m * s / (4 * g) := by
    refine Nat.div_pos ?_ hgpos
    rw [Nat.mul_assoc]
    exact Nat.mul_le_mul_left 4 hlarge
  have hlow : (4 * m - if narrow then 1 else 2) * s = 4 * m * s - (if narrow then 1 else 2) * s :=
    Nat.sub_mul _ _ _
  have hhigh : (4 * m + 2) * s = 4 * m * s + 2 * s := Nat.add_mul _ _ _
  have hms : s ≤ m * s := Nat.le_mul_of_pos_left s hm
  have hreach : (4 * m - if narrow then 1 else 2) * s + 4 * g < (4 * m + 2) * s := by
    rw [hlow, hhigh, Nat.mul_assoc]
    cases narrow <;> simp only [Bool.false_eq_true, if_false, if_true] at hfine ⊢ <;> omega
  have hpoint := between_of_gap hbelow habove (hlow ▸ Nat.sub_le _ _) (by omega) hreach
  rw [← Nat.succ_mul] at hpoint
  simp only [onGrid?, Nat.pow_eq, ← hg, ← hs]
  split
  · split <;> exact ⟨_, rfl⟩
  · exact ⟨_, rfl⟩
  · exact ⟨_, rfl⟩
  · rename_i hnot hnot'
    rcases hpoint with hpoint | hpoint
    · rw [inside_of_between hpoint, decide_eq_true hfirst] at hnot
      cases hnot
    · rw [inside_of_between hpoint] at hnot'
      cases hnot'

/-- On the grid of seventeen digits every positive double has a point. -/
theorem exists_onGrid?_seventeen {m : Nat} {e : Int} {narrow : Bool} (h : IsPositive m e narrow) :
    ∃ n, onGrid? m e narrow (leadingExponent m e + 1 - (17 : Nat)) = some n := by
  have hspec := leadingExponent_spec h.pos h.le rfl
  refine exists_onGrid? h.pos rfl rfl ?_ (Nat.le_trans (Nat.le_mul_of_pos_left _ (by decide)) hspec)
  generalize 10 ^ (leadingExponent m e + 1 - (17 : Nat)).toNat * 2 ^ (-e).toNat = g at hspec ⊢
  have hspos : 0 < 2 ^ e.toNat * 10 ^ (-(leadingExponent m e + 1 - (17 : Nat))).toNat := by
    positivity
  generalize 2 ^ e.toNat * 10 ^ (-(leadingExponent m e + 1 - (17 : Nat))).toNat = s at hspec hspos ⊢
  cases narrow with
  | true =>
    rw [h.narrow rfl] at hspec
    rw [if_pos rfl]
    omega
  | false =>
    have hlt : m * s < 2 ^ 53 * s := Nat.mul_lt_mul_of_pos_right h.lt hspos
    rw [if_neg Bool.false_ne_true]
    omega

/-! ## The search -/

/-- **The search ends with a hit.** -/
theorem exists_search_eq {m : Nat} {e : Int} {narrow : Bool} (h : IsPositive m e narrow) :
    ∀ more digits : Nat, digits + more = 17 →
      ∃ n p, 0 < n ∧ search m e narrow (leadingExponent m e) more digits = .ofScaled n p := by
  intro more
  induction more with
  | zero =>
    rintro digits rfl
    obtain ⟨n, hn⟩ := exists_onGrid?_seventeen h
    refine ⟨n, leadingExponent m e + 1 - (17 : Nat), pos_of_onGrid? hn, ?_⟩
    rw [search, hn, Option.getD_some]
  | succ more ih =>
    intro digits hdigits
    rw [search]
    split
    · rename_i n hn
      exact ⟨n, _, pos_of_onGrid? hn, rfl⟩
    · exact ih (digits + 1) (by omega)

/-- A positive decimal has digits, and nothing but digits. -/
theorem digits_ofScaled {n : Nat} (hn : 0 < n) (p : Int) :
    (Scientific.ofScaled n p).digits ≠ [] ∧
      ∀ c ∈ (Scientific.ofScaled n p).digits, c.isDigit = true := by
  obtain ⟨c, d, hcons, hc⟩ := Text.exists_toDigits_eq_cons hn
  constructor
  · intro hnil
    have hall := List.dropWhile_eq_nil_iff.mp (List.reverse_eq_nil_iff.mp hnil) c
      (List.mem_reverse.mpr (hcons ▸ List.mem_cons_self))
    exact hc (eq_of_beq hall)
  · intro x hx
    have hmem := (List.dropWhile_sublist _).mem (List.mem_reverse.mp hx)
    exact Nat.isDigit_of_mem_toDigits (by decide) (by decide) (List.mem_reverse.mp hmem)

/-- **The shortest decimal of a positive double has digits.** -/
theorem digits_shortest {m : Nat} {e : Int} {narrow : Bool} (h : IsPositive m e narrow) :
    (shortest m e narrow).digits ≠ [] ∧
      ∀ c ∈ (shortest m e narrow).digits, c.isDigit = true := by
  obtain ⟨n, p, hn, hsearch⟩ := exists_search_eq h 16 1 rfl
  rw [shortest, hsearch]
  exact digits_ofScaled hn p

end LiteralRows.Decimal
