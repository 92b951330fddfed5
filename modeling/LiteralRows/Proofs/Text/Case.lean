import LiteralRows.Text.Case
import LiteralRows.Text.Pieces
import Mathlib.Data.List.Basic

/-!
# Lower case within ASCII

Names that are compared in lower case are ASCII, but what they are compared with need not be.  Only
one character outside ASCII has a lower-case form within it, the Kelvin sign, whose form is the
letter k.  So a text whose lower-case form is an ASCII text without that letter is ASCII itself, and
nothing but the case of its letters was changed (`lower_eq_iff`).

That there is no other such character is a fact about the table of lower-case forms, and is found by
going through its runs (`lowering_leaves_ascii`).
-/

namespace LiteralRows.Text

open CaseTable

variable {s : List Char} {c : Char}

/-- The text is written in ASCII. -/
def IsAscii (s : List Char) : Prop :=
  ∀ c ∈ s, c.toNat < 0x80

/-! ## Single characters -/

/-- The forms of a run are characters outside ASCII, unless the run lies within it or is the Kelvin
sign alone. -/
def CaseTable.Run.LeavesAscii (run : Run) : Prop :=
  run.last < 0x80 ∨ (run.first = run.last ∧ run.first + run.shift = 0x6B) ∨
    (0x80 ≤ run.first + run.shift ∧
      (run.last + run.shift < 0xD800 ∨
        (0xDFFF < run.first + run.shift ∧ run.last + run.shift < 0x110000)))

instance (run : Run) : Decidable run.LeavesAscii :=
  inferInstanceAs (Decidable (_ ∨ _))

theorem lowering_leaves_ascii : ∀ run ∈ lowering, run.LeavesAscii := by
  decide +kernel

theorem toNat_ofNat_of_isValidChar {n : Nat} (h : n.isValidChar) : (Char.ofNat n).toNat = n := by
  rw [Char.ofNat, dif_pos h]
  rfl

theorem lowerChar_of_isAscii (h : c.toNat < 0x80) : lowerChar c = [c.toLower] := by
  rw [lowerChar, if_pos h]

/-- The form of a character outside ASCII is the letter k, or has a part outside ASCII. -/
theorem lowerChar_of_not_isAscii (h : 0x80 ≤ c.toNat) :
    lowerChar c = ['k'] ∨ ∃ d ∈ lowerChar c, 0x80 ≤ d.toNat := by
  rw [lowerChar, if_neg (Nat.not_lt.mpr h)]
  split
  · exact .inr ⟨'\u0307', by decide, by decide⟩
  · split
    · rename_i run hfind
      have hholds := List.find?_some hfind
      simp only [CaseTable.Run.holds, Bool.and_eq_true, decide_eq_true_eq] at hholds
      rcases lowering_leaves_ascii run (List.mem_of_find?_eq_some hfind) with
        hlow | ⟨hsingle, hkelvin⟩ | ⟨hhigh, hvalid⟩
      · omega
      · left
        have hnumber : (c.toNat + run.shift).toNat = 0x6B := by omega
        rw [hnumber]
      · right
        refine ⟨_, List.mem_singleton_self _, ?_⟩
        have hchar : (c.toNat + run.shift).toNat.isValidChar := by
          rcases hvalid with hlow | hrange
          · exact .inl (by omega)
          · exact .inr (by omega)
        rw [toNat_ofNat_of_isValidChar hchar]
        omega
    · exact .inr ⟨c, List.mem_singleton_self c, h⟩

/-! ## Texts -/

theorem lowerFrom_of_isAscii (h : IsAscii s) (before : List Char) :
    lowerFrom before s = s.map Char.toLower := by
  induction s generalizing before with
  | nil => rfl
  | cons c s ih =>
    obtain ⟨hc, hs⟩ := List.forall_mem_cons.mp h
    have hsigma : c ≠ 'Σ' := by
      rintro rfl
      exact absurd hc (by decide)
    rw [lowerFrom, if_neg hsigma, lowerChar_of_isAscii hc, ih hs, List.map_cons]
    rfl

/-- A text outside ASCII keeps a part outside ASCII in lower case, or gets a letter k. -/
theorem isAscii_of_lowerFrom {before : List Char}
    (h : ∀ d ∈ lowerFrom before s, d.toNat < 0x80 ∧ d ≠ 'k') : IsAscii s := by
  induction s generalizing before with
  | nil => exact nofun
  | cons c s ih =>
    rw [lowerFrom, List.forall_mem_append] at h
    refine List.forall_mem_cons.mpr ⟨?_, ih h.2⟩
    have hform := h.1
    by_contra hc
    split at hform
    · obtain ⟨hascii, -⟩ := hform _ (List.mem_singleton_self _)
      split at hascii <;> exact absurd hascii (by decide)
    · rcases lowerChar_of_not_isAscii (Nat.not_lt.mp hc) with hk | ⟨d, hd, hlarge⟩
      · rw [hk] at hform
        exact (hform 'k' (List.mem_singleton_self _)).2 rfl
      · exact Nat.not_lt.mpr hlarge (hform d hd).1

/-- **The lower-case form is a plain name** exactly if only the case of ASCII letters was
changed. -/
theorem lower_eq_iff {text name : String} (hname : IsAscii name.toList) (hk : 'k' ∉ name.toList) :
    lower text = name ↔ IsAscii text.toList ∧ lowerAscii text = name := by
  constructor
  · rintro rfl
    rw [lower, String.toList_ofList] at hname hk
    have htext : IsAscii text.toList := by
      refine isAscii_of_lowerFrom fun d hd => ⟨hname d hd, ?_⟩
      rintro rfl
      exact hk hd
    rw [lower, lowerAscii, lowerFrom_of_isAscii htext]
    exact ⟨htext, rfl⟩
  · rintro ⟨htext, rfl⟩
    rw [lower, lowerAscii, lowerFrom_of_isAscii htext]

end LiteralRows.Text
