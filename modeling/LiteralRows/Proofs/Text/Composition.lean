import LiteralRows.Proofs.Text.Pieces
import LiteralRows.Text.Normal
import Mathlib.Data.List.Basic

/-!
# Characters that composition cannot reach

Bringing a text into its composed normal form takes characters away: a letter and the marks behind
it become one character.  A character that neither is a mark nor joins with one stays in the text,
whatever stands around it (`IsApart.mem_composed`).

The at sign is one of these (`isApart_at`).  That is a fact about a table which is written as a
text, and it is found in one pass over that text: `avoids` goes through it once and looks at the
first value of every entry, without taking the text apart.
-/

namespace LiteralRows.Text

/-! ## The first values of a table -/

namespace Table

/-- The value that is read at a character of a table, if it is the first of its entry. -/
def readOn (value : Option Nat) (c : Char) : Option Nat :=
  match value with
  | none => if c = ':' then some 0 else none
  | some n => if c = '.' ∨ c = ' ' then none else some (n * 16 + (hexValue? c).getD 0)

/-- No entry has this for its first value, where `value` is the first value that is being read. -/
def avoids (n : Nat) (value : Option Nat) : List Char → Bool
  | [] => value != some n
  | c :: s => ((readOn value c).isSome || value != some n) && avoids n (readOn value c) s

theorem avoids_cons_iff {n : Nat} {value : Option Nat} {c : Char} {s : List Char} :
    avoids n value (c :: s) = true ↔
      (readOn value c = none → value ≠ some n) ∧ avoids n (readOn value c) s = true := by
  rw [avoids, Bool.and_eq_true, Bool.or_eq_true, bne_iff_ne]
  refine and_congr_left fun _ => ?_
  cases readOn value c with
  | none => exact ⟨fun h _ => h.resolve_left nofun, fun h => .inr (h rfl)⟩
  | some m => exact ⟨fun _ => nofun, fun _ => .inl rfl⟩

theorem readOn_blank (value : Option Nat) : readOn value ' ' = none := by
  cases value <;> rfl

/-- What holds of a table holds of each of its entries. -/
theorem avoids_splitOn {n : Nat} {s : List Char} {value : Option Nat}
    (h : avoids n value s = true) :
    ∃ piece pieces, splitOn ' ' s = piece :: pieces ∧ avoids n value piece = true ∧
      ∀ piece ∈ pieces, avoids n none piece = true := by
  induction s generalizing value with
  | nil => exact ⟨[], [], rfl, h, nofun⟩
  | cons c s ih =>
    rw [avoids_cons_iff] at h
    obtain ⟨piece, pieces, hsplit, hpiece, hpieces⟩ := ih h.2
    rw [splitOn]
    by_cases hc : c = ' '
    · subst hc
      rw [if_pos rfl, hsplit]
      rw [readOn_blank] at h hpiece
      exact ⟨[], _, rfl, bne_iff_ne.mpr (h.1 rfl), List.forall_mem_cons.mpr ⟨hpiece, hpieces⟩⟩
    · rw [if_neg hc, hsplit]
      exact ⟨c :: piece, pieces, rfl, avoids_cons_iff.mpr ⟨h.1, hpiece⟩, hpieces⟩

theorem avoids_of_cutAt {n : Nat} {s before values : List Char} (h : avoids n none s = true)
    (hcut : cutAt ':' s = some (before, values)) : avoids n (some 0) values = true := by
  induction s generalizing before with
  | nil => cases hcut
  | cons c s ih =>
    rw [avoids_cons_iff] at h
    by_cases hc : c = ':'
    · subst hc
      rw [cutAt_cons_self] at hcut
      cases hcut
      exact h.2
    · have hnone : readOn none c = none := if_neg hc
      rw [hnone] at h
      have hother : ':' ∉ [c] := fun h => hc (List.mem_singleton.mp h).symm
      rw [← List.singleton_append, cutAt_append hother] at hcut
      cases hrest : cutAt ':' s with
      | none =>
        rw [hrest] at hcut
        cases hcut
      | some cut =>
        rw [hrest] at hcut
        cases hcut
        exact ih h.2 hrest

/-- The number that the digits at the front of the values stand for. -/
theorem foldl_ne_of_avoids {n m : Nat} {values : List Char} (hblank : ' ' ∉ values)
    (h : avoids n (some m) values = true) :
    ∃ first more, splitOn '.' values = first :: more ∧
      first.foldl (fun n c => n * 16 + (hexValue? c).getD 0) m ≠ n := by
  induction values generalizing m with
  | nil => exact ⟨[], [], rfl, fun hm => bne_iff_ne.mp h (congrArg some hm)⟩
  | cons c values ih =>
    rw [avoids_cons_iff] at h
    rw [List.mem_cons, not_or] at hblank
    rw [splitOn]
    by_cases hc : c = '.'
    · rw [if_pos hc]
      have hnone : readOn (some m) c = none := if_pos (.inl hc)
      exact ⟨[], _, rfl, fun hm => h.1 hnone (congrArg some hm)⟩
    · have hsome : readOn (some m) c = some (m * 16 + (hexValue? c).getD 0) :=
        if_neg (not_or.mpr ⟨hc, Ne.symm hblank.1⟩)
      rw [hsome] at h
      obtain ⟨first, more, hsplit, hne⟩ := ih hblank.2 h.2
      rw [if_neg hc, hsplit]
      exact ⟨c :: first, more, rfl, hne⟩

theorem head?_values_ne {n : Nat} {s : List Char} (hblank : ' ' ∉ s)
    (h : avoids n none s = true) : (Entry.ofText s).values.head? ≠ some n := by
  cases hcut : cutAt ':' s with
  | none =>
    have hhalves : halves ':' s = (s, []) := by rw [halves, hcut, Option.getD_none]
    simp only [Entry.ofText, hhalves]
    exact nofun
  | some cut =>
    have hhalves : halves ':' s = cut := by rw [halves, hcut, Option.getD_some]
    obtain ⟨c, -, hs⟩ := eq_append_of_cutWhere hcut
    have hvalues : ' ' ∉ cut.2 := fun hmem =>
      hblank (hs ▸ List.mem_append_right _ (List.mem_cons_of_mem c hmem))
    obtain ⟨first, more, hsplit, hne⟩ := foldl_ne_of_avoids hvalues (avoids_of_cutAt h hcut)
    simp only [Entry.ofText, hhalves]
    split
    · exact nofun
    · rw [hsplit, List.map_cons, List.head?_cons]
      exact fun hhead => hne (Option.some.inj hhead)

/-- The text of a table with blanks for its line ends, from which its entries are read. -/
def blanked (s : List Char) : List Char :=
  s.map fun c => if c = '\n' then ' ' else c

/-- **One pass over the text of a table** finds that no entry has a certain first value. -/
theorem head?_values_ofText_ne {n : Nat} {s : List Char} (h : avoids n none (blanked s) = true) :
    ∀ e ∈ ofText (String.ofList s), e.values.head? ≠ some n := by
  intro e he
  rw [ofText, String.toList_ofList, List.mem_map] at he
  obtain ⟨piece, hmem, rfl⟩ := he
  rw [List.mem_filter] at hmem
  obtain ⟨first, pieces, hsplit, hfirst, hpieces⟩ := avoids_splitOn h
  refine head?_values_ne (notMem_of_mem_splitOn hmem.1) ?_
  have hpiece : piece ∈ first :: pieces := hsplit ▸ hmem.1
  rcases List.mem_cons.mp hpiece with rfl | hrest
  · exact hfirst
  · exact hpieces piece hrest

theorem origins_eq_nil {t : Table} {n : Nat} {values : List Nat}
    (h : ∀ e ∈ t, e.values.head? ≠ some n) (hvalues : values.head? = some n) :
    t.origins values = [] := by
  rw [origins, List.map_eq_nil_iff, List.filter_eq_nil_iff]
  intro e he heq
  rw [beq_iff_eq] at heq
  exact h e he (heq ▸ hvalues)

end Table

/-! ## Composition -/

namespace Normal

open NormalTable (composites)

/-- The character is no mark, and joins with none. -/
structure IsApart (c : Char) : Prop where
  ascii : c.toNat < 0x80
  joinsNone : ∀ d, composite? c d = none

theorem place_perm (c : Char) (s : List Char) : (place c s).Perm (c :: s) := by
  induction s with
  | nil => exact .refl _
  | cons d s ih =>
    rw [place]
    split
    · exact (ih.cons d).trans (.swap c d s)
    · exact .refl _

/-- Only the order of marks changes. -/
theorem arrange_perm (s : List Char) : (arrange s).Perm s := by
  have hfold : ∀ done : List Char,
      (s.foldl (fun done c => place c done) done).Perm (s.reverse ++ done) := by
    induction s with
    | nil => exact fun done => .refl _
    | cons c s ih =>
      intro done
      rw [List.foldl_cons, List.reverse_cons, List.append_assoc]
      exact (ih (place c done)).trans ((place_perm c done).append_left _)
  rw [arrange]
  refine (List.reverse_perm _).trans ((hfold []).trans ?_)
  rw [List.append_nil]
  exact List.reverse_perm s

theorem IsApart.composite?_eq_none {c : Char} (h : IsApart c) (d : Char) :
    composite? d c = none := by
  have hlow : c.toNat < leastMark := Nat.lt_of_lt_of_le h.ascii (by decide)
  rw [composite?, if_pos hlow]

/-- Two characters that are put together are others. -/
theorem IsApart.ne_of_composite? {c a b joined : Char} (h : IsApart c)
    (hjoined : composite? a b = some joined) : c ≠ a ∧ c ≠ b := by
  constructor
  · rintro rfl
    rw [h.joinsNone] at hjoined
    cases hjoined
  · rintro rfl
    rw [h.composite?_eq_none] at hjoined
    cases hjoined

/-- Characters are put together around one that joins with none. -/
theorem IsApart.mem_composeFrom {c : Char} (h : IsApart c) (s : List Char) :
    ∀ (start : Char) (marks : List Char), c = start ∨ c ∈ marks ∨ c ∈ s →
      c ∈ composeFrom start marks s := by
  induction s with
  | nil =>
    intro start marks hmem
    rw [composeFrom, List.mem_cons, List.mem_reverse]
    exact hmem.imp_right fun hmem => hmem.resolve_right List.not_mem_nil
  | cons d s ih =>
    intro start marks hmem
    rw [composeFrom]
    split
    · rename_i joined hjoined
      have hother : c ≠ start ∧ c ≠ d := by
        split at hjoined
        · cases hjoined
        · exact h.ne_of_composite? hjoined
      have hmem := hmem.resolve_left hother.1
      exact ih joined marks (.inr (hmem.imp_right fun hd => (List.mem_cons.mp hd).resolve_left
        hother.2))
    · split
      · rw [List.cons_append, List.mem_cons, List.mem_append, List.mem_reverse]
        refine hmem.imp_right (Or.imp_right fun hd => ih d [] ?_)
        exact (List.mem_cons.mp hd).imp_right .inr
      · refine ih start (d :: marks) (hmem.imp_right fun hmem => ?_)
        rw [List.mem_cons] at hmem ⊢
        rcases hmem with hmarks | rfl | hs
        · exact .inl (.inr hmarks)
        · exact .inl (.inl rfl)
        · exact .inr hs

/-- **A character that composition cannot reach stays in the text.** -/
theorem IsApart.mem_composed {c : Char} (h : IsApart c) {s : List Char} (hs : c ∈ s) :
    c ∈ composed s := by
  have hdecompose : c ∈ decompose s := by
    refine List.mem_flatMap.mpr ⟨c, hs, ?_⟩
    rw [decomposeChar, if_pos h.ascii]
    exact List.mem_singleton_self c
  have harrange := (arrange_perm _).mem_iff.mpr hdecompose
  rw [composed]
  cases hd : arrange (decompose s) with
  | nil =>
    rw [hd] at harrange
    cases harrange
  | cons d rest =>
    rw [hd, List.mem_cons] at harrange
    exact h.mem_composeFrom rest d [] (harrange.imp_right .inr)

set_option maxRecDepth 100000 in
theorem exists_composites_eq : ∃ s : List Char,
    composites = Table.ofText (String.ofList s) ∧ Table.avoids 0x40 none (Table.blanked s) = true :=
  ⟨_, rfl, by decide +kernel⟩

/-- No character of the table decomposes into an at sign and something else. -/
theorem head?_values_composites_ne : ∀ e ∈ composites, e.values.head? ≠ some 0x40 := by
  obtain ⟨s, hs, havoids⟩ := exists_composites_eq
  rw [hs]
  exact Table.head?_values_ofText_ne havoids

theorem isApart_at : IsApart '@' where
  ascii := by decide
  joinsNone := by
    intro d
    have horigins : composites.origins ((decomposeChar '@' ++ [d]).map Char.toNat) = [] :=
      Table.origins_eq_nil head?_values_composites_ne rfl
    have hsyllable : syllable? '@' d = none := by
      rw [syllable?, if_neg fun h => absurd h.1 (by decide), if_neg fun h => absurd h.1 (by decide)]
    rw [composite?, horigins, hsyllable]
    split <;> rfl

end Normal

end LiteralRows.Text
