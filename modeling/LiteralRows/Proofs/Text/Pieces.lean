import LiteralRows.Text.Pieces

/-!
# Cutting a text that is put together

Where a text that was put together from parts is cut again.  The first separator cuts off the part
before it, whatever comes later; the last one is found in the last part that holds one.  A part is
found wherever it stands (`occursIn_eq_true_iff`).
-/

namespace LiteralRows.Text

theorem cutWhere_eq_none {p : Char → Bool} {s : List Char} (h : ∀ c ∈ s, p c = false) :
    cutWhere p s = none := by
  induction s with
  | nil => rfl
  | cons c s ih =>
    rw [List.forall_mem_cons] at h
    rw [cutWhere, h.1, if_neg Bool.false_ne_true, ih h.2]
    rfl

/-- A part without a separator stays in front of where the rest is cut. -/
theorem cutWhere_append {p : Char → Bool} {s : List Char} (h : ∀ c ∈ s, p c = false)
    (t : List Char) :
    cutWhere p (s ++ t) = (cutWhere p t).map fun (before, after) => (s ++ before, after) := by
  induction s with
  | nil => cases hcut : cutWhere p t <;> rw [List.nil_append, hcut] <;> rfl
  | cons c s ih =>
    rw [List.forall_mem_cons] at h
    rw [List.cons_append, cutWhere, h.1, if_neg Bool.false_ne_true, ih h.2, Option.map_map]
    rfl

/-- A text that can be cut is cut at the same place when something follows it. -/
theorem cutWhere_append_of_eq_some {p : Char → Bool} {s before after : List Char}
    (h : cutWhere p s = some (before, after)) (t : List Char) :
    cutWhere p (s ++ t) = some (before, after ++ t) := by
  induction s generalizing before with
  | nil => cases h
  | cons c s ih =>
    rw [List.cons_append, cutWhere]
    rw [cutWhere] at h
    split at h
    · rename_i hc
      cases h
      rw [if_pos hc]
    · rename_i hc
      rw [if_neg hc]
      cases hcut : cutWhere p s with
      | none =>
        rw [hcut] at h
        cases h
      | some cut =>
        rw [hcut] at h
        cases h
        rw [ih hcut]
        rfl

theorem forall_of_cutWhere_eq_none {p : Char → Bool} {s : List Char} (h : cutWhere p s = none) :
    ∀ c ∈ s, p c = false := by
  induction s with
  | nil => exact nofun
  | cons c s ih =>
    rw [cutWhere] at h
    split at h
    · cases h
    · rename_i hc
      rw [Option.map_eq_none_iff] at h
      exact List.forall_mem_cons.mpr ⟨eq_false_of_ne_true hc, ih h⟩

/-- Cutting loses nothing but the separator. -/
theorem eq_append_of_cutWhere {p : Char → Bool} {s before after : List Char}
    (h : cutWhere p s = some (before, after)) : ∃ c, p c = true ∧ s = before ++ c :: after := by
  induction s generalizing before with
  | nil => cases h
  | cons d s ih =>
    rw [cutWhere] at h
    split at h
    · rename_i hd
      cases h
      exact ⟨d, hd, rfl⟩
    · cases hcut : cutWhere p s with
      | none =>
        rw [hcut] at h
        cases h
      | some cut =>
        rw [hcut] at h
        cases h
        obtain ⟨c, hc, hs⟩ := ih hcut
        exact ⟨c, hc, congrArg (d :: ·) hs⟩

/-! ## At a character -/

theorem beq_eq_false_of_notMem {sep : Char} {s : List Char} (h : sep ∉ s) :
    ∀ c ∈ s, (c == sep) = false := by
  intro c hc
  rw [beq_eq_false_iff_ne]
  rintro rfl
  exact h hc

theorem cutAt_eq_none {sep : Char} {s : List Char} (h : sep ∉ s) : cutAt sep s = none :=
  cutWhere_eq_none (beq_eq_false_of_notMem h)

theorem cutAt_append {sep : Char} {s : List Char} (h : sep ∉ s) (t : List Char) :
    cutAt sep (s ++ t) = (cutAt sep t).map fun (before, after) => (s ++ before, after) :=
  cutWhere_append (beq_eq_false_of_notMem h) t

theorem cutAt_cons_self (sep : Char) (t : List Char) : cutAt sep (sep :: t) = some ([], t) := by
  rw [cutAt, cutWhere, beq_self_eq_true, if_pos rfl]

/-- A text is cut at its first separator. -/
theorem cutAt_append_cons {sep : Char} {s : List Char} (h : sep ∉ s) (t : List Char) :
    cutAt sep (s ++ sep :: t) = some (s, t) := by
  rw [cutAt_append h, cutAt_cons_self]
  simp only [Option.map_some, List.append_nil]

/-- A text is cut at the last separator, which stands in the part behind the first one if that holds
any. -/
theorem cutAtLast_append_cons (sep : Char) (s t : List Char) :
    cutAtLast sep (s ++ sep :: t) =
      match cutAtLast sep t with
      | some (before, after) => some (s ++ sep :: before, after)
      | none => some (s, t) := by
  have hreverse : (s ++ sep :: t).reverse = t.reverse ++ sep :: s.reverse := by
    rw [List.reverse_append, List.reverse_cons, List.append_assoc, List.singleton_append]
  rw [cutAtLast, cutAtLast, hreverse, cutAt]
  cases hcut : cutWhere (· == sep) t.reverse with
  | none =>
    rw [cutWhere_append (forall_of_cutWhere_eq_none hcut), ← cutAt, cutAt_cons_self]
    simp only [Option.map_some, Option.map_none, List.append_nil, List.reverse_reverse]
  | some cut =>
    rw [cutWhere_append_of_eq_some hcut]
    simp only [Option.map_some, List.reverse_append, List.reverse_cons, List.reverse_reverse,
      List.append_assoc, List.singleton_append]

/-! ## Occurrences -/

/-- A text occurs in another where it stands between two parts of it. -/
theorem occursIn_eq_true_iff {needle s : List Char} : occursIn needle s = true ↔ needle <:+: s := by
  induction s with
  | nil => rw [occursIn, List.isEmpty_iff, List.infix_nil]
  | cons c s ih =>
    rw [occursIn, Bool.or_eq_true, List.isPrefixOf_iff_prefix, ih, List.infix_cons_iff]

/-! ## Pieces -/

/-- A character that separates nothing stands in one of the pieces. -/
theorem exists_mem_splitOn {sep c : Char} {s : List Char} (hc : c ≠ sep) (h : c ∈ s) :
    ∃ piece ∈ splitOn sep s, c ∈ piece := by
  induction s with
  | nil => cases h
  | cons d s ih =>
    rw [splitOn]
    by_cases hd : d = sep
    · rw [if_pos hd]
      obtain ⟨piece, hpiece, hmem⟩ := ih ((List.mem_cons.mp h).resolve_left (hd ▸ hc))
      exact ⟨piece, List.mem_cons_of_mem _ hpiece, hmem⟩
    rw [if_neg hd]
    rcases hsplit : splitOn sep s with _ | ⟨first, pieces⟩
    · exact absurd hsplit (splitOn_ne_nil sep s)
    rcases List.mem_cons.mp h with rfl | hs
    · exact ⟨c :: first, List.mem_cons_self, List.mem_cons_self⟩
    · obtain ⟨piece, hpiece, hmem⟩ := ih hs
      rw [hsplit] at hpiece
      rcases List.mem_cons.mp hpiece with rfl | hpieces
      · exact ⟨d :: piece, List.mem_cons_self, List.mem_cons_of_mem _ hmem⟩
      · exact ⟨piece, List.mem_cons_of_mem _ hpieces, hmem⟩

/-- A text without the separator is its own only piece. -/
theorem splitOn_eq_self {sep : Char} {s : List Char} (h : sep ∉ s) : splitOn sep s = [s] := by
  induction s with
  | nil => rfl
  | cons c s ih =>
    rw [List.mem_cons, not_or] at h
    rw [splitOn, if_neg (Ne.symm h.1), ih h.2]

theorem notMem_of_mem_splitOn {sep : Char} {s piece : List Char} (h : piece ∈ splitOn sep s) :
    sep ∉ piece := by
  induction s generalizing piece with
  | nil =>
    rw [splitOn_nil, List.mem_singleton] at h
    rw [h]
    exact nofun
  | cons c s ih =>
    rw [splitOn] at h
    split at h
    · rcases List.mem_cons.mp h with rfl | hpieces
      · exact nofun
      · exact ih hpieces
    · rename_i hc
      rcases hsplit : splitOn sep s with _ | ⟨first, pieces⟩
      · exact absurd hsplit (splitOn_ne_nil sep s)
      rw [hsplit] at h ih
      rcases List.mem_cons.mp h with rfl | hpieces
      · rw [List.mem_cons, not_or]
        exact ⟨Ne.symm hc, ih List.mem_cons_self⟩
      · exact ih (List.mem_cons_of_mem _ hpieces)

end LiteralRows.Text
