import LiteralRows.Proofs.Text.Pieces
import LiteralRows.Url.Reading
import Mathlib.Data.List.DropRight

/-!
# Reading a URL that is put together

A descriptor that is put together from a scheme and more is taken apart at the same places again.
What does not count in a text is taken from each of its parts (`IsScheme.cleaned_eq`), the scheme
ends at the first colon (`IsScheme.cutScheme_eq`), and a mark that stands in no part before is
looked for behind it (`cutOff_append`).  How the letters of the scheme are written does not show in
what is read (`IsScheme.parse_congr`).
-/

namespace LiteralRows.Url

/-! ## Marks -/

/-- None of the marks stands in the text. -/
def IsFreeOf (marks s : List Char) : Prop :=
  ∀ c ∈ s, c ∉ marks

instance (marks s : List Char) : Decidable (IsFreeOf marks s) :=
  List.decidableBAll (· ∉ marks) s

section Marks

variable {marks s t : List Char} {c : Char}

theorem isFreeOf_append : IsFreeOf marks (s ++ t) ↔ IsFreeOf marks s ∧ IsFreeOf marks t :=
  List.forall_mem_append

theorem isFreeOf_cons : IsFreeOf marks (c :: s) ↔ c ∉ marks ∧ IsFreeOf marks s :=
  List.forall_mem_cons

theorem IsFreeOf.notMem (h : IsFreeOf marks s) (hmark : c ∈ marks) : c ∉ s :=
  fun hmem => h c hmem hmark

theorem IsFreeOf.of_subset (h : IsFreeOf marks s) {fewer : List Char} (hfewer : fewer ⊆ marks) :
    IsFreeOf fewer s :=
  fun c hc hmark => h c hc (hfewer hmark)

end Marks

/-! ## Schemes -/

/-- The text is a letter and characters that may follow it in a scheme. -/
def IsScheme (s : List Char) : Prop :=
  ∃ c cs, s = c :: cs ∧ c.isAlpha = true ∧ cs.all isSchemeChar = true

instance (s : List Char) : Decidable (IsScheme s) :=
  match s with
  | [] => isFalse fun ⟨_, _, h, _⟩ => nomatch h
  | c :: cs =>
    decidable_of_iff (c.isAlpha = true ∧ cs.all isSchemeChar = true)
      ⟨fun h => ⟨c, cs, rfl, h⟩, fun ⟨_, _, hs, h⟩ => by cases hs; exact h⟩

variable {scheme : List Char}

theorem IsScheme.isFreeOf (h : IsScheme scheme) {marks : List Char}
    (hmarks : marks.any isSchemeChar = false) : IsFreeOf marks scheme := by
  obtain ⟨c, cs, rfl, hc, hcs⟩ := h
  have hc : isSchemeChar c = true := by
    rw [isSchemeChar, Char.isAlphanum, hc]
    rfl
  have hscheme : ∀ d ∈ c :: cs, isSchemeChar d = true :=
    List.forall_mem_cons.mpr ⟨hc, List.all_eq_true.mp hcs⟩
  exact fun d hd hmark => List.any_eq_false.mp hmarks d hmark (hscheme d hd)

theorem lt_toNat_of_isAlpha {c : Char} (h : c.isAlpha = true) : 0x20 < c.toNat := by
  change (decide (c.val ≥ 'A'.val ∧ c.val ≤ 'Z'.val) ||
    (decide (c.val ≥ 'a'.val) && decide (c.val ≤ 'z'.val))) = true at h
  simp only [Bool.or_eq_true, Bool.and_eq_true, decide_eq_true_eq, ge_iff_le,
    UInt32.le_iff_toNat_le] at h
  have hnumber : c.toNat = c.val.toNat := rfl
  have hupper : 'A'.val.toNat = 0x41 := rfl
  have hlower : 'a'.val.toNat = 0x61 := rfl
  omega

/-! ## What does not count -/

/-- The text without tabs and line ends. -/
def unbroken (s : List Char) : List Char :=
  s.filter fun c => !(c == '\t' || c == '\n' || c == '\r')

/-- The text without control characters and spaces at its end. -/
def trimmedEnd (s : List Char) : List Char :=
  s.rdropWhile fun c => c.toNat ≤ 0x20

theorem unbroken_append (s t : List Char) : unbroken (s ++ t) = unbroken s ++ unbroken t :=
  List.filter_append s t

theorem IsFreeOf.unbroken {marks s : List Char} (h : IsFreeOf marks s) :
    IsFreeOf marks (unbroken s) :=
  fun c hc => h c (List.mem_of_mem_filter hc)

/-- A text without tabs and line ends counts in full. -/
theorem unbroken_eq_self {s : List Char} (h : IsFreeOf ['\t', '\n', '\r'] s) : unbroken s = s := by
  refine List.filter_eq_self.mpr fun c hc => ?_
  rw [Bool.not_eq_true', Bool.or_eq_false_iff, Bool.or_eq_false_iff]
  simp only [beq_eq_false_iff_ne]
  exact ⟨⟨ne_of_mem_of_not_mem hc (h.notMem (by decide)),
    ne_of_mem_of_not_mem hc (h.notMem (by decide))⟩, ne_of_mem_of_not_mem hc (h.notMem (by decide))⟩

theorem trimmedEnd_append_cons (s t : List Char) {d : Char} (hd : 0x20 < d.toNat) :
    trimmedEnd (s ++ d :: t) = s ++ d :: trimmedEnd t := by
  have hstops : ∀ rest : List Char,
      (d :: rest).dropWhile (fun c => decide (c.toNat ≤ 0x20)) = d :: rest :=
    fun rest => List.dropWhile_cons_of_neg (by simpa using hd)
  rw [trimmedEnd, trimmedEnd, List.rdropWhile, List.rdropWhile, List.reverse_append,
    List.reverse_cons, List.append_assoc, List.singleton_append, List.dropWhile_append, hstops]
  split
  · rename_i hempty
    rw [List.isEmpty_iff.mp hempty, List.reverse_cons, List.reverse_reverse, List.reverse_nil]
  · rw [List.reverse_append, List.reverse_cons, List.reverse_reverse, List.append_assoc,
      List.singleton_append]

/-- A text with a visible character at its end stays in front of what is cut off. -/
theorem trimmedEnd_append {s : List Char} (hs : s.getLast?.all (0x20 < ·.toNat) = true)
    (t : List Char) : trimmedEnd (s ++ t) = s ++ trimmedEnd t := by
  rcases List.eq_nil_or_concat' s with rfl | ⟨front, d, rfl⟩
  · rfl
  · rw [List.getLast?_concat, Option.all_some, decide_eq_true_eq] at hs
    rw [List.append_assoc, List.singleton_append, trimmedEnd_append_cons front t hs,
      List.append_assoc, List.singleton_append]

/-- A scheme counts in full, and behind it only the end of the text is cut off. -/
theorem IsScheme.cleaned_append (h : IsScheme scheme) (t : List Char) :
    cleaned (scheme ++ ':' :: t) = scheme ++ ':' :: unbroken (trimmedEnd t) := by
  have hscheme : unbroken scheme = scheme := unbroken_eq_self (h.isFreeOf (by decide))
  have hend := trimmedEnd_append_cons scheme t (d := ':') (by decide)
  rw [trimmedEnd, List.rdropWhile] at hend
  have hstart : (scheme ++ ':' :: t).dropWhile (fun c => decide (c.toNat ≤ 0x20)) =
      scheme ++ ':' :: t := by
    obtain ⟨c, cs, rfl, hc, -⟩ := h
    exact List.dropWhile_cons_of_neg (by simpa using lt_toNat_of_isAlpha hc)
  rw [cleaned, hstart, hend]
  change unbroken _ = _
  rw [unbroken_append, hscheme]
  rfl

/-- Behind a scheme, only what stands after the last visible character is cut off. -/
theorem IsScheme.cleaned_eq (h : IsScheme scheme) {d : Char} (hd : 0x20 < d.toNat)
    (s t : List Char) :
    cleaned (scheme ++ ':' :: s ++ d :: t) =
      scheme ++ ':' :: (unbroken s ++ unbroken (d :: trimmedEnd t)) := by
  rw [List.append_assoc, List.cons_append, h.cleaned_append, trimmedEnd_append_cons s t hd,
    unbroken_append]

/-! ## Where it is cut -/

theorem IsScheme.cutScheme_eq (h : IsScheme scheme) (text : List Char) :
    cutScheme (scheme ++ ':' :: text) =
      some (Text.lowerAscii (String.ofList scheme), text) := by
  have hmark : IsFreeOf [':'] scheme := h.isFreeOf (by decide)
  obtain ⟨c, cs, rfl, hc, hcs⟩ := h
  rw [cutScheme, Text.cutAt_append_cons (hmark.notMem (by decide))]
  dsimp only
  rw [hc, hcs, Bool.and_self, if_pos rfl]

theorem cutOff_append {mark : Char} {s : List Char} (h : mark ∉ s) (t : List Char) :
    cutOff mark (s ++ t) = (s ++ (cutOff mark t).1, (cutOff mark t).2) := by
  rw [cutOff, cutOff, Text.cutAt_append h]
  cases Text.cutAt mark t <;> rfl

theorem cutOff_append_cons {mark : Char} {s : List Char} (h : mark ∉ s) (t : List Char) :
    cutOff mark (s ++ mark :: t) = (s, some t) := by
  rw [cutOff, Text.cutAt_append_cons h]

/-- The class of characters that stand bare in the query under this kind of scheme. -/
def SchemeKind.bareInQuery (kind : SchemeKind) : Char → Bool :=
  if kind = .other then Percent.bareInQuery else Percent.bareInSpecialQuery

/-- The URL of a scheme, an authority and a path, with a query and a fragment that are yet to be
written. -/
def ofParts (scheme : String) (query fragment : Option (List Char))
    (target : Option Authority × Path) : Url :=
  { scheme, authority := target.1, path := target.2
    query := query.map fun s =>
      String.ofList (Percent.encode (SchemeKind.ofScheme scheme).bareInQuery s)
    fragment := fragment.map fun s => String.ofList (Percent.encode Percent.bareInFragment s) }

/-- Behind the scheme stand an authority and a path, a query, and a fragment. -/
theorem IsScheme.parse_eq (h : IsScheme scheme) {s : String} {text rest target : List Char}
    {query fragment : Option (List Char)} (hs : cleaned s.toList = scheme ++ ':' :: text)
    (hfragment : cutOff '#' text = (rest, fragment)) (hquery : cutOff '?' rest = (target, query)) :
    parse s =
      (readTarget (.ofScheme (Text.lowerAscii (String.ofList scheme))) target
        (query.isSome || fragment.isSome)).map
        (ofParts (Text.lowerAscii (String.ofList scheme)) query fragment) := by
  rw [parse, hs, h.cutScheme_eq]
  dsimp only
  rw [hfragment]
  dsimp only
  rw [hquery]
  rfl

/-- **The letter case of a scheme does not count** in a URL. -/
theorem IsScheme.parse_congr (h : IsScheme scheme) {scheme' : List Char} (h' : IsScheme scheme')
    (hcase : Text.lowerAscii (String.ofList scheme) = Text.lowerAscii (String.ofList scheme'))
    {s s' : String} {rest : List Char} (hs : s.toList = scheme ++ ':' :: rest)
    (hs' : s'.toList = scheme' ++ ':' :: rest) : parse s = parse s' := by
  rw [parse, parse, hs, hs', h.cleaned_append, h'.cleaned_append, h.cutScheme_eq, h'.cutScheme_eq,
    hcase]

end LiteralRows.Url
