import LiteralRows.Proofs.Toml.Values

/-!
# Lines of TOML documents

The text of a document as a relation that does not mention the reader.  A document is lines with
their ends, and the last one may be without an end (`SpellsDocument`).  A line is a header, a header
in double brackets, or a key and its value, with gaps where they may stand; behind it, and on lines
of their own, there may be comments.  The parts of keys may be bare or quoted.

* `SpellsPath.takes_path?`: a key is read up to its mark.
* `SpellsLine.takes_line?` and `IsTail.exists_nextLine?`: a line is read, and its end.
* `SpellsLines.lines?_append`: complete lines are read whatever follows them, and with that
  `SpellsDocument.lines?_eq`: the lines of a document are read from its text.
* `IsOversized.lines?_eq_none`: nothing is read from a text in which a key is given an integer that
  is too large, and what stands behind it plays no part.
-/

namespace LiteralRows.Toml

open Text (Taken Takes)

/-! ## The grammar -/

/-- Spaces and tabs, or nothing. -/
def IsGap (s : List Char) : Prop :=
  ∀ c ∈ s, isGap c = true

/-- A key of one part: letters, digits, underscores and hyphens, or a string. -/
inductive SpellsKey : String → List Char → Prop
  | bare {s : List Char} (hne : s ≠ []) (h : ∀ c ∈ s, key?.isBare c = true) :
    SpellsKey (String.ofList s) s
  | quoted {key : String} {s : List Char} (h : SpellsString key s) : SpellsKey key s

/-- The parts of a key with points and gaps between them, and a gap behind the last one. -/
inductive SpellsPath : List String → List Char → Prop
  | last {key : String} {k gap : List Char} (hk : SpellsKey key k) (hgap : IsGap gap) :
    SpellsPath [key] (k ++ gap)
  | cons {key : String} {path : List String} {k a b s : List Char} (hk : SpellsKey key k)
    (ha : IsGap a) (hb : IsGap b) (h : SpellsPath path s) :
    SpellsPath (key :: path) (k ++ (a ++ '.' :: (b ++ s)))

/-- What may follow on a line: a gap, and a comment or nothing. -/
inductive IsTail : List Char → Prop
  | plain {gap : List Char} (h : IsGap gap) : IsTail gap
  | comment {gap s : List Char} (h : IsGap gap) (hs : ∀ c ∈ s, isTextChar c = true) :
    IsTail (gap ++ '#' :: s)

/-- A header, or a key and its value. -/
inductive SpellsLine : Line → List Char → Prop
  | header {path : List String} {gap p : List Char} (hgap : IsGap gap) (hp : SpellsPath path p)
    (hlength : path.length ≤ maxDepth) : SpellsLine (.table path) ('[' :: (gap ++ (p ++ [']'])))
  | element {path : List String} {gap p : List Char} (hgap : IsGap gap) (hp : SpellsPath path p)
    (hlength : path.length ≤ maxDepth) :
    SpellsLine (.element path) ('[' :: '[' :: (gap ++ (p ++ [']', ']'])))
  | entry {path : List String} {value : Toml} {p gap s : List Char} (hp : SpellsPath path p)
    (hlength : path.length ≤ maxDepth) (hgap : IsGap gap) (h : SpellsValue value s) :
    SpellsLine (.entry path value) (p ++ '=' :: (gap ++ s))

/-- Lines with their ends, and lines with nothing but a comment between them. -/
inductive SpellsLines : List Line → List Char → Prop
  | nil : SpellsLines [] []
  | blank {lines : List Line} {tail s : List Char} (ht : IsTail tail)
    (more : SpellsLines lines s) : SpellsLines lines (tail ++ '\n' :: s)
  | cons {line : Line} {lines : List Line} {gap t tail s : List Char} (hg : IsGap gap)
    (h : SpellsLine line t) (ht : IsTail tail) (more : SpellsLines lines s) :
    SpellsLines (line :: lines) (gap ++ (t ++ (tail ++ '\n' :: s)))

/-- The lines of a document.  The last one may be without an end. -/
inductive SpellsDocument : List Line → List Char → Prop
  | ended {lines : List Line} {s tail : List Char} (h : SpellsLines lines s) (ht : IsTail tail) :
    SpellsDocument lines (s ++ tail)
  | unended {lines : List Line} {line : Line} {s gap t tail : List Char} (h : SpellsLines lines s)
    (hg : IsGap gap) (hline : SpellsLine line t) (ht : IsTail tail) :
    SpellsDocument (lines ++ [line]) (s ++ (gap ++ (t ++ tail)))

/-- Behind complete lines the text gives a key an integer that does not fit in sixty-four bits. -/
inductive IsOversized : List Char → Prop
  | mk {lines : List Line} {path : List String} {s a p b run rest : List Char} {n : Int}
    (hs : SpellsLines lines s) (ha : IsGap a) (hp : SpellsPath path p)
    (hlength : path.length ≤ maxDepth) (hb : IsGap b) (hrun : anyInteger? run = some n)
    (hfits : fits n = false) (hrest : EndsValue rest) :
    IsOversized (s ++ (a ++ (p ++ '=' :: (b ++ (run ++ rest)))))

/-! ## Gaps and tails -/

section Gaps

variable {gap tail s : List Char} {c : Char}

theorem skipGap_append (h : IsGap gap) (s : List Char) : skipGap (gap ++ s) = skipGap s :=
  List.dropWhile_append_of_pos h

theorem skipGap_cons (h : isGap c = false) (s : List Char) : skipGap (c :: s) = c :: s := by
  rw [skipGap, List.dropWhile_cons, h, if_neg Bool.false_ne_true]

theorem skipGap_gap (hgap : IsGap gap) (hc : isGap c = false) (s : List Char) :
    skipGap (gap ++ c :: s) = c :: s := by
  rw [skipGap_append hgap, skipGap_cons hc]

/-! ### Between lines -/

theorem skipLines_eq (s : List Char) :
    skipLines s = match s.dropWhile fun c => isGap c || c == '\n' with
      | '#' :: t => skipLines (t.dropWhile isTextChar)
      | t => t := by
  rw [skipLines]
  split
  · rename_i heq
    rw [heq]
    rfl
  · rename_i hne
    split
    · rename_i heq
      exact absurd heq (hne _)
    · rfl

theorem skipLines_cons_of_blank (h : (isGap c || c == '\n') = true) (s : List Char) :
    skipLines (c :: s) = skipLines s := by
  rw [skipLines_eq, skipLines_eq s, List.dropWhile_cons, if_pos h]

theorem skipLines_comment (s : List Char) :
    skipLines ('#' :: s) = skipLines (s.dropWhile isTextChar) :=
  skipLines_eq _

/-- The character may begin a line: it is no blank and begins no comment. -/
def StartsLine (c : Char) : Prop :=
  c ∉ [' ', '\t', '\n', '#']

instance (c : Char) : Decidable (StartsLine c) :=
  inferInstanceAs (Decidable (c ∉ [' ', '\t', '\n', '#']))

theorem StartsLine.isGap_eq_false (h : StartsLine c) : isGap c = false := by
  rw [isGap, Bool.or_eq_false_iff, beq_eq_false_iff_ne, beq_eq_false_iff_ne]
  constructor <;> rintro rfl
  · exact h (by decide)
  · exact h (by decide)

theorem StartsLine.skipLines_cons (h : StartsLine c) (s : List Char) :
    skipLines (c :: s) = c :: s := by
  have hblank : ¬ (isGap c || c == '\n') = true := by
    rw [h.isGap_eq_false, Bool.false_or, beq_iff_eq]
    rintro rfl
    exact h (by decide)
  rw [skipLines_eq, List.dropWhile_cons, if_neg hblank]
  split
  · rename_i heq
    refine absurd ?_ h
    rw [(List.cons.inj heq).1]
    decide
  · rfl

theorem skipLines_gap (h : IsGap gap) (s : List Char) : skipLines (gap ++ s) = skipLines s := by
  induction gap with
  | nil => rfl
  | cons c gap ih =>
    obtain ⟨hc, hgap⟩ := List.forall_mem_cons.mp h
    rw [List.cons_append, skipLines_cons_of_blank (by rw [hc, Bool.true_or]), ih hgap]

/-- Nothing, or a line end. -/
def IsEnd (s : List Char) : Prop :=
  s = [] ∨ ∃ t, s = '\n' :: t

theorem dropWhile_isTextChar_append {e : List Char} (hs : ∀ c ∈ s, isTextChar c = true)
    (he : IsEnd e) : (s ++ e).dropWhile isTextChar = e := by
  rw [List.dropWhile_append_of_pos hs]
  rcases he with rfl | ⟨t, rfl⟩
  · rfl
  · rfl

/-- Between lines a tail does not count. -/
theorem IsTail.skipLines_append {e : List Char} (h : IsTail tail) (he : IsEnd e) :
    skipLines (tail ++ e) = skipLines e := by
  cases h with
  | plain h => exact skipLines_gap h e
  | comment h hs =>
    rw [List.append_assoc, skipLines_gap h, List.cons_append, skipLines_comment,
      dropWhile_isTextChar_append hs he]

/-- **Behind a tail the next line is what follows its end.** -/
theorem IsTail.exists_nextLine? {e : List Char} (h : IsTail tail) (he : IsEnd e) :
    ∃ hle, nextLine? (tail ++ e) = some ⟨e.tail, hle⟩ := by
  have hafter : (if (skipGap (tail ++ e)).head? == some '#'
      then (skipGap (tail ++ e)).tail.dropWhile isTextChar else skipGap (tail ++ e)) = e := by
    cases h with
    | plain h =>
      rw [skipGap_append h]
      rcases he with rfl | ⟨t, rfl⟩ <;> rfl
    | comment h hs =>
      rw [List.append_assoc, List.cons_append, skipGap_gap h rfl]
      exact dropWhile_isTextChar_append hs he
  have hle : e.tail.length ≤ (tail ++ e).length := by
    rw [List.length_tail, List.length_append]
    omega
  refine ⟨hle, ?_⟩
  rw [nextLine?]
  split
  · rename_i heq
    obtain rfl := hafter.symm.trans heq
    rfl
  · rename_i heq
    obtain rfl := hafter.symm.trans heq
    rfl
  · rename_i hnil hcons
    rcases he with rfl | ⟨t, rfl⟩
    · exact absurd hafter hnil
    · exact absurd hafter (hcons t)

end Gaps

/-! ## Keys -/

section Keys

variable {key : String} {path : List String} {gap k p : List Char} {mark : Char}

theorem SpellsKey.exists_cons (h : SpellsKey key k) :
    ∃ c t, k = c :: t ∧ StartsLine c ∧ c ≠ '[' := by
  cases h with
  | bare hne hbare =>
    obtain ⟨c, t, rfl⟩ := List.exists_cons_of_ne_nil hne
    have hbare := hbare c List.mem_cons_self
    refine ⟨c, t, rfl, fun hc => ?_, fun hc => ?_⟩
    · simp only [List.mem_cons, List.not_mem_nil, or_false] at hc
      rcases hc with rfl | rfl | rfl | rfl <;> cases hbare
    · rw [hc] at hbare
      cases hbare
  | quoted h =>
    cases h with
    | escaped _ => exact ⟨_, _, rfl, by decide, by decide⟩
    | verbatim _ => exact ⟨_, _, rfl, by decide, by decide⟩

/-- **A key is read up to a character that is not in it.** -/
theorem SpellsKey.takes_key? (h : SpellsKey key k) (hmark : key?.isBare mark = false)
    (rest : List Char) : Takes (key? (k ++ mark :: rest)) key (mark :: rest) := by
  cases h with
  | bare hne hbare =>
    obtain ⟨c, s, rfl⟩ := List.exists_cons_of_ne_nil hne
    obtain ⟨hc, hs⟩ := List.forall_mem_cons.mp hbare
    have hdouble : c ≠ '"' := by
      rintro rfl
      cases hc
    have hsingle : c ≠ '\'' := by
      rintro rfl
      cases hc
    have htake : (s ++ mark :: rest).takeWhile key?.isBare = s := by
      rw [List.takeWhile_append_of_pos hs, List.takeWhile_cons, hmark, if_neg Bool.false_ne_true,
        List.append_nil]
    have hdrop : (s ++ mark :: rest).dropWhile key?.isBare = mark :: rest := by
      rw [List.dropWhile_append_of_pos hs, List.dropWhile_cons, hmark, if_neg Bool.false_ne_true]
    rw [List.cons_append, key?.eq_3 _ _ hdouble hsingle, if_pos hc]
    simp only [htake, hdrop]
    exact ⟨_, rfl⟩
  | quoted h =>
    cases h with
    | escaped h =>
      obtain ⟨_, htaken⟩ := h.takes_escaped? (mark :: rest)
      rw [List.cons_append, List.append_assoc, List.singleton_append, key?, htaken]
      exact ⟨_, rfl⟩
    | verbatim h =>
      obtain ⟨_, htaken⟩ := takes_verbatim? h (mark :: rest)
      rw [List.cons_append, List.append_assoc, List.singleton_append, key?, htaken]
      exact ⟨_, rfl⟩

/-- The character may end a key: it is neither in one, nor in a gap, nor between two parts. -/
def IsMark (c : Char) : Prop :=
  key?.isBare c = false ∧ isGap c = false ∧ c ≠ '.'

theorem SpellsKey.takes_key?_gap (h : SpellsKey key k) (hgap : IsGap gap)
    (hmark : key?.isBare mark = false) (rest : List Char) :
    Takes (key? (k ++ (gap ++ mark :: rest))) key (gap ++ mark :: rest) := by
  cases gap with
  | nil => exact h.takes_key? hmark rest
  | cons c gap =>
    refine h.takes_key? ?_ _
    have hc := hgap c List.mem_cons_self
    rw [isGap, Bool.or_eq_true, beq_iff_eq, beq_iff_eq] at hc
    rcases hc with rfl | rfl <;> rfl

theorem SpellsPath.exists_cons (h : SpellsPath path p) :
    ∃ c t, p = c :: t ∧ StartsLine c ∧ c ≠ '[' := by
  cases h with
  | last hk _ =>
    obtain ⟨c, t, rfl, hc⟩ := hk.exists_cons
    exact ⟨c, _, rfl, hc⟩
  | cons hk _ _ _ =>
    obtain ⟨c, t, rfl, hc⟩ := hk.exists_cons
    exact ⟨c, _, rfl, hc⟩

theorem SpellsPath.skipGap_append (h : SpellsPath path p) (hgap : IsGap gap) (s : List Char) :
    skipGap (gap ++ (p ++ s)) = p ++ s := by
  obtain ⟨c, t, rfl, hc, -⟩ := h.exists_cons
  exact skipGap_gap hgap hc.isGap_eq_false _

/-- The part that stands before a mark is the last one. -/
theorem takes_path?_of_mark {s rest t : List Char} (hkey : Takes (key? (skipGap s)) key rest)
    (hrest : skipGap rest = mark :: t) (hmark : mark ≠ '.') :
    Takes (path? s) [key] (mark :: t) := by
  obtain ⟨_, hkey⟩ := hkey
  rw [path?, hkey, Option.bind_eq_bind, Option.bind_some]
  dsimp only
  split
  · rename_i heq
    exact absurd (List.cons.inj (hrest.symm.trans heq)).1 hmark
  · simp only [hrest]
    exact ⟨_, rfl⟩

/-- Behind a part and a point the other parts are read. -/
theorem takes_path?_of_point {s rest t u : List Char} (hkey : Takes (key? (skipGap s)) key rest)
    (hrest : skipGap rest = '.' :: t) (hmore : Takes (path? t) path u) :
    Takes (path? s) (key :: path) u := by
  obtain ⟨_, hkey⟩ := hkey
  obtain ⟨_, hmore⟩ := hmore
  rw [path?, hkey, Option.bind_eq_bind, Option.bind_some]
  dsimp only
  split
  · rename_i heq
    obtain rfl := (List.cons.inj (hrest.symm.trans heq)).2
    rw [hmore]
    exact ⟨_, rfl⟩
  · rename_i hne
    exact absurd hrest (hne t)

/-- **A key is read part by part**, up to its mark. -/
theorem SpellsPath.takes_path? (h : SpellsPath path p) (hmark : IsMark mark) (rest : List Char)
    {gap : List Char} (hgap : IsGap gap) :
    Takes (path? (gap ++ (p ++ mark :: rest))) path (mark :: rest) := by
  have hstart := h.skipGap_append hgap (mark :: rest)
  obtain ⟨hbare, hplain, hpoint⟩ := hmark
  induction h generalizing gap with
  | @last key k b hk hb =>
    rw [List.append_assoc] at hstart ⊢
    refine takes_path?_of_mark ?_ (skipGap_gap hb hplain rest) hpoint
    rw [hstart]
    exact hk.takes_key?_gap hb hbare rest
  | @cons key path k a b s hk ha hb h ih =>
    have happend : k ++ (a ++ '.' :: (b ++ s)) ++ mark :: rest =
        k ++ (a ++ '.' :: (b ++ (s ++ mark :: rest))) := by
      simp only [List.append_assoc, List.cons_append]
    rw [happend] at hstart ⊢
    refine takes_path?_of_point ?_ (skipGap_gap ha rfl _) (ih hb (h.skipGap_append hb _))
    rw [hstart]
    exact hk.takes_key?_gap ha rfl _

theorem SpellsPath.takes_boundedPath? (h : SpellsPath path p) (hlength : path.length ≤ maxDepth)
    (hmark : IsMark mark) (hgap : IsGap gap) (rest : List Char) :
    Takes (boundedPath? (gap ++ (p ++ mark :: rest))) path (mark :: rest) := by
  obtain ⟨shorter, hpath⟩ := h.takes_path? hmark rest hgap
  rw [boundedPath?, hpath, Option.bind_some, if_pos hlength]
  exact ⟨shorter, rfl⟩

end Keys

/-! ## Lines -/

section Lines

variable {line : Line} {lines : List Line} {path : List String} {gap tail p s t rest : List Char}

theorem isMark_eq : IsMark '=' :=
  ⟨rfl, rfl, by decide⟩

theorem isMark_bracket : IsMark ']' :=
  ⟨rfl, rfl, by decide⟩

theorem SpellsLine.exists_cons (h : SpellsLine line t) : ∃ c u, t = c :: u ∧ StartsLine c := by
  cases h with
  | header _ _ _ => exact ⟨_, _, rfl, by decide⟩
  | element _ _ _ => exact ⟨_, _, rfl, by decide⟩
  | entry hp _ _ _ =>
    obtain ⟨c, u, rfl, hc, -⟩ := hp.exists_cons
    exact ⟨c, _, rfl, hc⟩

/-- Behind a key and its mark a value is read. -/
theorem SpellsPath.exists_pair?_eq (hp : SpellsPath path p) (hlength : path.length ≤ maxDepth)
    (read : ValueReader) (s : List Char) :
    ∃ shorter : ∀ t : Taken Toml (skipGap s), t.rest.length < (p ++ '=' :: s).length,
      pair? read (p ++ '=' :: s) =
        (read (skipGap s)).map fun t => ⟨(path, t.value), t.rest, shorter t⟩ := by
  have hpath := hp.takes_boundedPath? hlength isMark_eq (List.forall_mem_nil _) s
  rw [List.nil_append] at hpath
  obtain ⟨hlt, hpath⟩ := hpath
  have shorter : ∀ t : Taken Toml (skipGap s), t.rest.length < (p ++ '=' :: s).length := by
    intro t
    have := t.shorter
    have := length_skipGap_le s
    rw [List.length_cons] at hlt
    omega
  refine ⟨shorter, ?_⟩
  rw [pair?, hpath, Option.bind_eq_bind, Option.bind_some, Option.map_eq_bind]
  rfl

/-- A line that begins with a key is a pair. -/
theorem SpellsPath.line?_eq (hp : SpellsPath path p) (s : List Char) :
    line? (p ++ s) = (pair? (value? maxDepth) (p ++ s)).map fun t =>
      t.map fun (path, value) => .entry path value := by
  obtain ⟨c, t, rfl, -, hc⟩ := hp.exists_cons
  exact line?.eq_2 _ fun u hu => hc (List.cons.inj hu).1

theorem SpellsPath.takes_header? (hp : SpellsPath path p) (hlength : path.length ≤ maxDepth)
    (hgap : IsGap gap) (rest : List Char) :
    Takes (header? (gap ++ (p ++ ']' :: rest))) (.table path) rest := by
  obtain ⟨_, hpath⟩ := hp.takes_boundedPath? hlength isMark_bracket hgap rest
  have hfirst : ∀ u, gap ++ (p ++ ']' :: rest) ≠ '[' :: u := by
    obtain ⟨c, t, rfl, -, hc⟩ := hp.exists_cons
    rintro u hu
    cases gap with
    | nil => exact hc (List.cons.inj hu).1
    | cons c gap =>
      have hgap := hgap c List.mem_cons_self
      rw [(List.cons.inj hu).1] at hgap
      cases hgap
  rw [header?.eq_2 _ hfirst, hpath, Option.bind_eq_bind, Option.bind_some]
  exact ⟨_, rfl⟩

theorem SpellsPath.takes_header?_element (hp : SpellsPath path p)
    (hlength : path.length ≤ maxDepth) (hgap : IsGap gap) (rest : List Char) :
    Takes (header? ('[' :: (gap ++ (p ++ ']' :: ']' :: rest)))) (.element path) rest := by
  obtain ⟨_, hpath⟩ := hp.takes_boundedPath? hlength isMark_bracket hgap (']' :: rest)
  rw [header?, hpath, Option.bind_eq_bind, Option.bind_some]
  exact ⟨_, rfl⟩

/-- **A line is read up to what follows it.** -/
theorem SpellsLine.takes_line? (h : SpellsLine line t) (hrest : EndsValue rest) :
    Takes (line? (t ++ rest)) line rest := by
  cases h with
  | @header path gap p hgap hp hlength =>
    have happend : '[' :: (gap ++ (p ++ [']'])) ++ rest = '[' :: (gap ++ (p ++ ']' :: rest)) := by
      simp only [List.cons_append, List.append_assoc, List.nil_append]
    rw [happend, line?]
    exact (hp.takes_header? hlength hgap rest).behind '['
  | @element path gap p hgap hp hlength =>
    have happend : '[' :: '[' :: (gap ++ (p ++ [']', ']'])) ++ rest =
        '[' :: '[' :: (gap ++ (p ++ ']' :: ']' :: rest)) := by
      simp only [List.cons_append, List.append_assoc, List.nil_append]
    rw [happend, line?]
    exact (hp.takes_header?_element hlength hgap rest).behind '['
  | @entry path value p gap s hp hlength hgap h =>
    have happend : p ++ '=' :: (gap ++ s) ++ rest = p ++ '=' :: (gap ++ (s ++ rest)) := by
      simp only [List.cons_append, List.append_assoc]
    have hvalue : Takes (value? maxDepth (skipGap (gap ++ (s ++ rest)))) value rest := by
      obtain ⟨c, u, rfl, hc⟩ := h.exists_cons
      rw [List.cons_append, skipGap_gap hgap hc, ← List.cons_append]
      exact h.takes_value? hrest
    obtain ⟨_, hvalue⟩ := hvalue
    obtain ⟨_, hpair⟩ := hp.exists_pair?_eq hlength (value? maxDepth) (gap ++ (s ++ rest))
    rw [happend, hp.line?_eq, hpair, hvalue]
    exact ⟨_, rfl⟩

/-! ### From line to line -/

/-- The lines from the beginning of one on. -/
def linesFrom? (s : List Char) : Option (List Line) :=
  if s = [] then some []
  else do
    let line ← line? s
    let rest ← nextLine? line.rest
    let more ← lines? rest.val
    some (line.value :: more)

theorem lines?_eq (s : List Char) : lines? s = linesFrom? (skipLines s) := by
  rw [lines?]
  split
  · rename_i heq
    rw [heq]
    rfl
  · rename_i hne
    rw [linesFrom?, if_neg hne]

theorem IsGap.endsValue_append (h : IsGap gap) (hs : EndsValue s) : EndsValue (gap ++ s) := by
  cases gap with
  | nil => exact hs
  | cons c gap =>
    rintro _ _ ⟨⟩
    exact .inl (h c List.mem_cons_self)

theorem IsEnd.endsValue (h : IsEnd s) : EndsValue s := by
  rcases h with rfl | ⟨t, rfl⟩
  · exact endsValue_nil
  · rintro _ _ ⟨⟩
    exact .inr (.inr rfl)

theorem IsTail.endsValue_append (h : IsTail tail) (he : IsEnd s) : EndsValue (tail ++ s) := by
  cases h with
  | plain h => exact h.endsValue_append he.endsValue
  | comment h _ =>
    rw [List.append_assoc]
    refine h.endsValue_append ?_
    rintro _ _ ⟨⟩
    exact .inr (.inl rfl)

/-- **A line and its end are read before the other lines.** -/
theorem SpellsLine.lines?_eq {gap e : List Char} (h : SpellsLine line t) (hg : IsGap gap)
    (ht : IsTail tail) (he : IsEnd e) :
    lines? (gap ++ (t ++ (tail ++ e))) = (lines? e.tail).map (line :: ·) := by
  have hstart : skipLines (gap ++ (t ++ (tail ++ e))) = t ++ (tail ++ e) := by
    obtain ⟨c, u, rfl, hc⟩ := h.exists_cons
    rw [skipLines_gap hg]
    exact hc.skipLines_cons _
  have hne : t ++ (tail ++ e) ≠ [] := by
    obtain ⟨c, u, rfl, -⟩ := h.exists_cons
    exact List.cons_ne_nil _ _
  obtain ⟨_, hline⟩ := h.takes_line? (ht.endsValue_append he)
  obtain ⟨_, hnext⟩ := ht.exists_nextLine? he
  rw [Toml.lines?_eq, hstart, linesFrom?, if_neg hne, hline, Option.bind_eq_bind, Option.bind_some]
  dsimp only
  rw [hnext, Option.bind_eq_bind, Option.bind_some, Option.map_eq_bind]
  rfl

theorem IsTail.lines?_append {e : List Char} (h : IsTail tail) (he : IsEnd e) :
    lines? (tail ++ e) = lines? e := by
  rw [lines?_eq, lines?_eq e, h.skipLines_append he]

theorem lines?_newline (s : List Char) : lines? ('\n' :: s) = lines? s := by
  rw [lines?_eq, lines?_eq s, skipLines_cons_of_blank (by decide)]

theorem lines?_nil : lines? [] = some [] := by
  rw [lines?_eq, skipLines_eq]
  rfl

/-- **Complete lines are read before what follows them.** -/
theorem SpellsLines.lines?_append (h : SpellsLines lines s) (rest : List Char) :
    lines? (s ++ rest) = (lines? rest).map (lines ++ ·) := by
  induction h with
  | nil => exact (congrFun Option.map_id (lines? rest)).symm
  | blank ht _ ih =>
    rw [List.append_assoc, List.cons_append, ht.lines?_append (.inr ⟨_, rfl⟩), lines?_newline, ih]
  | cons hg h ht _ ih =>
    simp only [List.append_assoc, List.cons_append]
    rw [h.lines?_eq hg ht (.inr ⟨_, rfl⟩), List.tail_cons, ih, Option.map_map]
    rfl

/-- **The lines of a document are read from its text.** -/
theorem SpellsDocument.lines?_eq (h : SpellsDocument lines s) : lines? s = some lines := by
  cases h with
  | @ended _ _ tail h ht =>
    have htail : lines? tail = some [] := by
      rw [← List.append_nil tail, ht.lines?_append (.inl rfl), lines?_nil]
    rw [h.lines?_append, htail, Option.map_some, List.append_nil]
  | @unended _ line _ gap t tail h hg hline ht =>
    have hlast : lines? (gap ++ (t ++ tail)) = some [line] := by
      rw [← List.append_nil tail, hline.lines?_eq hg ht (.inl rfl), List.tail_nil, lines?_nil]
      rfl
    rw [h.lines?_append, hlast, Option.map_some]

/-- **An integer that does not fit in sixty-four bits spoils the document.** -/
theorem IsOversized.lines?_eq_none (h : IsOversized s) : lines? s = none := by
  cases h with
  | @mk lines path s a p b run rest n hs ha hp hlength hb hrun hfits hrest =>
    have hstart : skipGap (b ++ (run ++ rest)) = run ++ rest := by
      have hword := isIntegerRun_of_anyInteger? hrun
      obtain ⟨c, u, rfl⟩ := List.exists_cons_of_ne_nil hword.ne_nil
      have hgap : isGap c = false := Bool.eq_false_iff.mpr fun hgap =>
        absurd (hword.forall_isWordChar c List.mem_cons_self)
          (Bool.eq_false_iff.mp (not_isWordChar (.inl hgap)))
      exact skipGap_gap hb hgap _
    have hvalue : value? maxDepth (skipGap (b ++ (run ++ rest))) = none := by
      rw [hstart]
      exact value?_eq_none_of_anyInteger? hrun hfits hrest
    have hline : line? (p ++ '=' :: (b ++ (run ++ rest))) = none := by
      obtain ⟨_, hpair⟩ := hp.exists_pair?_eq hlength (value? maxDepth) (b ++ (run ++ rest))
      rw [hp.line?_eq, hpair, hvalue]
      rfl
    have hlines : lines? (a ++ (p ++ '=' :: (b ++ (run ++ rest)))) = none := by
      obtain ⟨c, u, rfl, hc, -⟩ := hp.exists_cons
      rw [Toml.lines?_eq, skipLines_gap ha, List.cons_append, hc.skipLines_cons, linesFrom?,
        if_neg (List.cons_ne_nil _ _), ← List.cons_append, hline]
      rfl
    rw [hs.lines?_append, hlines]
    rfl

end Lines

end LiteralRows.Toml
