import LiteralRows.Json.Reader
import LiteralRows.Proofs.Text.Digits
import LiteralRows.Proofs.Text.Reading

/-!
# JSON texts

Which texts stand for which values, as a grammar that does not mention how they are read:

    value     null, true, false, a number, a string, a list or an object
    string    " parts "
    list      [ gap ]  or  [ item , ... , item ]
    object    { gap }  or  { field , ... , field }
    item      gap value gap
    field     gap string gap : item

A gap is white space or nothing.  A value may have many texts, as its gaps and its escapes are free.

`parse?_of_spaced` says that the reader finds the value of every such text.
-/

namespace LiteralRows.Json

open Text (Taken Takes EndsDigits endsDigits_cons endsDigits_nil ne_of_isDigit)

/-! ## The grammar -/

/-- White space, or nothing. -/
def IsGap (s : List Char) : Prop :=
  ∀ c ∈ s, isSpace c = true

/-- The inside of a string, part by part. -/
inductive SpellsParts : List Piece → List Char → Prop
  | nil : SpellsParts [] []
  | plain {c : Char} {parts : List Piece} {s : List Char} (hquote : c ≠ '"') (hslash : c ≠ '\\')
    (hcontrol : 0x20 ≤ c.toNat) (more : SpellsParts parts s) :
    SpellsParts (.char c :: parts) (c :: s)
  | escaped {e c : Char} {parts : List Piece} {s : List Char} (h : escaped? e = some c)
    (more : SpellsParts parts s) : SpellsParts (.char c :: parts) ('\\' :: e :: s)
  | unit {a b c d : Char} {n : Nat} {parts : List Piece} {s : List Char}
    (h : Text.number? 16 [a, b, c, d] = some n) (more : SpellsParts parts s) :
    SpellsParts (.unit n :: parts) ('\\' :: 'u' :: a :: b :: c :: d :: s)

/-- The digits before the point: a zero, or digits that begin with another. -/
inductive IsWhole : List Char → Prop
  | zero : IsWhole ['0']
  | digits {c : Char} {d : List Char} (hzero : c ≠ '0') (hd : ∀ x ∈ c :: d, x.isDigit = true) :
    IsWhole (c :: d)

/-- A point and digits, or nothing. -/
inductive SpellsFraction : Option (List Char) → List Char → Prop
  | absent : SpellsFraction none []
  | given {d : List Char} (hne : d ≠ []) (hd : ∀ x ∈ d, x.isDigit = true) :
    SpellsFraction (some d) ('.' :: d)

/-- An exponent mark, a sign or none, and digits; or nothing. -/
inductive SpellsExponent : Option (List Char) → List Char → Prop
  | absent : SpellsExponent none []
  | given {mark : Char} {sign d : List Char} (hmark : mark = 'e' ∨ mark = 'E')
    (hsign : sign = [] ∨ sign = ['+'] ∨ sign = ['-']) (hne : d ≠ [])
    (hd : ∀ x ∈ d, x.isDigit = true) :
    SpellsExponent (some (sign ++ d)) (mark :: (sign ++ d))

/-- A number without a sign. -/
inductive SpellsMagnitude : Number → List Char → Prop
  | mk {whole f e : List Char} {fraction exponent : Option (List Char)} (hw : IsWhole whole)
    (hf : SpellsFraction fraction f) (he : SpellsExponent exponent e) :
    SpellsMagnitude { whole, fraction, exponent } (whole ++ (f ++ e))

/-- A number, with or without a minus sign. -/
inductive SpellsNumber : Number → List Char → Prop
  | plain {n : Number} {s : List Char} (h : SpellsMagnitude n s) : SpellsNumber n s
  | negative {n : Number} {s : List Char} (h : SpellsMagnitude n s) :
    SpellsNumber { n with negative := true } ('-' :: s)

mutual

/-- The text of a value, without any white space around it. -/
inductive Spells : Json → List Char → Prop
  | null : Spells .null ['n', 'u', 'l', 'l']
  | boolTrue : Spells (.bool true) ['t', 'r', 'u', 'e']
  | boolFalse : Spells (.bool false) ['f', 'a', 'l', 's', 'e']
  | number {n : Number} {s : List Char} (h : SpellsNumber n s) : Spells (.number n) s
  | string {parts : List Piece} {s : List Char} (h : SpellsParts parts s) :
    Spells (ofPieces parts) ('"' :: (s ++ ['"']))
  | emptyArray {gap : List Char} (h : IsGap gap) : Spells (.array []) ('[' :: (gap ++ [']']))
  | array {items : List Json} {s : List Char} (h : SpellsItems items s) :
    Spells (.array items) ('[' :: (s ++ [']']))
  | emptyObject {gap : List Char} (h : IsGap gap) :
    Spells (.object []) ('\x7b' :: (gap ++ ['\x7d']))
  | object {fields : List (Option (List Char) × Json)} {s : List Char} (h : SpellsFields fields s) :
    Spells (ofFields fields) ('\x7b' :: (s ++ ['\x7d']))

/-- The text of a value between white space. -/
inductive Spaced : Json → List Char → Prop
  | mk {j : Json} {a s b : List Char} (ha : IsGap a) (h : Spells j s) (hb : IsGap b) :
    Spaced j (a ++ (s ++ b))

/-- The text of the items of a list; there is at least one. -/
inductive SpellsItems : List Json → List Char → Prop
  | one {item : Json} {s : List Char} (h : Spaced item s) : SpellsItems [item] s
  | cons {item : Json} {items : List Json} {s t : List Char} (h : Spaced item s)
    (more : SpellsItems items t) : SpellsItems (item :: items) (s ++ ',' :: t)

/-- The text of a field of an object. -/
inductive SpellsField : Option (List Char) × Json → List Char → Prop
  | mk {parts : List Piece} {item : Json} {a k b s : List Char} (ha : IsGap a)
    (hk : SpellsParts parts k) (hb : IsGap b) (h : Spaced item s) :
    SpellsField (assemble? parts, item) (a ++ '"' :: (k ++ '"' :: (b ++ ':' :: s)))

/-- The text of the fields of an object; there is at least one. -/
inductive SpellsFields : List (Option (List Char) × Json) → List Char → Prop
  | one {field : Option (List Char) × Json} {s : List Char} (h : SpellsField field s) :
    SpellsFields [field] s
  | cons {field : Option (List Char) × Json} {fields : List (Option (List Char) × Json)}
    {s t : List Char} (h : SpellsField field s) (more : SpellsFields fields t) :
    SpellsFields (field :: fields) (s ++ ',' :: t)

end

/-! ## White space -/

theorem isGap_nil : IsGap [] := nofun

theorem skip_append {gap : List Char} (h : IsGap gap) (s : List Char) : skip (gap ++ s) = skip s :=
  List.dropWhile_append_of_pos h

theorem skip_cons {c : Char} (h : isSpace c = false) (s : List Char) : skip (c :: s) = c :: s := by
  rw [skip, List.dropWhile_cons_of_neg]
  rw [h]
  exact Bool.false_ne_true

/-- After white space a text goes on with this character. -/
theorem skip_gap {gap : List Char} (h : IsGap gap) {c : Char} (hc : isSpace c = false)
    (s : List Char) : skip (gap ++ c :: s) = c :: s := by
  rw [skip_append h, skip_cons hc]

/-! ## Strings -/

theorem escaped?_u : escaped? 'u' = none := by decide

/-- **The inside of a string is read up to the closing quote.** -/
theorem SpellsParts.takes_pieces {parts : List Piece} {s : List Char} (h : SpellsParts parts s)
    (rest : List Char) : Takes (pieces (s ++ '"' :: rest)) parts rest := by
  induction h with
  | nil => exact ⟨_, rfl⟩
  | @plain c parts s hquote hslash hcontrol _ ih =>
    obtain ⟨_, ih⟩ := ih
    have hplain : ¬ (c = '\\' ∨ c.toNat < 0x20) := by
      rintro (rfl | hlt)
      · exact hslash rfl
      · exact absurd hcontrol (Nat.not_le.mpr hlt)
    rw [List.cons_append, pieces.eq_5 c _ hquote (fun _ _ _ _ _ hc _ => hslash hc)
      (fun _ _ hc _ => hslash hc), if_neg hplain, ih]
    exact ⟨_, rfl⟩
  | @escaped e c parts s h _ ih =>
    obtain ⟨_, ih⟩ := ih
    have hu : e ≠ 'u' := by
      rintro rfl
      rw [escaped?_u] at h
      cases h
    rw [List.cons_append, List.cons_append, pieces.eq_4 e _ (fun _ _ _ _ _ he _ => hu he), h]
    rw [Option.bind_eq_bind, Option.bind_some, ih]
    exact ⟨_, rfl⟩
  | @unit a b c d n parts s h _ ih =>
    obtain ⟨_, ih⟩ := ih
    simp only [List.cons_append, pieces, h, Option.bind_eq_bind, Option.bind_some, ih]
    exact ⟨_, rfl⟩

/-! ## Numbers -/

/-- The text does not go on with anything that could belong to a number. -/
def EndsNumber (s : List Char) : Prop :=
  ∀ c s', s = c :: s' → c.isDigit = false ∧ c ≠ '.' ∧ c ≠ 'e' ∧ c ≠ 'E'

theorem EndsNumber.endsDigits {s : List Char} (h : EndsNumber s) : EndsDigits s :=
  fun c s' hs => (h c s' hs).1

theorem takes_digits? {d rest : List Char} (hne : d ≠ []) (hd : ∀ x ∈ d, x.isDigit = true)
    (hrest : EndsDigits rest) : Takes (digits? (d ++ rest)) d rest := by
  obtain ⟨c, d, rfl⟩ := List.exists_cons_of_ne_nil hne
  obtain ⟨hc, hd⟩ := List.forall_mem_cons.mp hd
  rw [List.cons_append, digits?, if_pos hc]
  simp only [Text.takeWhile_isDigit_append hd hrest, Text.dropWhile_isDigit_append hd hrest]
  exact ⟨_, rfl⟩

theorem IsWhole.takes_whole? {w rest : List Char} (h : IsWhole w) (hrest : EndsDigits rest) :
    Takes (whole? (w ++ rest)) w rest := by
  cases h with
  | zero => exact ⟨_, rfl⟩
  | @digits c d hzero hd =>
    have htaken := takes_digits? (List.cons_ne_nil c d) hd hrest
    rwa [List.cons_append, whole?.eq_2 _ fun _ hc => hzero (List.cons.inj hc).1]

/-- What stands behind a fraction cannot belong to it. -/
theorem SpellsFraction.exists_fraction? {x : Option (List Char)} {f rest : List Char}
    (h : SpellsFraction x f) (hrest : EndsDigits rest) (hpoint : ∀ s, rest ≠ '.' :: s) :
    ∃ hle, fraction? (f ++ rest) = some (x, ⟨rest, hle⟩) := by
  cases h with
  | absent => exact ⟨_, fraction?.eq_2 rest fun s hs => hpoint s hs⟩
  | given hne hd =>
    obtain ⟨_, htaken⟩ := takes_digits? hne hd hrest
    rw [List.cons_append, fraction?, htaken]
    exact ⟨_, rfl⟩

/-- A text without an exponent mark in front has no exponent. -/
theorem exponent?_of_ne {c : Char} (hlower : c ≠ 'e') (hupper : c ≠ 'E') (s : List Char) :
    exponent? (c :: s) = some (none, .whole (c :: s)) := by
  rw [exponent?.eq_def]
  exact if_neg (not_or.mpr ⟨hlower, hupper⟩)

theorem SpellsExponent.exists_exponent? {x : Option (List Char)} {e rest : List Char}
    (h : SpellsExponent x e) (hrest : EndsNumber rest) :
    ∃ hle, exponent? (e ++ rest) = some (x, ⟨rest, hle⟩) := by
  cases h with
  | absent =>
    cases rest with
    | nil => exact ⟨_, rfl⟩
    | cons c rest =>
      obtain ⟨-, -, hlower, hupper⟩ := hrest c rest rfl
      exact ⟨_, exponent?_of_ne hlower hupper rest⟩
  | @given mark sign d hmark hsign hne hd =>
    obtain ⟨_, htaken⟩ := takes_digits? hne hd hrest.endsDigits
    rcases hsign with rfl | rfl | rfl
    · obtain ⟨c, d, rfl⟩ := List.exists_cons_of_ne_nil hne
      have hc := hd c List.mem_cons_self
      have hplus : ∀ s, c :: d ++ rest ≠ '+' :: s :=
        fun s hs => ne_of_isDigit hc (by decide) (List.cons.inj hs).1
      have hminus : ∀ s, c :: d ++ rest ≠ '-' :: s :=
        fun s hs => ne_of_isDigit hc (by decide) (List.cons.inj hs).1
      rw [List.nil_append, List.cons_append, exponent?.eq_4 _ _ hplus hminus, if_pos hmark, htaken]
      exact ⟨_, rfl⟩
    · have hread := exponent?.eq_2 mark (d ++ rest)
      rw [if_pos hmark, htaken] at hread
      exact ⟨_, hread⟩
    · have hread := exponent?.eq_3 mark (d ++ rest)
      rw [if_pos hmark, htaken] at hread
      exact ⟨_, hread⟩

/-- Neither an exponent nor what stands behind a number goes on with a digit or a point. -/
theorem SpellsExponent.head_append {x : Option (List Char)} {e rest : List Char}
    (h : SpellsExponent x e) (hrest : EndsNumber rest) :
    EndsDigits (e ++ rest) ∧ ∀ s, e ++ rest ≠ '.' :: s := by
  cases h with
  | absent => exact ⟨hrest.endsDigits, fun s hs => (hrest _ _ hs).2.1 rfl⟩
  | given hmark _ _ _ =>
    rcases hmark with rfl | rfl
    · exact ⟨endsDigits_cons rfl _, fun s hs => absurd (List.cons.inj hs).1 (by decide)⟩
    · exact ⟨endsDigits_cons rfl _, fun s hs => absurd (List.cons.inj hs).1 (by decide)⟩

theorem SpellsFraction.endsDigits_append {x : Option (List Char)} {f rest : List Char}
    (h : SpellsFraction x f) (hrest : EndsDigits rest) : EndsDigits (f ++ rest) := by
  cases h with
  | absent => exact hrest
  | given _ _ => exact endsDigits_cons rfl _

theorem SpellsMagnitude.exists_cons {n : Number} {s : List Char} (h : SpellsMagnitude n s) :
    ∃ c t, s = c :: t ∧ c.isDigit = true := by
  cases h with
  | mk hw hf he =>
    cases hw with
    | zero => exact ⟨'0', _, rfl, rfl⟩
    | @digits c d _ hd => exact ⟨c, _, rfl, hd c List.mem_cons_self⟩

/-- A number begins with a digit or a minus sign. -/
theorem SpellsNumber.exists_cons {n : Number} {s : List Char} (h : SpellsNumber n s) :
    ∃ c t, s = c :: t ∧ (c.isDigit = true ∨ c = '-') := by
  cases h with
  | plain h =>
    obtain ⟨c, t, hs, hc⟩ := h.exists_cons
    exact ⟨c, t, hs, .inl hc⟩
  | negative h => exact ⟨'-', _, rfl, .inr rfl⟩

theorem SpellsMagnitude.takes_magnitude? {n : Number} {s rest : List Char}
    (h : SpellsMagnitude n s) (hrest : EndsNumber rest) :
    Takes (magnitude? (s ++ rest)) n rest := by
  cases h with
  | @mk whole f e fraction exponent hw hf he =>
    obtain ⟨hdigits, hpoint⟩ := he.head_append hrest
    obtain ⟨_, hwhole⟩ := hw.takes_whole? (hf.endsDigits_append hdigits)
    obtain ⟨_, hfraction⟩ := hf.exists_fraction? hdigits hpoint
    obtain ⟨_, hexponent⟩ := he.exists_exponent? hrest
    rw [List.append_assoc, List.append_assoc, magnitude?, hwhole]
    simp only [Option.bind_eq_bind, Option.bind_some, hfraction, hexponent]
    exact ⟨_, rfl⟩

/-- **A number is read up to what cannot belong to it.** -/
theorem SpellsNumber.takes_readNumber? {n : Number} {s rest : List Char} (h : SpellsNumber n s)
    (hrest : EndsNumber rest) : Takes (readNumber? (s ++ rest)) n rest := by
  cases h with
  | plain h =>
    obtain ⟨c, t, rfl, hc⟩ := h.exists_cons
    have hminus : ∀ u, c :: t ++ rest ≠ '-' :: u :=
      fun u hu => ne_of_isDigit hc (by decide) (List.cons.inj hu).1
    rw [readNumber?.eq_2 _ hminus]
    exact h.takes_magnitude? hrest
  | negative h =>
    obtain ⟨_, htaken⟩ := h.takes_magnitude? hrest
    rw [List.cons_append, readNumber?, htaken]
    exact ⟨_, rfl⟩

/-! ## Values -/

section Values

variable {s t rest left after : List Char} {j item : Json} {c : Char} {items : List Json}
  {field : Option (List Char) × Json} {fields : List (Option (List Char) × Json)}

theorem takes_value?_scalar (h : skip s = c :: t) (hquote : c ≠ '"') (hlist : c ≠ '[')
    (hobject : c ≠ '\x7b') (ht : Takes (scalar? (c :: t)) j rest) : Takes (value? s) j rest := by
  obtain ⟨_, ht⟩ := ht
  rw [value?]
  split
  case h_1 heq => cases h.symm.trans heq
  case h_2 heq => exact absurd (List.cons.inj (h.symm.trans heq)).1 hquote
  case h_3 heq => exact absurd (List.cons.inj (h.symm.trans heq)).1 hlist
  case h_4 heq => exact absurd (List.cons.inj (h.symm.trans heq)).1 hobject
  case h_5 heq =>
    cases h.symm.trans heq
    rw [ht]
    exact ⟨_, rfl⟩

theorem takes_value?_string {parts : List Piece} (h : skip s = '"' :: t)
    (ht : Takes (pieces t) parts rest) : Takes (value? s) (ofPieces parts) rest := by
  obtain ⟨_, ht⟩ := ht
  rw [value?]
  split
  case h_2 heq =>
    cases h.symm.trans heq
    rw [ht]
    exact ⟨_, rfl⟩
  case h_5 hne _ _ heq => exact absurd (List.cons.inj (heq.symm.trans h)).1 hne
  all_goals
    rename_i heq
    cases h.symm.trans heq

/-- Behind an opening bracket the list ends at once, or there are items. -/
theorem takes_value?_array (h : skip s = '[' :: t)
    (ht : items = [] ∧ skip t = ']' :: rest ∨
      (∀ u, skip t ≠ ']' :: u) ∧ Takes (items? t) items rest) :
    Takes (value? s) (.array items) rest := by
  rw [value?]
  split
  case h_3 heq =>
    cases h.symm.trans heq
    obtain ⟨rfl, ht⟩ | ⟨hne, ⟨_, ht⟩⟩ := ht
    · split
      case h_1 heq =>
        cases ht.symm.trans heq
        exact ⟨_, rfl⟩
      case h_2 hother => exact absurd ht (hother _)
    · split
      case h_1 heq => exact absurd heq (hne _)
      case h_2 =>
        rw [ht]
        exact ⟨_, rfl⟩
  case h_5 _ hne _ heq => exact absurd (List.cons.inj (heq.symm.trans h)).1 hne
  all_goals
    rename_i heq
    cases h.symm.trans heq

/-- Behind an opening brace the object ends at once, or there are fields. -/
theorem takes_value?_object (h : skip s = '\x7b' :: t)
    (ht : fields = [] ∧ skip t = '\x7d' :: rest ∨
      (∀ u, skip t ≠ '\x7d' :: u) ∧ Takes (fields? t) fields rest) :
    Takes (value? s) (ofFields fields) rest := by
  rw [value?]
  split
  case h_4 heq =>
    cases h.symm.trans heq
    obtain ⟨rfl, ht⟩ | ⟨hne, ⟨_, ht⟩⟩ := ht
    · split
      case h_1 heq =>
        cases ht.symm.trans heq
        exact ⟨_, rfl⟩
      case h_2 hother => exact absurd ht (hother _)
    · split
      case h_1 heq => exact absurd heq (hne _)
      case h_2 =>
        rw [ht]
        exact ⟨_, rfl⟩
  case h_5 _ _ hne heq => exact absurd (List.cons.inj (heq.symm.trans h)).1 hne
  all_goals
    rename_i heq
    cases h.symm.trans heq

/-- Behind an item the list ends, or it goes on with a comma and more items. -/
theorem takes_items? (h : Takes (value? s) item left)
    (hleft : items = [] ∧ skip left = ']' :: rest ∨
      ∃ t, skip left = ',' :: t ∧ Takes (items? t) items rest) :
    Takes (items? s) (item :: items) rest := by
  obtain ⟨_, h⟩ := h
  rw [items?, h, Option.bind_eq_bind, Option.bind_some]
  obtain ⟨rfl, hleft⟩ | ⟨t, hleft, ⟨_, ht⟩⟩ := hleft
  · split
    case h_1 heq =>
      cases hleft.symm.trans heq
      exact ⟨_, rfl⟩
    case h_2 heq => cases hleft.symm.trans heq
    case h_3 hne _ => exact absurd hleft (hne _)
  · split
    case h_1 heq => cases hleft.symm.trans heq
    case h_2 heq =>
      cases hleft.symm.trans heq
      rw [ht]
      exact ⟨_, rfl⟩
    case h_3 hne => exact absurd hleft (hne _)

/-- A field is read from the text, up to what follows its value after white space. -/
inductive TakesField : Option (List Char) × Json → List Char → List Char → Prop
  | mk {parts : List Piece} {item : Json} {s t afterKey u left : List Char}
    (hs : skip s = '"' :: t) (hkey : Takes (pieces t) parts afterKey)
    (hmark : skip afterKey = ':' :: u) (hitem : Takes (value? u) item left) :
    TakesField (assemble? parts, item) s (skip left)

/-- Behind a field the object ends, or it goes on with a comma and more fields. -/
theorem takes_fields? (h : TakesField field s after)
    (hafter : fields = [] ∧ after = '\x7d' :: rest ∨
      ∃ t, after = ',' :: t ∧ Takes (fields? t) fields rest) :
    Takes (fields? s) (field :: fields) rest := by
  obtain ⟨hs, ⟨_, hkey⟩, hmark, ⟨_, hitem⟩⟩ := h
  rw [fields?]
  split
  case h_2 hne => exact absurd hs (hne _)
  case h_1 heq =>
    cases hs.symm.trans heq
    rw [hkey, Option.bind_eq_bind, Option.bind_some]
    dsimp only
    split
    case h_2 hne => exact absurd hmark (hne _)
    case h_1 heq =>
      cases hmark.symm.trans heq
      rw [hitem, Option.bind_eq_bind, Option.bind_some]
      obtain ⟨rfl, hafter⟩ | ⟨t, hafter, ⟨_, ht⟩⟩ := hafter
      · split
        case h_1 heq =>
          cases hafter.symm.trans heq
          exact ⟨_, rfl⟩
        case h_2 heq => cases hafter.symm.trans heq
        case h_3 hne _ => exact absurd hafter (hne _)
      · split
        case h_1 heq => cases hafter.symm.trans heq
        case h_2 heq =>
          cases hafter.symm.trans heq
          rw [ht]
          exact ⟨_, rfl⟩
        case h_3 hne => exact absurd hafter (hne _)
end Values

/-! ## Whole texts -/

theorem endsNumber_nil : EndsNumber [] := nofun

theorem endsNumber_cons {c : Char}
    (h : c.isDigit = false ∧ c ≠ '.' ∧ c ≠ 'e' ∧ c ≠ 'E') (s : List Char) :
    EndsNumber (c :: s) := by
  rintro _ _ ⟨⟩
  exact h

theorem isSpace_cases {c : Char} (h : isSpace c = true) :
    c = ' ' ∨ c = '\n' ∨ c = '\r' ∨ c = '\t' := by
  simpa only [isSpace, Bool.or_eq_true, beq_iff_eq, or_assoc] using h

theorem isSpace_of_isDigit {c : Char} (h : c.isDigit = true) : isSpace c = false := by
  rw [Bool.eq_false_iff]
  intro hspace
  rcases isSpace_cases hspace with rfl | rfl | rfl | rfl <;> cases h

theorem IsGap.endsNumber_append {gap rest : List Char} (h : IsGap gap) (hrest : EndsNumber rest) :
    EndsNumber (gap ++ rest) := by
  cases gap with
  | nil => exact hrest
  | cons c gap =>
    refine endsNumber_cons ?_ (gap ++ rest)
    rcases isSpace_cases (h c List.mem_cons_self) with rfl | rfl | rfl | rfl <;> decide

theorem SpellsNumber.takes_scalar? {n : Number} {s rest : List Char} (h : SpellsNumber n s)
    (hrest : EndsNumber rest) : Takes (scalar? (s ++ rest)) (.number n) rest := by
  obtain ⟨_, htaken⟩ := h.takes_readNumber? hrest
  obtain ⟨c, t, rfl, hc⟩ := h.exists_cons
  have hhead : ∀ x : Char, x.isDigit = false → x ≠ '-' → ∀ u, c :: t ++ rest ≠ x :: u := by
    rintro x hx hminus u hu
    obtain ⟨rfl, -⟩ := List.cons.inj hu
    rcases hc with hc | hc
    · exact ne_of_isDigit hc hx rfl
    · exact hminus hc
  rw [scalar?.eq_4 _ (fun _ => hhead 'n' rfl (by decide) _) (fun _ => hhead 't' rfl (by decide) _)
    (fun _ => hhead 'f' rfl (by decide) _), htaken]
  exact ⟨_, rfl⟩

/-- A value begins neither with white space nor with the closing bracket of a list. -/
theorem Spells.exists_cons {j : Json} {s : List Char} (h : Spells j s) :
    ∃ c t, s = c :: t ∧ isSpace c = false ∧ c ≠ ']' := by
  cases h with
  | number h =>
    obtain ⟨c, t, rfl, hc | rfl⟩ := h.exists_cons
    · exact ⟨c, t, rfl, isSpace_of_isDigit hc, ne_of_isDigit hc rfl⟩
    · exact ⟨'-', t, rfl, rfl, by decide⟩
  | _ => exact ⟨_, _, rfl, rfl, by decide⟩

theorem SpellsItems.skip_ne {items : List Json} {s : List Char} (h : SpellsItems items s)
    (rest u : List Char) : skip (s ++ rest) ≠ ']' :: u := by
  have hspaced : ∀ {j s}, Spaced j s → ∀ rest, skip (s ++ rest) ≠ ']' :: u := by
    rintro _ _ ⟨ha, h, hb⟩ rest hu
    obtain ⟨c, t, rfl, hspace, hne⟩ := h.exists_cons
    rw [List.append_assoc, List.append_assoc, List.cons_append, skip_gap ha hspace] at hu
    exact hne (List.cons.inj hu).1
  cases h with
  | one h => exact hspaced h rest
  | cons h more =>
    rw [List.append_assoc]
    exact hspaced h _

theorem SpellsFields.skip_ne {fields : List (Option (List Char) × Json)} {s : List Char}
    (h : SpellsFields fields s) (rest u : List Char) : skip (s ++ rest) ≠ '\x7d' :: u := by
  have hfield : ∀ {field s}, SpellsField field s → ∀ rest, skip (s ++ rest) ≠ '\x7d' :: u := by
    rintro _ _ ⟨ha, hk, hb, h⟩ rest hu
    rw [List.append_assoc, List.cons_append, skip_gap ha rfl] at hu
    exact absurd (List.cons.inj hu).1 (by decide)
  cases h with
  | one h => exact hfield h rest
  | cons h more =>
    rw [List.append_assoc]
    exact hfield h _

-- One theorem for each relation of the grammar, by recursion over how the text is put together.
-- What follows a text is a variable in all of them, as it is another part each time.
mutual

/-- **A value is read from its text**, whatever white space stands before it. -/
theorem Spells.takes_value? : ∀ {j : Json} {s : List Char}, Spells j s →
    ∀ {gap rest : List Char}, IsGap gap → EndsNumber rest →
      Takes (value? (gap ++ (s ++ rest))) j rest
  | _, _, .null, _, _, hgap, _ =>
    takes_value?_scalar (skip_gap hgap rfl _) (by decide) (by decide) (by decide) ⟨_, rfl⟩
  | _, _, .boolTrue, _, _, hgap, _ =>
    takes_value?_scalar (skip_gap hgap rfl _) (by decide) (by decide) (by decide) ⟨_, rfl⟩
  | _, _, .boolFalse, _, _, hgap, _ =>
    takes_value?_scalar (skip_gap hgap rfl _) (by decide) (by decide) (by decide) ⟨_, rfl⟩
  | _, _, .number h, _, _, hgap, hrest => by
    have htaken := h.takes_scalar? hrest
    obtain ⟨c, t, rfl, hc⟩ := h.exists_cons
    rcases hc with hc | rfl
    · exact takes_value?_scalar (skip_gap hgap (isSpace_of_isDigit hc) _) (ne_of_isDigit hc rfl)
        (ne_of_isDigit hc rfl) (ne_of_isDigit hc rfl) htaken
    · exact takes_value?_scalar (skip_gap hgap rfl _) (by decide) (by decide) (by decide) htaken
  | _, _, .string h, _, rest, hgap, _ => by
    rw [List.cons_append, List.append_assoc]
    exact takes_value?_string (skip_gap hgap rfl _) (h.takes_pieces rest)
  | _, _, .emptyArray h, _, rest, hgap, _ => by
    rw [List.cons_append, List.append_assoc]
    exact takes_value?_array (skip_gap hgap rfl _) (.inl ⟨rfl, skip_gap h rfl rest⟩)
  | _, _, .array h, _, rest, hgap, _ => by
    rw [List.cons_append, List.append_assoc]
    exact takes_value?_array (skip_gap hgap rfl _) (.inr ⟨h.skip_ne _, h.takes_items? rest⟩)
  | _, _, .emptyObject h, _, rest, hgap, _ => by
    rw [List.cons_append, List.append_assoc]
    exact takes_value?_object (skip_gap hgap rfl _) (.inl ⟨rfl, skip_gap h rfl rest⟩)
  | _, _, .object h, _, rest, hgap, _ => by
    rw [List.cons_append, List.append_assoc]
    exact takes_value?_object (skip_gap hgap rfl _) (.inr ⟨h.skip_ne _, h.takes_fields? rest⟩)

/-- Behind a value between white space, the text goes on after the white space. -/
theorem Spaced.exists_takes_value? : ∀ {j : Json} {s : List Char}, Spaced j s →
    ∀ {rest : List Char}, EndsNumber rest →
      ∃ left, Takes (value? (s ++ rest)) j left ∧ skip left = skip rest
  | _, _, .mk (b := b) ha h hb, rest, hrest => by
    refine ⟨b ++ rest, ?_, skip_append hb rest⟩
    rw [List.append_assoc, List.append_assoc]
    exact h.takes_value? ha (hb.endsNumber_append hrest)

theorem SpellsItems.takes_items? : ∀ {items : List Json} {s : List Char}, SpellsItems items s →
    ∀ rest : List Char, Takes (items? (s ++ ']' :: rest)) items rest
  | _, _, .one h, rest => by
    obtain ⟨left, htaken, hleft⟩ :=
      h.exists_takes_value? (endsNumber_cons (c := ']') (by decide) rest)
    exact Json.takes_items? htaken (.inl ⟨rfl, hleft.trans (skip_cons rfl rest)⟩)
  | _, _, .cons (t := t) h more, rest => by
    obtain ⟨left, htaken, hleft⟩ :=
      h.exists_takes_value? (endsNumber_cons (c := ',') (by decide) (t ++ ']' :: rest))
    rw [List.append_assoc]
    exact Json.takes_items? htaken
      (.inr ⟨_, hleft.trans (skip_cons rfl _), more.takes_items? rest⟩)

theorem SpellsField.takesField : ∀ {field : Option (List Char) × Json} {s : List Char},
    SpellsField field s → ∀ {rest : List Char}, EndsNumber rest →
      TakesField field (s ++ rest) (skip rest)
  | _, _, .mk ha hk hb h, rest, hrest => by
    obtain ⟨left, htaken, hleft⟩ := h.exists_takes_value? hrest
    rw [← hleft, List.append_assoc, List.cons_append, List.append_assoc, List.cons_append,
      List.append_assoc, List.cons_append]
    exact .mk (skip_gap ha rfl _) (hk.takes_pieces _) (skip_gap hb rfl _) htaken

theorem SpellsFields.takes_fields? : ∀ {fields : List (Option (List Char) × Json)}
    {s : List Char}, SpellsFields fields s →
      ∀ rest : List Char, Takes (fields? (s ++ '\x7d' :: rest)) fields rest
  | _, _, .one h, rest =>
    Json.takes_fields? (h.takesField (endsNumber_cons (by decide) rest))
      (.inl ⟨rfl, skip_cons rfl rest⟩)
  | _, _, .cons h more, rest => by
    rw [List.append_assoc]
    exact Json.takes_fields? (h.takesField (endsNumber_cons (by decide) _))
      (.inr ⟨_, skip_cons rfl _, more.takes_fields? rest⟩)

end

/-- **A text of the grammar is read as its value.** -/
theorem parse?_of_spaced {j : Json} {text : String} (h : Spaced j text.toList) :
    parse? text = some j := by
  obtain ⟨left, htaken, hleft⟩ := h.exists_takes_value? endsNumber_nil
  rw [List.append_nil] at htaken
  obtain ⟨_, htaken⟩ := htaken
  rw [parse?, htaken]
  exact if_pos (by rw [hleft]; rfl)

end LiteralRows.Json
