import LiteralRows.Proofs.Records.Outline

/-!
# Records are read by the names of their fields

What is found in the text of an object, for each of the records.  `DecodesFields` says that texts of
values that are alike are read alike, that a faulty value is not read, and which record is read from
an object, field by field.

Among the values of fields the natural numbers are the ones with bounds.  `numberField_holds_iff`
says which texts are accepted for them: digits and nothing else, for a number below the bound.

`records_read_by_name` is the main statement.
-/

namespace LiteralRows

open Json

/-! ## Texts of natural numbers -/

/-- A text of digits is the text of a number without a sign, a fraction and an exponent. -/
theorem Json.Spells.eq_number {j : Json} {s : List Char} (h : Spells j s)
    (hdigits : ∀ c ∈ s, c.isDigit = true) : j = .number { whole := s } := by
  cases h with
  | number h =>
    cases h with
    | negative _ => exact absurd (hdigits _ List.mem_cons_self) (by decide)
    | plain h =>
      cases h with
      | mk hw hf he =>
        obtain ⟨-, hdigits⟩ := List.forall_mem_append.mp hdigits
        obtain ⟨hfraction, hexponent⟩ := List.forall_mem_append.mp hdigits
        cases hf with
        | given _ _ => exact absurd (hfraction _ List.mem_cons_self) (by decide)
        | absent =>
          cases he with
          | given hmark _ _ _ =>
            have hmark' := hexponent _ List.mem_cons_self
            rcases hmark with rfl | rfl <;> cases hmark'
          | absent => rw [List.append_nil, List.append_nil]
  | _ => exact absurd (hdigits _ List.mem_cons_self) (by decide)

theorem Json.IsWhole.forall_isDigit {s : List Char} (h : IsWhole s) :
    ∀ c ∈ s, c.isDigit = true := by
  cases h with
  | zero => exact List.forall_mem_singleton.mpr rfl
  | digits _ hd => exact hd

/-- The text of a number that stands for a natural number consists of digits. -/
theorem Json.SpellsNumber.forall_isDigit {m : Number} {s : List Char} (h : SpellsNumber m s)
    (hm : m.negative = false ∧ m.fraction = none ∧ m.exponent = none) :
    ∀ c ∈ s, c.isDigit = true := by
  obtain ⟨hnegative, hfraction, hexponent⟩ := hm
  cases h with
  | negative _ => cases hnegative
  | plain h =>
    cases h with
    | mk hw hf he =>
      cases hf with
      | given _ _ => cases hfraction
      | absent =>
        cases he with
        | given _ _ _ _ => cases hexponent
        | absent =>
          rw [List.append_nil, List.append_nil]
          exact hw.forall_isDigit

theorem Json.Number.natural?_eq_some {m : Number} {n : Nat} (h : m.natural? = some n) :
    (m.negative = false ∧ m.fraction = none ∧ m.exponent = none) ∧
      Text.numberOf 10 m.whole = n := by
  rw [natural?] at h
  split at h
  · cases h
  · rename_i hplain
    simp only [Bool.or_eq_true, not_or, Bool.not_eq_true, Option.isSome_eq_false_iff,
      Option.isNone_iff_eq_none, and_assoc] at hplain
    exact ⟨hplain, Option.some.inj h⟩

theorem Json.exists_number_of_asNat? {j : Json} {bound n : Nat}
    (h : j.datum.asNat? bound = some n) :
    ∃ m, j = .number m ∧ m.natural? = some n ∧ n < bound := by
  cases j with
  | number m =>
    refine ⟨m, rfl, ?_⟩
    rw [datum] at h
    split at h
    · rename_i n' hn
      obtain ⟨hlt, hsame⟩ := Option.ite_none_right_eq_some.mp h
      cases hsame
      exact ⟨hn, hlt⟩
    · cases h
  | _ => cases h

theorem Json.Spells.spellsNumber {m : Number} {s : List Char} (h : Spells (.number m) s) :
    SpellsNumber m s := by
  generalize hj : Json.number m = j at h
  cases h with
  | number h =>
    cases hj
    exact h
  | string _ =>
    rw [ofPieces] at hj
    split at hj <;> cases hj
  | object _ =>
    rw [ofFields] at hj
    split at hj <;> cases hj
  | _ => cases hj

/-- **A natural number is read from its digits**, and from no other text. -/
theorem Json.Spells.asNat?_iff {j : Json} {s : List Char} (h : Spells j s) (bound n : Nat) :
    j.datum.asNat? bound = some n ↔
      (∀ c ∈ s, c.isDigit = true) ∧ Text.numberOf 10 s = n ∧ n < bound := by
  have hread : (∀ c ∈ s, c.isDigit = true) →
      j.datum = .natural (Text.numberOf 10 s) := by
    intro hdigits
    rw [h.eq_number hdigits]
    rfl
  constructor
  · intro hn
    obtain ⟨m, rfl, hnatural, hlt⟩ := exists_number_of_asNat? hn
    have hdigits := h.spellsNumber.forall_isDigit (Number.natural?_eq_some hnatural).1
    rw [hread hdigits] at hn
    exact ⟨hdigits, (Option.ite_none_right_eq_some.mp hn).2 |> Option.some.inj, hlt⟩
  · rintro ⟨hdigits, rfl, hlt⟩
    rw [hread hdigits]
    exact if_pos hlt

/-- **The field of a number holds what its digits say**, wherever in an object it is given. -/
theorem PoolSettings.numberField_holds_iff (key : String) (get : PoolSettings → Nat)
    (bound default : Nat) {before after : List (String × Json)} {j : Json} {s : List Char}
    (hbefore : key ∉ before.map Prod.fst) (hafter : key ∉ after.map Prod.fst) (h : Spells j s)
    (p : PoolSettings) :
    (numberField key get bound default).Holds (namedData (before ++ (key, j) :: after)) p ↔
      (∀ c ∈ s, c.isDigit = true) ∧ Text.numberOf 10 s = get p ∧ get p < bound := by
  have hnamed : Datum.named key (namedData (before ++ (key, j) :: after)) = [j.datum] := by
    rw [← keys_namedData] at hbefore hafter
    rw [namedData_append, Datum.named_append, Datum.named_of_notMem hbefore, namedData,
      Datum.named_cons_self, Datum.named_of_notMem hafter, List.nil_append]
  rw [← h.asNat?_iff, Field.Holds]
  show Field.value? _ (Datum.named key _) = _ ↔ _
  rw [hnamed]
  exact Iff.rfl

/-! ## Texts of records -/

/-- How a record with these fields is read from the text of an object. -/
structure DecodesFields {α : Type} (outline : Outline) (fields : List (Field α))
    (read : Datum → Option α) : Prop where
  /-- The order of the fields, fields that are not known, defaults that are written out and white
  space make no difference, at any level. -/
  alike : ∀ {j j' : Json} {text text' : String}, Alike outline j j' → Spaced j text.toList →
    Spaced j' text'.toList → readText? read text = readText? read text'
  /-- Nothing is read where a known field is given twice, or is missing and has no default, at any
  level. -/
  faulty : ∀ {j : Json} {text : String}, Faulty outline j → Spaced j text.toList →
    readText? read text = none
  /-- Nothing is read where a key stands for no text. -/
  unpaired : ∀ {text : String}, Spaced .unpaired text.toList → readText? read text = none
  /-- What is read has in each field what is read there, or its default. -/
  some_iff : ∀ {given : List (String × Json)} {text : String} {x : α},
    Spaced (.object given) text.toList →
      (readText? read text = some x ↔ ∀ f ∈ fields, f.Holds (namedData given) x)
  /-- What is read has the default in a field that is missing. -/
  default_of_missing : ∀ {given : List (String × Json)} {text : String} {x : α} {f : Field α},
    Spaced (.object given) text.toList → f ∈ fields → f.key ∉ given.map Prod.fst →
      readText? read text = some x → f.default = some (f.get x)

theorem readText?_of_spaced {α : Type} {read : Datum → Option α} {j : Json} {text : String}
    (h : Spaced j text.toList) : readText? read text = read j.datum := by
  rw [readText?, parse?_of_spaced h, Option.bind_some]

theorem DecodesFields.of_follows {α : Type} {outline : Outline} {fields : List (Field α)}
    {read : Datum → Option α} (hfollows : Follows outline read) (hread : ReadsFields fields read)
    (hmisfit : read .misfit = none) : DecodesFields outline fields read := by
  have hiff : ∀ {given : List (String × Json)} {text : String} {x : α},
      Spaced (.object given) text.toList →
        (readText? read text = some x ↔ ∀ f ∈ fields, f.Holds (namedData given) x) := by
    intro given text x h
    rw [readText?_of_spaced h]
    exact hread _ x
  constructor
  case alike =>
    intro j j' text text' halike h h'
    rw [readText?_of_spaced h, readText?_of_spaced h', hfollows.alike halike]
  case faulty =>
    intro j text hfaulty h
    rw [readText?_of_spaced h, hfollows.faulty hfaulty]
  case unpaired =>
    intro text h
    rw [readText?_of_spaced h]
    exact hmisfit
  case some_iff => exact hiff
  case default_of_missing =>
    intro given text x f h hf hmissing hx
    have hholds := (hiff h).mp hx f hf
    rwa [Field.Holds, Datum.named_of_notMem (by rwa [keys_namedData])] at hholds

/-- **Records are read by the names of their fields.**  For each of the six records that are read
from objects, neither the order of the fields nor white space nor a field that is not known makes a
difference, at any level.  A field that is missing has its default, and without one there is no
record; no known field may be given twice, wherever the two stand.  A number is read from its
digits, when nothing else is written and the number is below the bound of its field. -/
theorem records_read_by_name :
    DecodesFields Quoting.outline Quoting.fields Quoting.ofDatum? ∧
    DecodesFields Column.outline Column.fields Column.ofDatum? ∧
    DecodesFields PoolSettings.outline PoolSettings.fields PoolSettings.ofDatum? ∧
    DecodesFields SourceSettings.outline SourceSettings.fields SourceSettings.ofDatum? ∧
    DecodesFields Config.outline Config.fields Config.ofDatum? ∧
    DecodesFields ResultSet.outline ResultSet.fields ResultSet.ofDatum? ∧
    ∀ (key : String) (get : PoolSettings → Nat) (bound default : Nat)
      {before after : List (String × Json)} {j : Json} {s : List Char},
      key ∉ before.map Prod.fst → key ∉ after.map Prod.fst → Spells j s → ∀ p,
        ((PoolSettings.numberField key get bound default).Holds
            (namedData (before ++ (key, j) :: after)) p ↔
          (∀ c ∈ s, c.isDigit = true) ∧ Text.numberOf 10 s = get p ∧ get p < bound) :=
  ⟨.of_follows Quoting.follows Quoting.readsFields rfl,
    .of_follows Column.follows Column.readsFields rfl,
    .of_follows PoolSettings.follows PoolSettings.readsFields rfl,
    .of_follows SourceSettings.follows SourceSettings.readsFields rfl,
    .of_follows Config.follows Config.readsFields rfl,
    .of_follows ResultSet.follows ResultSet.readsFields rfl,
    fun key get bound default _ _ _ _ hbefore hafter h p =>
      PoolSettings.numberField_holds_iff key get bound default hbefore hafter h p⟩

/-- A configuration is read alike if its fields come in another order, with one more that nobody
knows and one more that has its default.  A field that is given twice is refused, nothing at all is
a pool with its defaults, and the largest number is kept. -/
theorem records_read_by_name_in_any_order :
    let short := Json.object [("pool", .object [("max_open", .ofNat 4)])]
    let long := Json.object [("more", .array [.null]),
      ("pool", .object [("max_open", .ofNat 4), ("max_idle", .ofNat 10)])]
    let twice := Json.object [("url", .null), ("more", .null), ("url", .string "x")]
    let largest := ['4', '2', '9', '4', '9', '6', '7', '2', '9', '5']
    readText? Config.ofDatum? long.pretty = readText? Config.ofDatum? short.compact ∧
      readText? SourceSettings.ofDatum? twice.compact = none ∧
      readText? PoolSettings.ofDatum? (Json.object []).compact = some {} ∧
      (PoolSettings.numberField "max_idle" PoolSettings.maxIdle (Nat.pow 2 32) 10).Holds
        (namedData [("max_idle", .number { whole := largest })]) { maxIdle := 4294967295 } := by
  intro short long twice largest
  obtain ⟨-, -, hpool, hsource, hconfig, -, hnumber⟩ := records_read_by_name
  have hpool' : Writable (.object [("max_open", .ofNat 4), ("max_idle", .ofNat 10)]) :=
    .object (List.forall_mem_cons.mpr ⟨writable_ofNat 4,
      List.forall_mem_singleton.mpr (writable_ofNat 10)⟩)
  have hshort : Writable short :=
    .object (List.forall_mem_singleton.mpr (.object (List.forall_mem_singleton.mpr
      (writable_ofNat 4))))
  have hlong : Writable long :=
    .object (List.forall_mem_cons.mpr ⟨.array (List.forall_mem_singleton.mpr .null),
      List.forall_mem_singleton.mpr hpool'⟩)
  have htwice : Writable twice :=
    .object (List.forall_mem_cons.mpr ⟨.null, List.forall_mem_cons.mpr ⟨.null,
      List.forall_mem_singleton.mpr (.string "x")⟩⟩)
  have hsettings : Alike PoolSettings.outline (.object [("max_open", .ofNat 4)])
      (.object [("max_open", .ofNat 4), ("max_idle", .ofNat 10)]) :=
    .trans (.omitted List.mem_cons_self (by decide)) (.reordered (.swap _ _ _))
  have halike : Alike Config.outline short long :=
    .trans (.field (List.mem_cons_of_mem _ List.mem_cons_self) hsettings) (.unknown (by decide))
  have hfaulty : Faulty SourceSettings.outline twice :=
    @Faulty.twice _ [] [_] [] _ _ _ _ _ List.mem_cons_self
  have hempty : Writable (.object []) := .object (List.forall_mem_nil _)
  refine ⟨hconfig.alike halike.symm (hlong.spaced (some 0)) (hshort.spaced none),
    hsource.faulty hfaulty (htwice.spaced none), (hpool.some_iff (hempty.spaced none)).mpr ?_,
    ?_⟩
  · simp only [PoolSettings.fields, List.forall_mem_cons]
    exact ⟨rfl, rfl, rfl, rfl, List.forall_mem_nil _⟩
  · have hdigits : ∀ c ∈ largest, c.isDigit = true := List.all_eq_true.mp rfl
    have hspells : Spells (.number { whole := largest }) largest :=
      .number (.plain (.mk (.digits (by decide) hdigits) .absent .absent))
    have hiff := @hnumber "max_idle" PoolSettings.maxIdle (Nat.pow 2 32) 10 [] [] _ _
      List.not_mem_nil List.not_mem_nil hspells
    exact (hiff _).mpr ⟨hdigits, rfl, by decide⟩

end LiteralRows
