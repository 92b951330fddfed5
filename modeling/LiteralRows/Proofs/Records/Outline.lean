import LiteralRows.Proofs.Records.Fields
import LiteralRows.Proofs.Json.Records
import LiteralRows.Proofs.Lists
import Mathlib.Data.List.Nodup

/-!
# JSON values of one record

A record is given by many JSON values.  `Outline` says which fields a record has, what may be left
out of it, and which of its fields hold records again.  By an outline

* two values are `Alike` if one becomes the other by changing the order of fields, by putting in
  fields that are not known or taking them out, and by leaving out what is a default, at any level;
* a value is `Faulty` if a known field is given twice, or one that must be given is missing, at any
  level.

A reader `Follows` an outline if it finds the same in values that are alike, and nothing in a faulty
one.  `Follows.record` leads from the fields of a record to the record.
-/

namespace LiteralRows

/-- The outline of a record. -/
inductive Outline where
  /-- A value with no fields of its own. -/
  | value
  /-- A list. -/
  | list (items : Outline)
  /-- Fields by their keys, each with its default unless it must be given. -/
  | record (known : List (String × Option Json × Outline))

/-- **Two JSON values give the same record**, as far as the outline tells. -/
inductive Alike : Outline → Json → Json → Prop
  | refl {o : Outline} {j : Json} : Alike o j j
  | symm {o : Outline} {j j' : Json} (h : Alike o j j') : Alike o j' j
  | trans {o : Outline} {j j' j'' : Json} (h : Alike o j j') (h' : Alike o j' j'') : Alike o j j''
  /-- The fields may stand in any order. -/
  | reordered {known : List (String × Option Json × Outline)} {given given' : List (String × Json)}
    (h : given.Perm given') : Alike (.record known) (.object given) (.object given')
  /-- A field that is not known may be given, with any value. -/
  | unknown {known : List (String × Option Json × Outline)} {given : List (String × Json)}
    {key : String} {j : Json} (h : key ∉ known.map Prod.fst) :
    Alike (.record known) (.object given) (.object ((key, j) :: given))
  /-- A default may be given, or left out. -/
  | omitted {known : List (String × Option Json × Outline)} {given : List (String × Json)}
    {key : String} {j : Json} {o : Outline} (h : (key, some j, o) ∈ known)
    (hgiven : key ∉ given.map Prod.fst) :
    Alike (.record known) (.object given) (.object ((key, j) :: given))
  /-- All this holds of the value of a known field. -/
  | field {known : List (String × Option Json × Outline)} {given : List (String × Json)}
    {key : String} {default : Option Json} {j j' : Json} {o : Outline}
    (h : (key, default, o) ∈ known) (hvalue : Alike o j j') :
    Alike (.record known) (.object ((key, j) :: given)) (.object ((key, j') :: given))
  /-- All this holds of an item of a list. -/
  | item {before after : List Json} {j j' : Json} {o : Outline} (h : Alike o j j') :
    Alike (.list o) (.array (before ++ j :: after)) (.array (before ++ j' :: after))

/-- **A JSON value gives no record**: somewhere in it a known field is given twice, or is missing
although it has no default. -/
inductive Faulty : Outline → Json → Prop
  | twice {known : List (String × Option Json × Outline)}
    {before between after : List (String × Json)} {key : String} {default : Option Json}
    {j j' : Json} {o : Outline} (h : (key, default, o) ∈ known) :
    Faulty (.record known)
      (.object (before ++ (key, j) :: (between ++ (key, j') :: after)))
  | missing {known : List (String × Option Json × Outline)} {given : List (String × Json)}
    {key : String} {o : Outline} (h : (key, none, o) ∈ known) (hgiven : key ∉ given.map Prod.fst) :
    Faulty (.record known) (.object given)
  | field {known : List (String × Option Json × Outline)} {given : List (String × Json)}
    {key : String} {default : Option Json} {j : Json} {o : Outline}
    (h : (key, default, o) ∈ known) (hgiven : (key, j) ∈ given) (hvalue : Faulty o j) :
    Faulty (.record known) (.object given)
  | item {items : List Json} {j : Json} {o : Outline} (hitem : j ∈ items) (h : Faulty o j) :
    Faulty (.list o) (.array items)

/-- The reader keeps to the outline. -/
structure Follows {α : Type} (o : Outline) (read : Datum → Option α) : Prop where
  alike : ∀ {j j' : Json}, Alike o j j' → read j.datum = read j'.datum
  faulty : ∀ {j : Json}, Faulty o j → read j.datum = none

/-! ## The outlines of the records -/

def Quoting.outline : Outline :=
  .record [("escape_quotes", some (.bool false), .value)]

def PoolSettings.outline : Outline :=
  .record [("max_idle", some (.ofNat 10), .value), ("max_open", some (.ofNat 20), .value),
    ("max_lifetime_secs", some (.ofNat 3600), .value),
    ("acquire_timeout_secs", some (.ofNat 10), .value)]

def SourceSettings.outline : Outline :=
  .record [("url", some .null, .value)]

/-- Each part of a configuration is a record with nothing but defaults, unless it is given. -/
def Config.outline : Outline :=
  .record [("source", some (.object []), SourceSettings.outline),
    ("pool", some (.object []), PoolSettings.outline),
    ("normalize", some (.object []), Quoting.outline)]

def Column.outline : Outline :=
  .record [("name", none, .value), ("type_name", none, .value), ("class", none, .value)]

def ResultSet.outline : Outline :=
  .record [("columns", none, .list Column.outline), ("rows", none, .value)]

/-! ## Values and lists -/

section Readers

variable {α : Type} {o : Outline} {read : Datum → Option α}

/-- Nothing is said of a value without fields. -/
theorem Alike.eq_of_value {j j' : Json} (h : Alike .value j j') : j = j' := by
  generalize ho : Outline.value = o at h
  induction h with
  | refl => rfl
  | symm _ ih => exact (ih ho).symm
  | trans _ _ ih ih' => exact (ih ho).trans (ih' ho)
  | _ => cases ho

theorem Follows.value (read : Datum → Option α) : Follows .value read :=
  ⟨fun h => congrArg (fun j => read j.datum) h.eq_of_value, nofun⟩

/-- A list is read as its items are. -/
theorem Follows.list (h : Follows o read) : Follows (.list o) (Datum.asList? read) := by
  constructor
  · intro j j' halike
    generalize ho : Outline.list o = outline at halike
    induction halike with
    | refl => rfl
    | symm _ ih => exact (ih ho).symm
    | trans _ _ ih ih' => exact (ih ho).trans (ih' ho)
    | item hitem _ =>
      cases ho
      simp only [Json.datum, Datum.asList?, Json.data_eq_map, List.map_append, List.map_cons]
      exact mapM_append_cons (h.alike hitem)
    | _ => cases ho
  · intro j hfaulty
    cases hfaulty with
    | item hitem hfaulty =>
      rw [Json.datum, Datum.asList?, Json.data_eq_map]
      exact mapM_eq_none_of_mem (List.mem_map_of_mem hitem) (h.faulty hfaulty)

end Readers

/-! ## Records -/

section Records

open Json (namedData)

variable {α : Type} {fields : List (Field α)} {known : List (String × Option Json × Outline)}
  {read : Datum → Option α} {given : List (String × Json)} {key : String}

/-- The field stands in an outline as this entry. -/
structure Field.Fits (f : Field α) (entry : String × Option Json × Outline) : Prop where
  key : f.key = entry.1
  default : f.default = entry.2.1.bind fun j => f.read j.datum
  follows : Follows entry.2.2 f.read

theorem keys_namedData (given : List (String × Json)) :
    (namedData given).map Prod.fst = given.map Prod.fst := by
  rw [Json.namedData_eq_map, List.map_map]
  rfl

theorem namedData_append (given given' : List (String × Json)) :
    namedData (given ++ given') = namedData given ++ namedData given' := by
  simp only [Json.namedData_eq_map, List.map_append]

/-- The field with the key of an entry is the one that stands there. -/
theorem fits_of_key (hfits : List.Forall₂ Field.Fits fields known)
    (hnodup : (known.map Prod.fst).Nodup) {entry : String × Option Json × Outline}
    (hentry : entry ∈ known) {f : Field α} (hf : f ∈ fields) (hkey : f.key = entry.1) :
    f.Fits entry := by
  obtain ⟨entry', hentry', hfit⟩ := exists_of_forall₂_left hfits f hf
  rwa [List.inj_on_of_nodup_map hnodup hentry hentry' (hkey.symm.trans hfit.key)]

theorem ReadsFields.read_alike (hread : ReadsFields fields read)
    (hfits : List.Forall₂ Field.Fits fields known) (hnodup : (known.map Prod.fst).Nodup)
    {j j' : Json} (halike : Alike (.record known) j j') : read j.datum = read j'.datum := by
  generalize ho : Outline.record known = outline at halike
  induction halike with
  | refl => rfl
  | symm _ ih => exact (ih ho).symm
  | trans _ _ ih ih' => exact (ih ho).trans (ih' ho)
  | @reordered _ given given' hperm =>
    refine hread.congr fun f _ => f.value?_perm (Datum.named_perm ?_)
    rw [Json.namedData_eq_map, Json.namedData_eq_map]
    exact hperm.map _
  | @unknown _ given key j hunknown =>
    cases ho
    refine hread.congr fun f hf => congrArg f.value? (Datum.named_cons_of_ne ?_).symm
    obtain ⟨entry, hknown, hfit⟩ := exists_of_forall₂_left hfits f hf
    rintro rfl
    exact hunknown (hfit.key ▸ List.mem_map_of_mem hknown)
  | @omitted _ given key j o hknown hgiven =>
    cases ho
    refine hread.congr fun f hf => ?_
    by_cases hkey : key = f.key
    · have hfit := fits_of_key hfits hnodup hknown hf hkey.symm
      have hnone : Datum.named f.key (namedData given) = [] := by
        refine Datum.named_of_notMem ?_
        rwa [keys_namedData, ← hkey]
      rw [namedData, hkey, Datum.named_cons_self, hnone]
      exact hfit.default
    · rw [namedData, Datum.named_cons_of_ne hkey]
  | @field _ given key default j j' o hknown hvalue _ =>
    cases ho
    refine hread.congr fun f hf => ?_
    rw [namedData, namedData]
    by_cases hkey : key = f.key
    · have hfit := fits_of_key hfits hnodup hknown hf hkey.symm
      rw [hkey, Datum.named_cons_self, Datum.named_cons_self]
      exact f.value?_cons_congr (hfit.follows.alike hvalue) _
    · rw [Datum.named_cons_of_ne hkey, Datum.named_cons_of_ne hkey]
  | item => cases ho

theorem ReadsFields.read_faulty (hread : ReadsFields fields read)
    (hfits : List.Forall₂ Field.Fits fields known) {j : Json}
    (hfaulty : Faulty (.record known) j) : read j.datum = none := by
  cases hfaulty with
  | @twice _ before between after key default j j' o hknown =>
    obtain ⟨f, hf, rfl, -, -⟩ := exists_of_forall₂_right hfits _ hknown
    refine hread.eq_none hf (f.value?_of_two_le ?_)
    simp only [namedData_append, namedData, Datum.named_append, Datum.named_cons_self,
      List.length_append, List.length_cons]
    omega
  | @missing _ given key o hknown hgiven =>
    obtain ⟨f, hf, rfl, hdefault, -⟩ := exists_of_forall₂_right hfits _ hknown
    refine hread.eq_none hf ?_
    rw [Datum.named_of_notMem (by rwa [keys_namedData])]
    exact hdefault
  | @field _ given key default j o hknown hgiven hvalue =>
    obtain ⟨f, hf, rfl, -, hfollows⟩ := exists_of_forall₂_right hfits _ hknown
    refine hread.eq_none hf
      (f.value?_of_mem (Datum.mem_named_iff.mpr ?_) (hfollows.faulty hvalue))
    rw [Json.namedData_eq_map]
    exact List.mem_map_of_mem (f := fun field => (field.1, field.2.datum)) hgiven

/-- **A reader of a record keeps to the outline of the record**, if the readers of its fields keep
to theirs. -/
theorem Follows.record (hread : ReadsFields fields read)
    (hfits : List.Forall₂ Field.Fits fields known) (hnodup : (known.map Prod.fst).Nodup) :
    Follows (.record known) read :=
  ⟨hread.read_alike hfits hnodup, hread.read_faulty hfits⟩

end Records

/-! ## The records of the library -/

theorem Quoting.follows : Follows outline ofDatum? :=
  .record readsFields (.cons ⟨rfl, rfl, .value _⟩ .nil) (by decide)

theorem PoolSettings.follows : Follows outline ofDatum? := by
  have hnumber : ∀ {bound default : Nat} (key : String) (get : PoolSettings → Nat),
      default < bound →
      (numberField key get bound default).Fits (key, some (.ofNat default), .value) :=
    fun _ _ hlt => ⟨rfl, (Json.gives_ofNat hlt).read_datum.symm, .value _⟩
  exact .record readsFields (.cons (hnumber _ _ (by decide)) (.cons (hnumber _ _ (by decide))
    (.cons (hnumber _ _ (by decide)) (.cons (hnumber _ _ (by decide)) .nil)))) (by decide)

theorem SourceSettings.follows : Follows outline ofDatum? :=
  .record readsFields (.cons ⟨rfl, rfl, .value _⟩ .nil) (by decide)

theorem Config.follows : Follows outline ofDatum? :=
  .record readsFields (.cons ⟨rfl, rfl, SourceSettings.follows⟩
    (.cons ⟨rfl, rfl, PoolSettings.follows⟩ (.cons ⟨rfl, rfl, Quoting.follows⟩ .nil))) (by decide)

theorem Column.follows : Follows outline ofDatum? :=
  .record readsFields (.cons ⟨rfl, rfl, .value _⟩ (.cons ⟨rfl, rfl, .value _⟩
    (.cons ⟨rfl, rfl, .value _⟩ .nil))) (by decide)

theorem ResultSet.follows : Follows outline ofDatum? :=
  .record readsFields (.cons ⟨rfl, rfl, Column.follows.list⟩ (.cons ⟨rfl, rfl, .value _⟩ .nil))
    (by decide)

end LiteralRows
