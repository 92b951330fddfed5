import LiteralRows.Json.Records
import Mathlib.Data.List.Basic

/-!
# The fields of records

What a reader of a record does with named fields, said field by field.  `Field` is one field: its
key, where its value stands in the record, how the value is read, and what it is when the field is
left out.  `ReadsFields` says that a reader finds a record exactly if each of its fields is given at
most once and has the value that is read there, or is left out and has its default.  Nothing else
that is given plays a part, and neither does the order.

Each record of the library has its list of fields here, and its reader reads these
(`Config.readsFields` and the others).  Where the data come from, JSON or TOML, does not matter.
-/

namespace LiteralRows

/-- A field of a record. -/
structure Field (α : Type) where
  key : String
  Value : Type
  /-- The value of the field in a record. -/
  get : α → Value
  read : Datum → Option Value
  /-- The value of the field when it is left out; none if it must be given. -/
  default : Option Value

/-- The value of a field, from everything that is given under its key. -/
def Field.value? {α : Type} (f : Field α) : List Datum → Option f.Value
  | [] => f.default
  | [d] => f.read d
  | _ => none

/-- What is given under its key is the value of the field in this record. -/
def Field.Holds {α : Type} (f : Field α) (given : List (String × Datum)) (x : α) : Prop :=
  f.value? (Datum.named f.key given) = some (f.get x)

/-- The reader finds a record exactly if each of the fields has its value in it. -/
def ReadsFields {α : Type} (fields : List (Field α)) (read : Datum → Option α) : Prop :=
  ∀ given x, read (.record given) = some x ↔ ∀ f ∈ fields, f.Holds given x

/-! ## What is given under a key -/

namespace Datum

variable {key key' : String} {d : Datum} {given given' : List (String × Datum)}

theorem named_cons_self : named key ((key, d) :: given) = d :: named key given := by
  rw [named, List.filter_cons, if_pos (beq_self_eq_true key)]
  rfl

theorem named_cons_of_ne (h : key' ≠ key) : named key ((key', d) :: given) = named key given := by
  rw [named, List.filter_cons, if_neg fun heq => h (eq_of_beq heq)]
  rfl

theorem named_append : named key (given ++ given') = named key given ++ named key given' := by
  rw [named, List.filter_append, List.map_append]
  rfl

theorem named_perm (h : given.Perm given') : (named key given).Perm (named key given') :=
  (h.filter _).map _

theorem mem_named_iff : d ∈ named key given ↔ (key, d) ∈ given := by
  rw [named, List.mem_map]
  constructor
  · rintro ⟨⟨key', d⟩, hfield, rfl⟩
    obtain ⟨hmem, hkey⟩ := List.mem_filter.mp hfield
    rwa [← eq_of_beq hkey]
  · intro h
    exact ⟨(key, d), List.mem_filter.mpr ⟨h, beq_self_eq_true key⟩, rfl⟩

theorem named_of_notMem (h : key ∉ given.map Prod.fst) : named key given = [] := by
  refine List.eq_nil_iff_forall_not_mem.mpr fun d hd => h ?_
  exact List.mem_map_of_mem (f := Prod.fst) (mem_named_iff.mp hd)

end Datum

/-! ## Records with named fields -/

section Records

variable {α : Type} {fields : List (Field α)} {read : Datum → Option α} {f : Field α}
  {given given' : List (String × Datum)}

/-- A record is read alike from what gives each field the same value. -/
theorem ReadsFields.congr (h : ReadsFields fields read)
    (hsame : ∀ f ∈ fields,
      f.value? (Datum.named f.key given) = f.value? (Datum.named f.key given')) :
    read (.record given) = read (.record given') := by
  refine Option.ext fun x => ?_
  rw [h, h]
  exact forall₂_congr fun f hf => Eq.congr_left (hsame f hf)

/-- A record is not read if one of its fields is not. -/
theorem ReadsFields.eq_none (h : ReadsFields fields read) (hf : f ∈ fields)
    (hnone : f.value? (Datum.named f.key given) = none) : read (.record given) = none := by
  rw [Option.eq_none_iff_forall_ne_some]
  intro x hx
  have hholds := (h given x).mp hx f hf
  rw [Field.Holds, hnone] at hholds
  cases hholds

namespace Field

theorem value?_perm (f : Field α) {values values' : List Datum} (h : values.Perm values') :
    f.value? values = f.value? values' := by
  match values with
  | [] => rw [h.nil_eq]
  | [d] => rw [h.singleton_eq]
  | _ :: _ :: _ =>
    have hlength := h.length_eq
    match values' with
    | _ :: _ :: _ => rfl

/-- A field that is given twice has no value. -/
theorem value?_of_two_le (f : Field α) {values : List Datum} (h : 2 ≤ values.length) :
    f.value? values = none := by
  match values with
  | _ :: _ :: _ => rfl

/-- A field has no value if one that is given for it is not read. -/
theorem value?_of_mem (f : Field α) {values : List Datum} {d : Datum} (hd : d ∈ values)
    (hread : f.read d = none) : f.value? values = none := by
  match values with
  | [d'] => rwa [← List.mem_singleton.mp hd]
  | _ :: _ :: _ => rfl

/-- A value may stand in the place of another that is read alike. -/
theorem value?_cons_congr (f : Field α) {d d' : Datum} (h : f.read d = f.read d')
    (values : List Datum) : f.value? (d :: values) = f.value? (d' :: values) := by
  match values with
  | [] => exact h
  | _ :: _ => rfl

end Field

end Records

/-! ## The records of the library -/

/-- The field for how quotes are treated. -/
def Quoting.fields : List (Field Quoting) :=
  [⟨"escape_quotes", Bool, escapeQuotes, Datum.asBool?, some false⟩]

/-- A field for a natural number below a bound. -/
def PoolSettings.numberField (key : String) (get : PoolSettings → Nat) (bound default : Nat) :
    Field PoolSettings :=
  ⟨key, Nat, get, Datum.asNat? bound, some default⟩

/-- The fields for the shape of a pool. -/
def PoolSettings.fields : List (Field PoolSettings) :=
  [numberField "max_idle" maxIdle (Nat.pow 2 32) 10,
    numberField "max_open" maxOpen (Nat.pow 2 32) 20,
    numberField "max_lifetime_secs" maxLifetime (Nat.pow 2 64) 3600,
    numberField "acquire_timeout_secs" acquireTimeout (Nat.pow 2 64) 10]

/-- The field for where the source is.  A null is as good as nothing. -/
def SourceSettings.fields : List (Field SourceSettings) :=
  [⟨"url", Option String, url, fun d => (Datum.Slot.given d).optional Datum.asString?, some none⟩]

/-- The fields of a configuration. -/
def Config.fields : List (Field Config) :=
  [⟨"source", SourceSettings, source, SourceSettings.ofDatum?, some {}⟩,
    ⟨"pool", PoolSettings, pool, PoolSettings.ofDatum?, some {}⟩,
    ⟨"normalize", Quoting, quoting, Quoting.ofDatum?, some {}⟩]

/-- The fields of a column. -/
def Column.fields : List (Field Column) :=
  [⟨"name", String, name, Datum.asString?, none⟩,
    ⟨"type_name", String, typeName, Datum.asString?, none⟩,
    ⟨"class", ColumnClass, cls, ColumnClass.ofDatum?, none⟩]

/-- The fields of a result. -/
def ResultSet.fields : List (Field ResultSet) :=
  [⟨"columns", List Column, columns, Datum.asList? Column.ofDatum?, none⟩,
    ⟨"rows", List (List String), rows, Datum.asList? (Datum.asList? Datum.asString?), none⟩]

/-! ## Slots and fields -/

namespace Field

variable {α β : Type} {key : String} {get : α → β} {read : Datum → Option β}
  {given : List (String × Datum)} {x : α}

/-- A field has the value that is read from its slot. -/
theorem holds_iff {default : Option β} {readSlot : Datum.Slot → Option β}
    (hgiven : ∀ d, readSlot (.given d) = read d) (hunnamed : readSlot .unnamed = default) :
    (Field.mk key β get read default).Holds given x ↔
      ∃ slot, Datum.slot? key given = some slot ∧ readSlot slot = some (get x) := by
  rw [← Option.bind_eq_some_iff, Holds, Datum.slot?]
  generalize Datum.named key given = values
  match values with
  | [] => exact Eq.congr_left hunnamed.symm
  | [d] => exact Eq.congr_left (hgiven d).symm
  | _ :: _ :: _ => exact Iff.rfl

theorem holds_required_iff :
    (Field.mk key β get read none).Holds given x ↔
      ∃ slot, Datum.slot? key given = some slot ∧ slot.required read = some (get x) :=
  holds_iff (fun _ => rfl) rfl

theorem holds_withDefault_iff {default : β} :
    (Field.mk key β get read (some default)).Holds given x ↔
      ∃ slot, Datum.slot? key given = some slot ∧
        slot.withDefault default read = some (get x) :=
  holds_iff (fun _ => rfl) rfl

end Field

theorem Quoting.readsFields : ReadsFields fields ofDatum? := by
  intro given x
  simp only [ofDatum?, Datum.slots?, List.mapM_cons, List.mapM_nil, Option.pure_def,
    Option.bind_eq_bind, Option.bind_assoc, Option.bind_some, Option.bind_eq_some_iff, fields,
    List.forall_mem_singleton, Field.holds_withDefault_iff]
  constructor
  · rintro ⟨escape, hescape, _, hvalue, ⟨⟩⟩
    exact ⟨escape, hescape, hvalue⟩
  · rintro ⟨escape, hescape, hvalue⟩
    exact ⟨escape, hescape, _, hvalue, rfl⟩

theorem PoolSettings.readsFields : ReadsFields fields ofDatum? := by
  intro given x
  simp only [ofDatum?, Datum.slots?, List.mapM_cons, List.mapM_nil, Option.pure_def,
    Option.bind_eq_bind, Option.bind_assoc, Option.bind_some, Option.bind_eq_some_iff, fields,
    numberField, List.forall_mem_cons, Field.holds_withDefault_iff]
  constructor
  · rintro ⟨idle, hidle, opened, hopened, lifetime, hlifetime, timeout, htimeout, _, ha, _, hb, _,
      hc, _, hd, ⟨⟩⟩
    exact ⟨⟨idle, hidle, ha⟩, ⟨opened, hopened, hb⟩, ⟨lifetime, hlifetime, hc⟩,
      ⟨timeout, htimeout, hd⟩, List.forall_mem_nil _⟩
  · rintro ⟨⟨idle, hidle, ha⟩, ⟨opened, hopened, hb⟩, ⟨lifetime, hlifetime, hc⟩,
      ⟨timeout, htimeout, hd⟩, -⟩
    exact ⟨idle, hidle, opened, hopened, lifetime, hlifetime, timeout, htimeout, _, ha, _, hb, _,
      hc, _, hd, rfl⟩

theorem SourceSettings.readsFields : ReadsFields fields ofDatum? := by
  intro given x
  have hurl : ∀ x : SourceSettings,
      (Field.mk "url" (Option String) url (fun d => (Datum.Slot.given d).optional Datum.asString?)
        (some none)).Holds given x ↔
      ∃ slot, Datum.slot? "url" given = some slot ∧
        slot.optional Datum.asString? = some x.url := fun _ => Field.holds_iff (fun _ => rfl) rfl
  simp only [ofDatum?, Datum.slots?, List.mapM_cons, List.mapM_nil, Option.pure_def,
    Option.bind_eq_bind, Option.bind_assoc, Option.bind_some, Option.bind_eq_some_iff, fields,
    List.forall_mem_singleton, hurl]
  constructor
  · rintro ⟨slot, hslot, _, hvalue, ⟨⟩⟩
    exact ⟨slot, hslot, hvalue⟩
  · rintro ⟨slot, hslot, hvalue⟩
    exact ⟨slot, hslot, _, hvalue, rfl⟩

theorem Config.readsFields : ReadsFields fields ofDatum? := by
  intro given x
  simp only [ofDatum?, Datum.slots?, List.mapM_cons, List.mapM_nil, Option.pure_def,
    Option.bind_eq_bind, Option.bind_assoc, Option.bind_some, Option.bind_eq_some_iff, fields,
    List.forall_mem_cons, Field.holds_withDefault_iff]
  constructor
  · rintro ⟨source, hsource, pool, hpool, quoting, hquoting, _, ha, _, hb, _, hc, ⟨⟩⟩
    exact ⟨⟨source, hsource, ha⟩, ⟨pool, hpool, hb⟩, ⟨quoting, hquoting, hc⟩, List.forall_mem_nil _⟩
  · rintro ⟨⟨source, hsource, ha⟩, ⟨pool, hpool, hb⟩, ⟨quoting, hquoting, hc⟩, -⟩
    exact ⟨source, hsource, pool, hpool, quoting, hquoting, _, ha, _, hb, _, hc, rfl⟩

theorem Column.readsFields : ReadsFields fields ofDatum? := by
  intro given x
  simp only [ofDatum?, Datum.slots?, List.mapM_cons, List.mapM_nil, Option.pure_def,
    Option.bind_eq_bind, Option.bind_assoc, Option.bind_some, Option.bind_eq_some_iff, fields,
    List.forall_mem_cons, Field.holds_required_iff]
  constructor
  · rintro ⟨name, hname, typeName, htypeName, cls, hcls, _, ha, _, hb, _, hc, ⟨⟩⟩
    exact ⟨⟨name, hname, ha⟩, ⟨typeName, htypeName, hb⟩, ⟨cls, hcls, hc⟩, List.forall_mem_nil _⟩
  · rintro ⟨⟨name, hname, ha⟩, ⟨typeName, htypeName, hb⟩, ⟨cls, hcls, hc⟩, -⟩
    exact ⟨name, hname, typeName, htypeName, cls, hcls, _, ha, _, hb, _, hc, rfl⟩

theorem ResultSet.readsFields : ReadsFields fields ofDatum? := by
  intro given x
  simp only [ofDatum?, Datum.slots?, List.mapM_cons, List.mapM_nil, Option.pure_def,
    Option.bind_eq_bind, Option.bind_assoc, Option.bind_some, Option.bind_eq_some_iff, fields,
    List.forall_mem_cons, Field.holds_required_iff]
  constructor
  · rintro ⟨columns, hcolumns, rows, hrows, _, ha, _, hb, ⟨⟩⟩
    exact ⟨⟨columns, hcolumns, ha⟩, ⟨rows, hrows, hb⟩, List.forall_mem_nil _⟩
  · rintro ⟨⟨columns, hcolumns, ha⟩, ⟨rows, hrows, hb⟩, -⟩
    exact ⟨columns, hcolumns, rows, hrows, _, ha, _, hb, rfl⟩

end LiteralRows
