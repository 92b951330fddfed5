import LiteralRows.Json.Records
import LiteralRows.Proofs.Json.Rendering

/-!
# Records are read back

The records of the library are written as JSON and read again, defaults and left out fields
included.

* `Gives` is about one value: it can be written, and a reader of data finds this in it.  There is
  one lemma for each kind of value that records are made of, and one for each record.
* `slots?_datum_object` says that an object with different keys gives its fields to the reader of a
  record with these keys.
* `RoundTrips` is about the texts of a record: they are texts of the grammar, every value is read
  back from its text, and the text that is written for what was read from any text is a normal form.
  `records_round_trip` is the main statement.

Numbers are bounded where a record is read, so `PoolSettings.InRange` says which pools there are
texts for.  Nothing but such a pool is read from a text.
-/

namespace LiteralRows

open Json

/-! ## Values of which records are made -/

namespace Json

variable {α : Type}

/-- The value can be written, and the reader finds `x` in it. -/
structure Gives (j : Json) (read : Datum → Option α) (x : α) : Prop where
  writable : Writable j
  read_datum : read j.datum = some x

namespace Gives

variable {j : Json} {read : Datum → Option α} {x : α}

/-- The value is found in a field that must be given. -/
theorem required (h : j.Gives read x) : (Datum.Slot.given j.datum).required read = some x :=
  h.read_datum

/-- The value is found in a field that may be left out. -/
theorem withDefault (h : j.Gives read x) (default : α) :
    (Datum.Slot.given j.datum).withDefault default read = some x :=
  h.read_datum

end Gives

theorem gives_string (s : String) : (Json.string s).Gives Datum.asString? s :=
  ⟨.string s, rfl⟩

theorem gives_bool (b : Bool) : (Json.bool b).Gives Datum.asBool? b :=
  ⟨.bool b, rfl⟩

theorem datum_ofNat (n : Nat) : (ofNat n).datum = .natural n := by
  have hnatural : Number.natural? { whole := Nat.toDigits 10 n } = some n :=
    congrArg some (Text.numberOf_toDigits n)
  rw [ofNat, datum, hnatural]

theorem gives_ofNat {n bound : Nat} (h : n < bound) : (ofNat n).Gives (Datum.asNat? bound) n := by
  refine ⟨writable_ofNat n, ?_⟩
  rw [datum_ofNat]
  exact if_pos h

theorem writable_ofString? : ∀ s : Option String, Writable (ofString? s)
  | some s => .string s
  | none => .null

/-- A text that may be missing is found in a field that may be null. -/
theorem optional_ofString? : ∀ s : Option String,
    (Datum.Slot.given (ofString? s).datum).optional Datum.asString? = some s
  | some _ => rfl
  | none => rfl

theorem data_eq_map : ∀ items : List Json, data items = items.map datum
  | [] => rfl
  | _ :: items => congrArg _ (data_eq_map items)

theorem namedData_eq_map : ∀ fields : List (String × Json),
    namedData fields = fields.map fun field => (field.1, field.2.datum)
  | [] => rfl
  | _ :: fields => congrArg _ (namedData_eq_map fields)

/-- A list is read item by item. -/
theorem gives_array {json : α → Json} {read : Datum → Option α} {l : List α}
    (h : ∀ x ∈ l, (json x).Gives read x) :
    (Json.array (l.map json)).Gives (Datum.asList? read) l := by
  refine ⟨.array fun item hitem => ?_, ?_⟩
  · obtain ⟨x, hx, rfl⟩ := List.mem_map.mp hitem
    exact (h x hx).writable
  · rw [datum, Datum.asList?, data_eq_map, List.map_map]
    exact mapM_map_eq_self fun x hx => (h x hx).read_datum

theorem gives_ofStrings (texts : List String) :
    (ofStrings texts).Gives (Datum.asList? Datum.asString?) texts :=
  gives_array fun text _ => gives_string text

/-! ## Objects with different keys -/

theorem named_of_nodup {fields : List (String × Datum)} (hnodup : (fields.map Prod.fst).Nodup)
    {field : String × Datum} (hfield : field ∈ fields) :
    Datum.named field.1 fields = [field.2] := by
  induction fields with
  | nil => cases hfield
  | cons head fields ih =>
    obtain ⟨hhead, hnodup⟩ := List.nodup_cons.mp hnodup
    rw [Datum.named, List.filter_cons]
    rcases List.mem_cons.mp hfield with rfl | hfield
    · have hrest : fields.filter (·.1 == field.1) = [] := by
        refine List.filter_eq_nil_iff.mpr fun other hother heq => hhead ?_
        rw [← eq_of_beq heq]
        exact List.mem_map_of_mem hother
      rw [if_pos (beq_self_eq_true field.1), hrest]
      rfl
    · have hne : ¬ (head.1 == field.1) = true := fun heq =>
        hhead (eq_of_beq heq ▸ List.mem_map_of_mem hfield)
      rw [if_neg hne]
      exact ih hnodup hfield

/-- **An object gives each of its fields to a reader that asks for its keys**, provided that they
are different. -/
theorem slots?_datum_object {fields : List (String × Json)} {keys : List String}
    (hkeys : fields.map Prod.fst = keys) (hnodup : keys.Nodup) :
    (Json.object fields).datum.slots? keys =
      some (fields.map fun field => .given field.2.datum) := by
  have hnames : (namedData fields).map Prod.fst = keys := by
    rw [namedData_eq_map, List.map_map]
    exact hkeys
  rw [datum, Datum.slots?, ← hkeys]
  refine mapM_map_eq_some fun field hfield => ?_
  have hmem : (field.1, field.2.datum) ∈ namedData fields := by
    rw [namedData_eq_map]
    exact List.mem_map_of_mem hfield
  rw [Datum.slot?, named_of_nodup (hnames ▸ hnodup) hmem]

end Json

/-! ## Records -/

/-- The numbers are those that the pool of a configuration can have. -/
structure PoolSettings.InRange (p : PoolSettings) : Prop where
  maxIdle : p.maxIdle < Nat.pow 2 32
  maxOpen : p.maxOpen < Nat.pow 2 32
  maxLifetime : p.maxLifetime < Nat.pow 2 64
  acquireTimeout : p.acquireTimeout < Nat.pow 2 64

theorem ColumnClass.gives (c : ColumnClass) : c.json.Gives ofDatum? c :=
  ⟨.string c.word, by cases c <;> rfl⟩

theorem Backend.gives (b : Backend) : b.json.Gives ofDatum? b :=
  ⟨.string b.name, by cases b <;> rfl⟩

theorem Column.gives (c : Column) : c.json.Gives ofDatum? c := by
  refine ⟨.object ?_, ?_⟩
  · simp only [List.forall_mem_cons]
    exact ⟨.string c.name, .string c.typeName, c.cls.gives.writable, nofun⟩
  · rw [ofDatum?, json, slots?_datum_object]
    · simp only [List.map_cons, List.map_nil, Option.bind_eq_bind, Option.bind_some,
        (gives_string _).required, c.cls.gives.required]
    · rfl
    · decide

theorem ResultSet.gives (r : ResultSet) : r.json.Gives ofDatum? r := by
  have hcolumns := gives_array fun c (_ : c ∈ r.columns) => c.gives
  have hrows := gives_array fun row (_ : row ∈ r.rows) => gives_ofStrings row
  refine ⟨.object ?_, ?_⟩
  · simp only [List.forall_mem_cons]
    exact ⟨hcolumns.writable, hrows.writable, nofun⟩
  · rw [ofDatum?, json, slots?_datum_object]
    · simp only [List.map_cons, List.map_nil, Option.bind_eq_bind, Option.bind_some,
        hcolumns.required, hrows.required]
    · rfl
    · decide

theorem Quoting.gives (q : Quoting) : q.json.Gives ofDatum? q := by
  refine ⟨.object ?_, ?_⟩
  · simp only [List.forall_mem_cons]
    exact ⟨.bool q.escapeQuotes, nofun⟩
  · rw [ofDatum?, json, slots?_datum_object]
    · simp only [List.map_cons, List.map_nil, Option.bind_eq_bind, Option.bind_some,
        (gives_bool _).withDefault]
    · rfl
    · decide

theorem PoolSettings.gives {p : PoolSettings} (h : p.InRange) : p.json.Gives ofDatum? p := by
  have hidle := gives_ofNat h.maxIdle
  have hopen := gives_ofNat h.maxOpen
  have hlifetime := gives_ofNat h.maxLifetime
  have htimeout := gives_ofNat h.acquireTimeout
  refine ⟨.object ?_, ?_⟩
  · simp only [List.forall_mem_cons]
    exact ⟨hidle.writable, hopen.writable, hlifetime.writable, htimeout.writable, nofun⟩
  · rw [ofDatum?, json, slots?_datum_object]
    · simp only [List.map_cons, List.map_nil, Option.bind_eq_bind, Option.bind_some,
        hidle.withDefault, hopen.withDefault, hlifetime.withDefault, htimeout.withDefault]
    · rfl
    · decide

theorem SourceSettings.gives (s : SourceSettings) : s.json.Gives ofDatum? s := by
  refine ⟨.object ?_, ?_⟩
  · simp only [List.forall_mem_cons]
    exact ⟨writable_ofString? s.url, nofun⟩
  · rw [ofDatum?, json, slots?_datum_object]
    · simp only [List.map_cons, List.map_nil, Option.bind_eq_bind, Option.bind_some,
        optional_ofString?]
    · rfl
    · decide

theorem Config.gives {c : Config} (h : c.pool.InRange) : c.json.Gives ofDatum? c := by
  have hpool := PoolSettings.gives h
  refine ⟨.object ?_, ?_⟩
  · simp only [List.forall_mem_cons]
    exact ⟨c.source.gives.writable, hpool.writable, c.quoting.gives.writable, nofun⟩
  · rw [ofDatum?, json, slots?_datum_object]
    · simp only [List.map_cons, List.map_nil, Option.bind_eq_bind, Option.bind_some,
        c.source.gives.withDefault, hpool.withDefault, c.quoting.gives.withDefault]
    · rfl
    · decide

/-! ## Bounds of numbers that are read -/

/-- A field that may be left out has its default, or what was read in it. -/
theorem Datum.Slot.eq_or_exists_of_withDefault {α : Type} {default x : α}
    {read : Datum → Option α} {slot : Slot} (h : slot.withDefault default read = some x) :
    x = default ∨ ∃ d, read d = some x := by
  cases slot with
  | given d => exact .inr ⟨d, h⟩
  | unnamed => exact .inl (Option.some.inj h).symm
  | beyond => exact .inl (Option.some.inj h).symm

theorem Datum.lt_of_asNat? {bound n : Nat} {d : Datum} (h : d.asNat? bound = some n) :
    n < bound := by
  cases d with
  | natural m =>
    obtain ⟨hm, hn⟩ := Option.ite_none_right_eq_some.mp h
    rwa [← Option.some.inj hn]
  | _ => cases h

theorem Datum.Slot.lt_of_withDefault {default bound n : Nat} {slot : Slot}
    (hdefault : default < bound) (h : slot.withDefault default (asNat? bound) = some n) :
    n < bound := by
  rcases eq_or_exists_of_withDefault h with rfl | ⟨d, hd⟩
  · exact hdefault
  · exact lt_of_asNat? hd

/-- **Every pool that is read is in range**, whatever it is read from. -/
theorem PoolSettings.inRange_of_ofDatum? {d : Datum} {p : PoolSettings}
    (h : ofDatum? d = some p) : p.InRange := by
  obtain ⟨slots, -, h⟩ := Option.bind_eq_some_iff.mp h
  split at h
  · obtain ⟨maxIdle, hidle, h⟩ := Option.bind_eq_some_iff.mp h
    obtain ⟨maxOpen, hopen, h⟩ := Option.bind_eq_some_iff.mp h
    obtain ⟨maxLifetime, hlifetime, h⟩ := Option.bind_eq_some_iff.mp h
    obtain ⟨acquireTimeout, htimeout, h⟩ := Option.bind_eq_some_iff.mp h
    rw [← Option.some.inj h]
    exact ⟨Datum.Slot.lt_of_withDefault (by decide) hidle,
      Datum.Slot.lt_of_withDefault (by decide) hopen,
      Datum.Slot.lt_of_withDefault (by decide) hlifetime,
      Datum.Slot.lt_of_withDefault (by decide) htimeout⟩
  · cases h

theorem PoolSettings.inRange_default : InRange {} :=
  ⟨by decide, by decide, by decide, by decide⟩

theorem Config.inRange_of_ofDatum? {d : Datum} {c : Config} (h : ofDatum? d = some c) :
    c.pool.InRange := by
  obtain ⟨slots, -, h⟩ := Option.bind_eq_some_iff.mp h
  split at h
  · obtain ⟨source, -, h⟩ := Option.bind_eq_some_iff.mp h
    obtain ⟨pool, hpool, h⟩ := Option.bind_eq_some_iff.mp h
    obtain ⟨quoting, -, h⟩ := Option.bind_eq_some_iff.mp h
    rw [← Option.some.inj h]
    rcases Datum.Slot.eq_or_exists_of_withDefault hpool with rfl | ⟨d, hd⟩
    · exact PoolSettings.inRange_default
    · exact PoolSettings.inRange_of_ofDatum? hd
  · cases h

/-! ## Texts of records -/

namespace Json

variable {α : Type}

/-- The record that a JSON text stands for. -/
def readText? (read : Datum → Option α) (text : String) : Option α :=
  (Json.parse? text).bind fun j => read j.datum

/-- The text that is written for the record that a JSON text stands for. -/
def rewritten? (json : α → Json) (read : Datum → Option α) (text : String) : Option String :=
  (readText? read text).map fun x => (json x).compact

/-- Writing and reading fit together, for the records in `range`. -/
structure RoundTrips (json : α → Json) (read : Datum → Option α) (range : α → Prop) : Prop where
  /-- What is written for a record is a text of the grammar. -/
  spells_compact : ∀ x, range x → Spells (json x) (json x).compact.toList
  /-- Every record is read back from the text that is written for it. -/
  readText?_compact : ∀ x, range x → readText? read (json x).compact = some x
  /-- Only such records are read. -/
  range_of_readText? : ∀ text x, readText? read text = some x → range x
  /-- What is written for a text is a normal form: it is what is written for itself. -/
  rewritten?_rewritten : ∀ text normal, rewritten? json read text = some normal →
    rewritten? json read normal = some normal

theorem RoundTrips.of_gives {json : α → Json} {read : Datum → Option α} {range : α → Prop}
    (hgives : ∀ x, range x → (json x).Gives read x)
    (hrange : ∀ d x, read d = some x → range x) : RoundTrips json read range := by
  have hreads : ∀ x, range x → readText? read (json x).compact = some x := by
    intro x hx
    rw [readText?, parse?_compact (hgives x hx).writable, Option.bind_some]
    exact (hgives x hx).read_datum
  have hread : ∀ text x, readText? read text = some x → range x := by
    intro text x hx
    obtain ⟨j, -, hj⟩ := Option.bind_eq_some_iff.mp hx
    exact hrange j.datum x hj
  refine ⟨fun x hx => ?_, hreads, hread, fun text normal h => ?_⟩
  · rw [compact, String.toList_ofList]
    exact (hgives x hx).writable.spells none
  · obtain ⟨x, hx, rfl⟩ := Option.map_eq_some_iff.mp h
    rw [rewritten?, hreads x (hread text x hx), Option.map_some]

end Json

/-- **Records survive their texts.**  Each of the eight records of the library is read back from the
JSON text that is written for it, whatever characters its texts have, however many columns and rows
there are, and up to the bounds of its numbers.  Writing what was read from any text, reading that
and writing it again changes nothing any more. -/
theorem records_round_trip :
    RoundTrips ColumnClass.json ColumnClass.ofDatum? (fun _ => True) ∧
    RoundTrips Backend.json Backend.ofDatum? (fun _ => True) ∧
    RoundTrips Quoting.json Quoting.ofDatum? (fun _ => True) ∧
    RoundTrips Column.json Column.ofDatum? (fun _ => True) ∧
    RoundTrips PoolSettings.json PoolSettings.ofDatum? PoolSettings.InRange ∧
    RoundTrips SourceSettings.json SourceSettings.ofDatum? (fun _ => True) ∧
    RoundTrips Config.json Config.ofDatum? (fun c => c.pool.InRange) ∧
    RoundTrips ResultSet.json ResultSet.ofDatum? (fun _ => True) :=
  ⟨.of_gives (fun c _ => c.gives) fun _ _ _ => trivial,
    .of_gives (fun b _ => b.gives) fun _ _ _ => trivial,
    .of_gives (fun q _ => q.gives) fun _ _ _ => trivial,
    .of_gives (fun c _ => c.gives) fun _ _ _ => trivial,
    .of_gives (fun _ hp => PoolSettings.gives hp) fun _ _ => PoolSettings.inRange_of_ofDatum?,
    .of_gives (fun s _ => s.gives) fun _ _ _ => trivial,
    .of_gives (fun _ hc => Config.gives hc) fun _ _ => Config.inRange_of_ofDatum?,
    .of_gives (fun r _ => r.gives) fun _ _ _ => trivial⟩

/-- A pool with the largest numbers that its fields can have, and a column whose name has a quote, a
backslash, a control character and one beyond the basic plane. -/
theorem records_round_trip_of_largest_numbers :
    readText? PoolSettings.ofDatum?
        (PoolSettings.json
          ⟨4294967295, 4294967295, 18446744073709551615, 18446744073709551615⟩).compact =
      some ⟨4294967295, 4294967295, 18446744073709551615, 18446744073709551615⟩ ∧
    readText? Column.ofDatum? (Column.json ⟨"\"\\\x01🧀", "TEXT", .text⟩).compact =
      some ⟨"\"\\\x01🧀", "TEXT", .text⟩ := by
  obtain ⟨-, -, -, hcolumn, hpool, -⟩ := records_round_trip
  exact ⟨hpool.readText?_compact _ ⟨by decide, by decide, by decide, by decide⟩,
    hcolumn.readText?_compact _ trivial⟩

end LiteralRows
