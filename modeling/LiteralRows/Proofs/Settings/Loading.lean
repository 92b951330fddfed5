import LiteralRows.Proofs.Records.Fields
import LiteralRows.Proofs.Text.Utf8
import LiteralRows.Proofs.Toml.Tables
import LiteralRows.Settings.Loading

/-!
# What a configuration file says

A configuration file writes some of six settings, each at most once.  `WrittenSettings` are the
settings that are written, with the values as they are written: a number is an integer of any size
here, and `InRange` is a question.  `Writes` says that a table writes exactly these.  It asks what
the table has under six keys in three tables and about nothing else, so that neither an order nor
another key can make a difference.

`WrittenSettings.outcome` is what loading gives: the configuration with the written values and the
defaults for the others, or the reason why there is none.

* `PoolSettings.numberField_holds_of_given`: a number is read as it is written, or not at all.
* `Config.ofDatum?_of_writes` puts a configuration together from its tables, field by field
  (`Config.readsFields`).
* `WrittenSettings.layout` is a file for any choice of settings.
* `Config.load_written_settings`: the outcome for every text of the settings.  The texts are those
  that stand for a table with them, and among these are all of a `Toml.Layout`, whose lines may be
  written in every way of the grammar.
-/

namespace LiteralRows

/-! ## What a table says -/

namespace Toml

/-- Everything that a table has under a key. -/
def given (key : String) (entries : List (String × Toml)) : List Toml :=
  (entries.filter (·.1 == key)).map Prod.snd

/-- The table that is given under a key; without the key it is empty. -/
inductive HasTable (key : String) (entries : List (String × Toml)) :
    List (String × Toml) → Prop
  | written {table : List (String × Toml)} (h : given key entries = [.table table]) :
    HasTable key entries table
  | omitted (h : given key entries = []) : HasTable key entries []

theorem named_namedData (key : String) (entries : List (String × Toml)) :
    Datum.named key (namedData entries) = (given key entries).map datum := by
  induction entries with
  | nil => rfl
  | cons entry entries ih =>
    obtain ⟨key', value⟩ := entry
    by_cases hkey : key' = key
    · rw [namedData, hkey, Datum.named_cons_self, ih, given, given, List.filter_cons,
        if_pos (beq_self_eq_true key)]
      rfl
    · rw [namedData, Datum.named_cons_of_ne hkey, ih, given, given, List.filter_cons,
        if_neg fun heq => hkey (eq_of_beq heq)]

end Toml

/-! ## What is written -/

/-- The settings that a file writes, each with its value. -/
structure WrittenSettings where
  url : Option String := none
  maxIdle : Option Int := none
  maxOpen : Option Int := none
  maxLifetime : Option Int := none
  acquireTimeout : Option Int := none
  escapeQuotes : Option Bool := none
  deriving DecidableEq, Repr

namespace WrittenSettings

/-- The number, if one is written, is natural and below the bound. -/
def Below (bound : Nat) (n? : Option Int) : Prop :=
  ∀ n ∈ n?, 0 ≤ n ∧ n < bound

instance (bound : Nat) (n? : Option Int) : Decidable (Below bound n?) :=
  inferInstanceAs (Decidable (∀ n ∈ n?, 0 ≤ n ∧ n < bound))

/-- Every number that is written is in the range of its setting. -/
def InRange (w : WrittenSettings) : Prop :=
  Below (Nat.pow 2 32) w.maxIdle ∧ Below (Nat.pow 2 32) w.maxOpen ∧
    Below (Nat.pow 2 64) w.maxLifetime ∧ Below (Nat.pow 2 64) w.acquireTimeout

instance (w : WrittenSettings) : Decidable w.InRange :=
  inferInstanceAs (Decidable (_ ∧ _))

/-- The number that is written, or the default. -/
def number (n? : Option Int) (default : Nat) : Nat :=
  (n?.map Int.toNat).getD default

/-- The shape of the pool, with the defaults for what is not written. -/
def pool (w : WrittenSettings) : PoolSettings where
  maxIdle := number w.maxIdle 10
  maxOpen := number w.maxOpen 20
  maxLifetime := number w.maxLifetime 3600
  acquireTimeout := number w.acquireTimeout 10

/-- The configuration with the values that are written and the defaults for the others. -/
def config (w : WrittenSettings) : Config where
  source := { url := w.url }
  pool := w.pool
  quoting := { escapeQuotes := w.escapeQuotes.getD false }

/-- What loading a file with these settings gives. -/
def outcome (w : WrittenSettings) (path : String) : Except Failure Config :=
  if ¬ w.InRange then .error (.config ("Configuration error in " ++ path ++ ":"))
  else if w.config.pool.maxOpen < 1 then .error (.config "pool.max_open must be at least 1")
  else if w.config.pool.acquireTimeout < 1 then
    .error (.config "pool.acquire_timeout_secs must be at least 1")
  else .ok w.config

end WrittenSettings

/-- A file with these entries writes exactly these settings.  Under other keys it may have anything,
and a table in which nothing is written may be left out. -/
structure Writes (entries : List (String × Toml)) (w : WrittenSettings) : Prop where
  source : ∃ table, Toml.HasTable "source" entries table ∧
    Toml.given "url" table = (w.url.map Toml.string).toList
  pool : ∃ table, Toml.HasTable "pool" entries table ∧
    Toml.given "max_idle" table = (w.maxIdle.map Toml.integer).toList ∧
    Toml.given "max_open" table = (w.maxOpen.map Toml.integer).toList ∧
    Toml.given "max_lifetime_secs" table = (w.maxLifetime.map Toml.integer).toList ∧
    Toml.given "acquire_timeout_secs" table = (w.acquireTimeout.map Toml.integer).toList
  normalize : ∃ table, Toml.HasTable "normalize" entries table ∧
    Toml.given "escape_quotes" table = (w.escapeQuotes.map Toml.bool).toList

/-! ## Files that write them

Every choice of settings is written by some file, whose tables hold nothing else. -/

namespace Toml

/-- The entry of a key, if there is a value for it. -/
def single (key : String) (value? : Option Toml) : List (String × Toml) :=
  value?.toList.map fun value => (key, value)

section Single

variable {key key' : String} {value? : Option Toml}

theorem given_append (key : String) (entries entries' : List (String × Toml)) :
    given key (entries ++ entries') = given key entries ++ given key entries' := by
  rw [given, List.filter_append, List.map_append]
  rfl

theorem given_single_self (key : String) (value? : Option Toml) :
    given key (single key value?) = value?.toList := by
  cases value? with
  | none => rfl
  | some value =>
    rw [given, single, Option.toList_some, List.map_cons, List.filter_cons,
      if_pos (beq_self_eq_true key)]
    rfl

theorem given_single_of_ne (h : key' ≠ key) (value? : Option Toml) :
    given key (single key' value?) = [] := by
  cases value? with
  | none => rfl
  | some value =>
    rw [given, single, Option.toList_some, List.map_cons, List.filter_cons,
      if_neg fun heq => h (eq_of_beq heq)]
    rfl

theorem keys_single_sublist (key : String) (value? : Option Toml) :
    ((single key value?).map Prod.fst).Sublist [key] := by
  cases value? with
  | none => exact List.nil_sublist _
  | some value => exact List.Sublist.refl _

theorem isPlain_single (h : ∀ value ∈ value?, IsPlain value) :
    ∀ entry ∈ single key value?, IsPlain entry.2 := by
  intro entry hentry
  obtain ⟨value, hvalue, rfl⟩ := List.mem_map.mp hentry
  exact h value (Option.mem_toList.mp hvalue)

end Single

end Toml

namespace WrittenSettings

open Toml (single)

/-- The numbers that are written. -/
def numbers (w : WrittenSettings) : List Int :=
  w.maxIdle.toList ++ (w.maxOpen.toList ++ (w.maxLifetime.toList ++ w.acquireTimeout.toList))

/-- The entries for the shape of the pool. -/
def poolEntries (w : WrittenSettings) : List (String × Toml) :=
  single "max_idle" (w.maxIdle.map .integer) ++ (single "max_open" (w.maxOpen.map .integer) ++
    (single "max_lifetime_secs" (w.maxLifetime.map .integer) ++
      single "acquire_timeout_secs" (w.acquireTimeout.map .integer)))

theorem nodup_poolEntries (w : WrittenSettings) : (w.poolEntries.map Prod.fst).Nodup := by
  have hkeys : (w.poolEntries.map Prod.fst).Sublist
      ["max_idle", "max_open", "max_lifetime_secs", "acquire_timeout_secs"] := by
    rw [poolEntries, List.map_append, List.map_append, List.map_append]
    exact (Toml.keys_single_sublist _ _).append ((Toml.keys_single_sublist _ _).append
      ((Toml.keys_single_sublist _ _).append (Toml.keys_single_sublist _ _)))
  exact hkeys.nodup (by decide)

/-- A file with a table for each part of the configuration. -/
def layout (w : WrittenSettings) : Toml.Layout where
  top := []
  tables := [("source", single "url" (w.url.map .string)), ("pool", w.poolEntries),
    ("normalize", single "escape_quotes" (w.escapeQuotes.map .bool))]
  nodup_keys := by
    show ["source", "pool", "normalize"].Nodup
    decide
  nodup_entries := by
    refine List.forall_mem_cons.mpr ⟨?_, List.forall_mem_cons.mpr ⟨w.nodup_poolEntries,
      List.forall_mem_singleton.mpr ?_⟩⟩
    · exact (Toml.keys_single_sublist "url" _).nodup (by decide)
    · exact (Toml.keys_single_sublist "escape_quotes" _).nodup (by decide)

theorem writes_layout (w : WrittenSettings) : Writes w.layout.entries w := by
  have hpool : Toml.given "max_idle" w.poolEntries = (w.maxIdle.map Toml.integer).toList ∧
      Toml.given "max_open" w.poolEntries = (w.maxOpen.map Toml.integer).toList ∧
      Toml.given "max_lifetime_secs" w.poolEntries = (w.maxLifetime.map Toml.integer).toList ∧
      Toml.given "acquire_timeout_secs" w.poolEntries =
        (w.acquireTimeout.map Toml.integer).toList := by
    simp (disch := decide) only [poolEntries, Toml.given_append, Toml.given_single_self,
      Toml.given_single_of_ne, List.nil_append, List.append_nil, and_self]
  exact {
    source := ⟨_, .written rfl, Toml.given_single_self _ _⟩
    pool := ⟨_, .written rfl, hpool⟩
    normalize := ⟨_, .written rfl, Toml.given_single_self _ _⟩ }

theorem isPlain_layout {w : WrittenSettings} (h : ∀ n ∈ w.numbers, Toml.fits n = true) :
    w.layout.IsPlain := by
  have hnumber : ∀ {n? : Option Int}, (∀ n ∈ n?.toList, Toml.fits n = true) →
      ∀ value ∈ n?.map Toml.integer, Toml.IsPlain value := by
    intro n? hfits value hvalue
    obtain ⟨n, hn, rfl⟩ := Option.map_eq_some_iff.mp hvalue
    exact hfits n (Option.mem_toList.mpr hn)
  simp only [numbers, List.forall_mem_append] at h
  obtain ⟨hidle, hopen, hlifetime, htimeout⟩ := h
  have hpool : ∀ entry ∈ w.poolEntries, Toml.IsPlain entry.2 := by
    simp only [poolEntries, List.forall_mem_append]
    exact ⟨Toml.isPlain_single (hnumber hidle), Toml.isPlain_single (hnumber hopen),
      Toml.isPlain_single (hnumber hlifetime), Toml.isPlain_single (hnumber htimeout)⟩
  have hurl : ∀ value ∈ w.url.map Toml.string, Toml.IsPlain value := by
    intro value hvalue
    obtain ⟨text, -, rfl⟩ := Option.map_eq_some_iff.mp hvalue
    trivial
  have hescape : ∀ value ∈ w.escapeQuotes.map Toml.bool, Toml.IsPlain value := by
    intro value hvalue
    obtain ⟨b, -, rfl⟩ := Option.map_eq_some_iff.mp hvalue
    trivial
  refine ⟨List.forall_mem_nil _, ?_⟩
  exact List.forall_mem_cons.mpr ⟨Toml.isPlain_single hurl, List.forall_mem_cons.mpr ⟨hpool,
    List.forall_mem_singleton.mpr (Toml.isPlain_single hescape)⟩⟩

end WrittenSettings

/-! ## Fields -/

section Fields

variable {α : Type} {entries table : List (String × Toml)}

/-- A field that is a table is read from what the table says, and from an empty table if it is left
out. -/
theorem Field.value?_of_hasTable {f : Field α} (hdefault : f.default = f.read (.record []))
    (h : Toml.HasTable f.key entries table) :
    f.value? (Datum.named f.key (Toml.namedData entries)) =
      f.read (.record (Toml.namedData table)) := by
  rw [Toml.named_namedData]
  cases h with
  | written h =>
    rw [h]
    rfl
  | omitted h =>
    rw [h]
    exact hdefault

theorem Field.value?_of_given {f : Field α} {value? : Option Toml}
    (h : Toml.given f.key table = value?.toList) :
    f.value? (Datum.named f.key (Toml.namedData table)) =
      value?.elim f.default fun value => f.read value.datum := by
  rw [Toml.named_namedData, h]
  cases value? <;> rfl

end Fields

/-- A natural number below a bound is read from an integer if the integer is one. -/
theorem Toml.asNat?_datum_integer (bound : Nat) (n : Int) :
    (Toml.integer n).datum.asNat? bound = if 0 ≤ n ∧ n < bound then some n.toNat else none := by
  cases n with
  | ofNat m =>
    rw [datum, Datum.asNat?]
    by_cases h : m < bound
    · rw [if_pos h, if_pos ⟨Int.natCast_nonneg m, Int.ofNat_lt.mpr h⟩]
      rfl
    · rw [if_neg h, if_neg fun hrange => h (Int.ofNat_lt.mp hrange.2)]
  | negSucc m =>
    rw [if_neg fun hrange => absurd hrange.1 (Int.not_le.mpr (Int.negSucc_lt_zero m))]
    rfl

open WrittenSettings (Below number)

theorem WrittenSettings.below_some_iff {bound : Nat} {n : Int} :
    Below bound (some n) ↔ 0 ≤ n ∧ n < bound :=
  ⟨fun h => h n rfl, fun h m hm => by rwa [← Option.some.inj hm]⟩

namespace PoolSettings

variable {table : List (String × Toml)} {w : WrittenSettings} {p : PoolSettings}

/-- **A number that is written is the value of its field, or is refused.**  It is never changed. -/
theorem numberField_holds_of_given {key : String} {n? : Option Int}
    (h : Toml.given key table = (n?.map Toml.integer).toList) (get : PoolSettings → Nat)
    (bound default : Nat) :
    (numberField key get bound default).Holds (Toml.namedData table) p ↔
      Below bound n? ∧ number n? default = get p := by
  have hvalue := @Field.value?_of_given _ table (numberField key get bound default) _ h
  rw [Field.Holds, hvalue]
  cases n? with
  | none =>
    constructor
    · intro hdefault
      exact ⟨fun _ hn => absurd hn (Option.not_mem_none _), Option.some.inj hdefault⟩
    · rintro ⟨-, hdefault⟩
      exact congrArg some hdefault
  | some n =>
    have hread : (if 0 ≤ n ∧ n < bound then some n.toNat else none) = some (get p) ↔
        (0 ≤ n ∧ n < bound) ∧ n.toNat = get p := by
      rw [Option.ite_none_right_eq_some, Option.some.injEq]
    rw [WrittenSettings.below_some_iff]
    exact (Eq.congr_left (Toml.asNat?_datum_integer bound n)).trans hread

/-- The shape of a pool is read from what its table says. -/
theorem ofDatum?_of_given
    (hidle : Toml.given "max_idle" table = (w.maxIdle.map Toml.integer).toList)
    (hopen : Toml.given "max_open" table = (w.maxOpen.map Toml.integer).toList)
    (hlifetime : Toml.given "max_lifetime_secs" table = (w.maxLifetime.map Toml.integer).toList)
    (htimeout : Toml.given "acquire_timeout_secs" table =
      (w.acquireTimeout.map Toml.integer).toList) :
    ofDatum? (.record (Toml.namedData table)) = if w.InRange then some w.pool else none := by
  refine Option.ext fun p => ?_
  rw [readsFields, Option.ite_none_right_eq_some, Option.some.injEq]
  simp only [fields, List.forall_mem_cons, numberField_holds_of_given hidle,
    numberField_holds_of_given hopen, numberField_holds_of_given hlifetime,
    numberField_holds_of_given htimeout]
  constructor
  · rintro ⟨⟨hidle, ha⟩, ⟨hopen, hb⟩, ⟨hlifetime, hc⟩, ⟨htimeout, hd⟩, -⟩
    refine ⟨⟨hidle, hopen, hlifetime, htimeout⟩, ?_⟩
    rw [WrittenSettings.pool, ha, hb, hc, hd]
  · rintro ⟨⟨hidle, hopen, hlifetime, htimeout⟩, rfl⟩
    exact ⟨⟨hidle, rfl⟩, ⟨hopen, rfl⟩, ⟨hlifetime, rfl⟩, ⟨htimeout, rfl⟩, List.forall_mem_nil _⟩

end PoolSettings

theorem SourceSettings.ofDatum?_of_given {table : List (String × Toml)} {url : Option String}
    (h : Toml.given "url" table = (url.map Toml.string).toList) :
    ofDatum? (.record (Toml.namedData table)) = some { url } := by
  refine (readsFields _ _).mpr (List.forall_mem_singleton.mpr ?_)
  refine (Field.value?_of_given h).trans ?_
  cases url <;> rfl

theorem Quoting.ofDatum?_of_given {table : List (String × Toml)} {escapeQuotes : Option Bool}
    (h : Toml.given "escape_quotes" table = (escapeQuotes.map Toml.bool).toList) :
    ofDatum? (.record (Toml.namedData table)) =
      some { escapeQuotes := escapeQuotes.getD false } := by
  refine (readsFields _ _).mpr (List.forall_mem_singleton.mpr ?_)
  refine (Field.value?_of_given h).trans ?_
  cases escapeQuotes <;> rfl

namespace Config

variable {entries : List (String × Toml)} {w : WrittenSettings}

/-- **A configuration is read from what its tables say.** -/
theorem ofDatum?_of_writes (h : Writes entries w) :
    ofDatum? (.record (Toml.namedData entries)) = if w.InRange then some w.config else none := by
  obtain ⟨⟨source, hsource, hurl⟩, ⟨pool, hpool, hidle, hopen, hlifetime, htimeout⟩,
    ⟨quoting, hquoting, hescape⟩⟩ := h
  have hpool' := PoolSettings.ofDatum?_of_given hidle hopen hlifetime htimeout
  by_cases hrange : w.InRange
  · rw [if_pos hrange] at hpool' ⊢
    rw [readsFields, fields, List.forall_mem_cons, List.forall_mem_cons,
      List.forall_mem_singleton]
    exact ⟨(Field.value?_of_hasTable rfl hsource).trans (SourceSettings.ofDatum?_of_given hurl),
      (Field.value?_of_hasTable rfl hpool).trans hpool',
      (Field.value?_of_hasTable rfl hquoting).trans (Quoting.ofDatum?_of_given hescape)⟩
  · rw [if_neg hrange] at hpool' ⊢
    exact readsFields.eq_none (List.mem_cons_of_mem _ List.mem_cons_self)
      ((Field.value?_of_hasTable rfl hpool).trans hpool')

/-- **A text that stands for a table with these settings has their outcome.** -/
theorem ofText_of_writes {text : String} (htext : Toml.parse? text = some (.table entries))
    (h : Writes entries w) (path : String) : ofText path text = w.outcome path := by
  have hread : ofToml? text = if w.InRange then some w.config else none := by
    rw [ofToml?, htext, Option.bind_some, Toml.datum, ofDatum?_of_writes h]
  rw [ofText, hread, WrittenSettings.outcome]
  by_cases hrange : w.InRange
  · rw [if_pos hrange, if_neg (not_not.mpr hrange)]
    dsimp only
    rw [PoolSettings.check, PoolSettings.fault?, if_congr Nat.lt_one_iff rfl rfl,
      if_congr Nat.lt_one_iff rfl rfl]
    by_cases hopen : w.config.pool.maxOpen = 0
    · rw [if_pos hopen, if_pos hopen]
      rfl
    rw [if_neg hopen, if_neg hopen]
    by_cases htimeout : w.config.pool.acquireTimeout = 0
    · rw [if_pos htimeout, if_pos htimeout]
      rfl
    · rw [if_neg htimeout, if_neg htimeout]
      rfl
  · rw [if_neg hrange, if_pos hrange]
    rfl

theorem load_file (path text : String) :
    load path (.file (Text.Utf8.encode text.toList)) = ofText path text := by
  have hread : (Entry.file (Text.Utf8.encode text.toList)).text = .ok text := by
    simp only [Entry.text, Entry.bytes, bind, Except.bind, Text.Utf8.decode?_encode,
      String.ofList_toList]
  rw [load, hread]
  rfl

/-- **No configuration is loaded with a pool that cannot be used.** -/
theorem check_of_load {path : String} {entry : Entry} {config : Config}
    (h : load path entry = .ok config) : config.pool.check = .ok () := by
  rw [load] at h
  split at h
  · cases h
    rfl
  split at h
  · cases h
  rename_i text _
  rw [ofText] at h
  split at h
  · cases h
  rename_i config' _
  cases hcheck : config'.pool.check with
  | error failure =>
    rw [hcheck] at h
    cases h
  | ok _ =>
    rw [hcheck] at h
    cases h
    exact hcheck

/-- **A file says what the configuration is, and everything else is the default.**

* Whatever text stands for a table that writes these settings, loading it has their outcome.
* So has every text of a document with these settings, in whatever order its tables and their keys
  are, and if the document is plain it has a text.
* Every choice of settings is that of a plain document, if its numbers fit in sixty-four bits.
* A text in which a key is given an integer that does not fit in sixty-four bits is refused.
* What is loaded has a pool that can be used. -/
theorem load_written_settings (path : String) :
    (∀ {text : String} {entries : List (String × Toml)} {w : WrittenSettings},
      Toml.parse? text = some (.table entries) → Writes entries w →
        load path (.file (Text.Utf8.encode text.toList)) = w.outcome path) ∧
    (∀ {l : Toml.Layout} {w : WrittenSettings}, Writes l.entries w →
      (l.IsPlain → ∃ text, l.Spells text) ∧
        ∀ {text : String}, l.Spells text →
          load path (.file (Text.Utf8.encode text.toList)) = w.outcome path) ∧
    (∀ {w : WrittenSettings}, (∀ n ∈ w.numbers, Toml.fits n = true) →
      ∃ l : Toml.Layout, l.IsPlain ∧ Writes l.entries w) ∧
    (∀ {text : String}, Toml.IsOversized (Toml.unixEnds (Toml.withoutMark text.toList)) →
      load path (.file (Text.Utf8.encode text.toList)) = .error (malformed path)) ∧
    ∀ {entry : Entry} {config : Config},
      load path entry = .ok config → config.pool.check = .ok () := by
  have hwritten : ∀ {text : String} {entries : List (String × Toml)} {w : WrittenSettings},
      Toml.parse? text = some (.table entries) → Writes entries w →
        load path (.file (Text.Utf8.encode text.toList)) = w.outcome path := by
    intro text entries w htext h
    rw [load_file, ofText_of_writes htext h]
  refine ⟨hwritten, ?_, ?_, ?_, check_of_load⟩
  · intro l w h
    exact ⟨fun hplain => hplain.exists_spells, fun hspells => hwritten hspells.parse?_eq h⟩
  · intro w hfits
    exact ⟨w.layout, WrittenSettings.isPlain_layout hfits, w.writes_layout⟩
  · intro text h
    rw [load_file, ofText, ofToml?, Toml.parse?, h.lines?_eq_none]
    rfl

/-- One table with one setting, and an integer that is one too large. -/
theorem load_written_settings_of_pool :
    let short := String.ofList ['[', 'p', 'o', 'o', 'l', ']', '\n',
      'm', 'a', 'x', '_', 'o', 'p', 'e', 'n', '=', '4']
    let oversized := String.ofList ['p', 'o', 'o', 'l', '.', 'm', 'a', 'x', '_', 'o', 'p', 'e', 'n',
      '=', '9', '2', '2', '3', '3', '7', '2', '0', '3', '6', '8', '5', '4', '7', '7', '5', '8', '0',
      '8']
    ∃ l : Toml.Layout, l.entries = [("pool", .table [("max_open", .integer 4)])] ∧
      (∃ text, l.Spells text) ∧ l.Spells short ∧
      Toml.parse? short = some (.table l.entries) ∧
      load "rows.toml" (.file (Text.Utf8.encode short.toList)) = .ok { pool := { maxOpen := 4 } } ∧
      (∃ l : Toml.Layout, l.IsPlain ∧ Writes l.entries { maxOpen := some (-4) }) ∧
      PoolSettings.check { maxOpen := 4 } = .ok () ∧
      load "rows.toml" (.file (Text.Utf8.encode oversized.toList)) =
        .error (malformed "rows.toml") := by
  intro short oversized
  obtain ⟨hparsed, hlayout, hchosen, hoversized, hcheck⟩ := load_written_settings "rows.toml"
  let l : Toml.Layout := {
    top := []
    tables := [("pool", [("max_open", .integer 4)])]
    nodup_keys := by decide
    nodup_entries := List.forall_mem_singleton.mpr (by decide) }
  have hwrites : Writes l.entries { maxOpen := some 4 } := {
    source := ⟨[], .omitted rfl, rfl⟩
    pool := ⟨_, .written rfl, rfl, rfl, rfl, rfl⟩
    normalize := ⟨[], .omitted rfl, rfl⟩ }
  have hplain : l.IsPlain :=
    ⟨List.forall_mem_nil _, List.forall_mem_singleton.mpr (List.forall_mem_singleton.mpr rfl)⟩
  have hgap : Toml.IsGap [] := List.forall_mem_nil _
  have hpool : Toml.SpellsKey "pool" ['p', 'o', 'o', 'l'] :=
    .bare (by decide) (List.all_eq_true.mp rfl)
  have hopen : Toml.SpellsKey "max_open" ['m', 'a', 'x', '_', 'o', 'p', 'e', 'n'] :=
    .bare (by decide) (List.all_eq_true.mp rfl)
  have hfour : Toml.SpellsValue (.integer 4) ['4'] := .integer rfl rfl
  have hheader := Toml.SpellsLine.header hgap (.last hpool hgap) (Toml.length_singleton_le "pool")
  have hentry := Toml.SpellsLine.entry (.last hopen hgap) (Toml.length_singleton_le "max_open")
    hgap hfour
  have hspells : l.Spells short := by
    rw [Toml.Layout.Spells, String.toList_ofList]
    exact .unended (.cons hgap hheader (.plain hgap) .nil) hgap hentry (.plain hgap)
  have hload := hparsed hspells.parse?_eq hwrites
  obtain ⟨htext, hloads⟩ := hlayout hwrites
  refine ⟨l, rfl, htext hplain, hspells, hspells.parse?_eq, hloads hspells,
    hchosen (List.forall_mem_singleton.mpr rfl), hcheck hload, hoversized ?_⟩
  have hpath := Toml.SpellsPath.cons hpool hgap hgap (.last hopen hgap)
  have hlarge : Toml.anyInteger? ['9', '2', '2', '3', '3', '7', '2', '0', '3', '6', '8', '5', '4',
      '7', '7', '5', '8', '0', '8'] = some 9223372036854775808 := rfl
  rw [String.toList_ofList]
  exact .mk .nil hgap hpath (by decide) hgap hlarge rfl Toml.endsValue_nil

end Config

end LiteralRows
