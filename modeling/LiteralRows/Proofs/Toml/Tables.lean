import LiteralRows.Proofs.Toml.Documents

/-!
# The table of a document

A `Layout` is a document that is written plainly: keys of one part at its top, and tables under
headers of one part, each with keys of one part, in any order.  No key is there twice.

* `Layout.lines` are its lines, and `Layout.entries` is what it says.
* `Layout.ofLines?_lines`: the lines build the table with these entries, in this order.

Keys and their values are added to the table that holds now, which is the root or the table of the
last header.  `Receives` is said of both, and `build_entryLines` is the one induction over entries.
-/

namespace LiteralRows.Toml

/-- A document of keys and tables, each written once. -/
structure Layout where
  /-- What stands before the first header. -/
  top : List (String × Toml)
  /-- What stands under the headers. -/
  tables : List (String × List (String × Toml))
  nodup_keys : (top.map Prod.fst ++ tables.map Prod.fst).Nodup
  nodup_entries : ∀ table ∈ tables, (table.2.map Prod.fst).Nodup

/-- The lines of keys and their values. -/
def entryLines (entries : List (String × Toml)) : List Line :=
  entries.map fun (key, value) => .entry [key] value

/-- The lines of tables with their headers. -/
def tableLines (tables : List (String × List (String × Toml))) : List Line :=
  tables.flatMap fun (name, entries) => .table [name] :: entryLines entries

namespace Layout

/-- The lines of the document. -/
def lines (l : Layout) : List Line :=
  entryLines l.top ++ tableLines l.tables

/-- What the document says. -/
def entries (l : Layout) : List (String × Toml) :=
  l.top ++ l.tables.map fun (name, entries) => (name, .table entries)

end Layout

/-! ## One line -/

section Nodes

variable {key : String} {node node' : Node} {value : Toml} {entries before : Entries}

theorem lookup_eq_none (h : key ∉ entries.map Prod.fst) : entries.lookup key = none := by
  refine List.lookup_eq_none_iff.mpr fun entry hentry => ?_
  rw [bne_iff_ne]
  rintro rfl
  exact h (List.mem_map_of_mem hentry)

theorem lookup_append_self (h : key ∉ before.map Prod.fst) :
    (before ++ [(key, node)]).lookup key = some node := by
  rw [List.lookup_append, lookup_eq_none h, Option.none_or, List.lookup_cons_self]

theorem replace_append_self (h : key ∉ before.map Prod.fst) :
    replace key node' (before ++ [(key, node)]) = before ++ [(key, node')] := by
  have hbefore : replace key node' before = before := by
    refine (List.map_congr_left fun entry hentry => ?_).trans (List.map_id before)
    refine if_neg fun hkey => h ?_
    rw [← hkey]
    exact List.mem_map_of_mem hentry
  rw [replace] at hbefore
  rw [replace, List.map_append, hbefore]
  simp only [List.map_cons, List.map_nil, if_true]

theorem addPath_eq (h : key ∉ entries.map Prod.fst) :
    addPath [key] value .declared entries = some (entries ++ [(key, .leaf value)]) := by
  show addEntry false key value .declared entries = _
  rw [addEntry, lookup_eq_none h]
  rfl

theorem addHeader_eq (h : key ∉ entries.map Prod.fst) :
    addHeader declare [key] entries = some (entries ++ [(key, .table .declared [])]) := by
  show declare key .declared entries = _
  rw [declare, lookup_eq_none h]

end Nodes

/-! ## Keys and their values -/

/-- The nodes of keys and their values. -/
def leaves (entries : List (String × Toml)) : Entries :=
  entries.map fun (key, value) => (key, .leaf value)

/-- Under the headers of a path keys are added to a table, which stands where `wrap` puts it. -/
def Receives (here : List String) (wrap : Entries → Entries) : Prop :=
  ∀ (key : String) (value : Toml) (below : Entries), key ∉ below.map Prod.fst →
    changeAt .implied (addPath [key] value) here .declared (wrap below) =
      some (wrap (below ++ [(key, .leaf value)]))

theorem receives_root : Receives [] id :=
  fun _ _ _ => addPath_eq

theorem receives_last {name : String} {before : Entries} (h : name ∉ before.map Prod.fst) :
    Receives [name] fun below => before ++ [(name, .table .declared below)] := by
  intro key value below hkey
  rw [changeAt, lookup_append_self h]
  dsimp only
  rw [if_neg (by decide), changeAt, addPath_eq hkey, Option.map_some, replace_append_self h]

/-- **Keys that are new are added one after the other.** -/
theorem Receives.build_entryLines {here : List String} {wrap : Entries → Entries}
    (h : Receives here wrap) (lines : List Line) {entries : List (String × Toml)} {below : Entries}
    (hnodup : (below.map Prod.fst ++ entries.map Prod.fst).Nodup) :
    build here (entryLines entries ++ lines) (wrap below) =
      build here lines (wrap (below ++ leaves entries)) := by
  induction entries generalizing below with
  | nil => rw [leaves, List.map_nil, List.append_nil, entryLines, List.map_nil, List.nil_append]
  | cons entry entries ih =>
    obtain ⟨key, value⟩ := entry
    have hkey : key ∉ below.map Prod.fst := by
      intro hmem
      exact (List.nodup_append.mp hnodup).2.2 key hmem key List.mem_cons_self rfl
    have hnext : ((below ++ [(key, Node.leaf value)]).map Prod.fst ++
        entries.map Prod.fst).Nodup := by
      rwa [List.map_append, List.append_assoc]
    rw [entryLines, List.map_cons, List.cons_append, build, h key value below hkey,
      Option.bind_some]
    refine (ih hnext).trans ?_
    rw [List.append_assoc]
    rfl

theorem keys_leaves (entries : List (String × Toml)) :
    (leaves entries).map Prod.fst = entries.map Prod.fst := by
  rw [leaves, List.map_map]
  rfl

/-! ## Tables -/

/-- The nodes of tables with headers. -/
def declaredTables (tables : List (String × List (String × Toml))) : Entries :=
  tables.map fun (name, entries) => (name, .table .declared (leaves entries))

/-- **Tables that are new are built one after the other**, whatever table held before. -/
theorem build_tableLines {tables : List (String × List (String × Toml))} {here : List String}
    {root : Entries} (hkeys : (root.map Prod.fst ++ tables.map Prod.fst).Nodup)
    (hentries : ∀ table ∈ tables, (table.2.map Prod.fst).Nodup) :
    build here (tableLines tables) root = some (root ++ declaredTables tables) := by
  induction tables generalizing here root with
  | nil => exact congrArg some (List.append_nil root).symm
  | cons table tables ih =>
    obtain ⟨name, entries⟩ := table
    obtain ⟨htable, hentries⟩ := List.forall_mem_cons.mp hentries
    have hname : name ∉ root.map Prod.fst := by
      intro hmem
      exact (List.nodup_append.mp hkeys).2.2 name hmem name List.mem_cons_self rfl
    have hnext : ((root ++ [(name, Node.table .declared (leaves entries))]).map Prod.fst ++
        tables.map Prod.fst).Nodup := by
      rwa [List.map_append, List.append_assoc]
    have hnone : (([] : Entries).map Prod.fst ++ entries.map Prod.fst).Nodup := htable
    have hbuild := (receives_last hname).build_entryLines (tableLines tables) hnone
    rw [tableLines, List.flatMap_cons, List.cons_append, build, addHeader_eq hname,
      Option.bind_some]
    refine hbuild.trans ?_
    refine (ih hnext hentries).trans ?_
    rw [List.append_assoc]
    rfl

/-! ## The values -/

theorem valuesOf_append (entries entries' : Entries) :
    valuesOf (entries ++ entries') = valuesOf entries ++ valuesOf entries' := by
  induction entries with
  | nil => rfl
  | cons entry entries ih => rw [List.cons_append, valuesOf, ih, valuesOf, List.cons_append]

theorem valuesOf_leaves (entries : List (String × Toml)) : valuesOf (leaves entries) = entries := by
  induction entries with
  | nil => rfl
  | cons entry entries ih =>
    rw [leaves] at ih
    rw [leaves, List.map_cons, valuesOf, ih, Node.value]

theorem valuesOf_declaredTables (tables : List (String × List (String × Toml))) :
    valuesOf (declaredTables tables) =
      tables.map fun (name, entries) => (name, Toml.table entries) := by
  induction tables with
  | nil => rfl
  | cons table tables ih =>
    rw [declaredTables] at ih
    rw [declaredTables, List.map_cons, valuesOf, ih, Node.value, valuesOf_leaves, List.map_cons]

/-- **The lines of a document build what it says.** -/
theorem Layout.ofLines?_lines (l : Layout) : ofLines? l.lines = some (.table l.entries) := by
  have htop : (([] : Entries).map Prod.fst ++ l.top.map Prod.fst).Nodup :=
    (List.nodup_append.mp l.nodup_keys).1
  have hkeys : ((leaves l.top).map Prod.fst ++ l.tables.map Prod.fst).Nodup := by
    rw [keys_leaves]
    exact l.nodup_keys
  have hbuild := receives_root.build_entryLines (tableLines l.tables) htop
  rw [List.nil_append] at hbuild
  have hroot : build [] l.lines [] = some (leaves l.top ++ declaredTables l.tables) :=
    hbuild.trans (build_tableLines hkeys l.nodup_entries)
  rw [ofLines?, hroot, Option.map_some, valuesOf_append, valuesOf_leaves, valuesOf_declaredTables,
    Layout.entries]

/-! ## The text -/

theorem unixEnds_eq_self {s : List Char} (h : '\r' ∉ s) : unixEnds s = s := by
  induction s with
  | nil => rfl
  | cons c s ih =>
    have hc : c ≠ '\r' := fun hc => h (by rw [hc]; exact List.mem_cons_self)
    rw [unixEnds.eq_2 c s fun _ hr => absurd hr hc, ih fun hs => h (List.mem_cons_of_mem c hs)]

/-- A text is one of the document: but for a byte-order mark and the line ends, it consists of its
lines. -/
def Layout.Spells (l : Layout) (text : String) : Prop :=
  SpellsDocument l.lines (unixEnds (withoutMark text.toList))

/-- **A document is read from each of its texts.** -/
theorem Layout.Spells.parse?_eq {l : Layout} {text : String} (h : l.Spells text) :
    parse? text = some (.table l.entries) := by
  rw [parse?, SpellsDocument.lines?_eq h, Option.bind_some, l.ofLines?_lines]

/-- The document holds nothing but strings, truth values and integers within sixty-four bits. -/
def Layout.IsPlain (l : Layout) : Prop :=
  (∀ entry ∈ l.top, Toml.IsPlain entry.2) ∧
    ∀ table ∈ l.tables, ∀ entry ∈ table.2, Toml.IsPlain entry.2

theorem length_singleton_le (key : String) : [key].length ≤ maxDepth := by
  show 1 ≤ maxDepth
  decide

theorem exists_spellsLine_entry (key : String) {value : Toml} (h : IsPlain value) :
    ∃ t, SpellsLine (.entry [key] value) t ∧ '\r' ∉ t := by
  obtain ⟨k, hk, hreturn⟩ := exists_spellsString key
  obtain ⟨s, hs, hreturn'⟩ := h.exists_spellsValue
  have hpath := SpellsPath.last (.quoted hk) (List.forall_mem_nil _)
  refine ⟨_, .entry hpath (length_singleton_le key) (List.forall_mem_nil _) hs, ?_⟩
  simp only [List.append_nil, List.nil_append, List.mem_append, List.mem_cons, not_or]
  exact ⟨hreturn, by decide, hreturn'⟩

theorem exists_spellsLine_table (name : String) :
    ∃ t, SpellsLine (.table [name]) t ∧ '\r' ∉ t := by
  obtain ⟨k, hk, hreturn⟩ := exists_spellsString name
  have hpath := SpellsPath.last (.quoted hk) (List.forall_mem_nil _)
  refine ⟨_, .header (List.forall_mem_nil _) hpath (length_singleton_le name), ?_⟩
  simp only [List.append_nil, List.nil_append, List.mem_append, List.mem_cons, not_or]
  exact ⟨by decide, hreturn, by decide, List.not_mem_nil⟩

theorem exists_spellsLines {lines : List Line}
    (h : ∀ line ∈ lines, ∃ t, SpellsLine line t ∧ '\r' ∉ t) :
    ∃ s, SpellsLines lines s ∧ '\r' ∉ s := by
  induction lines with
  | nil => exact ⟨[], .nil, List.not_mem_nil⟩
  | cons line lines ih =>
    obtain ⟨⟨t, ht, hreturn⟩, h⟩ := List.forall_mem_cons.mp h
    obtain ⟨s, hs, hreturn'⟩ := ih h
    refine ⟨_, .cons (List.forall_mem_nil _) ht (.plain (List.forall_mem_nil _)) hs, ?_⟩
    simp only [List.nil_append, List.mem_append, List.mem_cons, not_or]
    exact ⟨hreturn, by decide, hreturn'⟩

/-- **Every plain document has a text.** -/
theorem Layout.IsPlain.exists_spells {l : Layout} (h : l.IsPlain) : ∃ text, l.Spells text := by
  have hentries : ∀ entries : List (String × Toml), (∀ entry ∈ entries, Toml.IsPlain entry.2) →
      ∀ line ∈ entryLines entries, ∃ t, SpellsLine line t ∧ '\r' ∉ t := by
    intro entries hplain line hline
    obtain ⟨entry, hentry, rfl⟩ := List.mem_map.mp hline
    exact exists_spellsLine_entry entry.1 (hplain entry hentry)
  have hlines : ∀ line ∈ l.lines, ∃ t, SpellsLine line t ∧ '\r' ∉ t := by
    refine List.forall_mem_append.mpr ⟨hentries l.top h.1, fun line hline => ?_⟩
    obtain ⟨table, htable, hline⟩ := List.mem_flatMap.mp hline
    rcases List.mem_cons.mp hline with rfl | hline
    · exact exists_spellsLine_table table.1
    · exact hentries table.2 (h.2 table htable) line hline
  obtain ⟨s, hs, hreturn⟩ := exists_spellsLines hlines
  -- A line end in front keeps a first line apart from a byte-order mark.
  have hblank : SpellsLines l.lines ('\n' :: s) :=
    .blank (.plain (List.forall_mem_nil _)) hs
  have hreturn' : '\r' ∉ '\n' :: s :=
    List.not_mem_cons_of_ne_of_not_mem (by decide) hreturn
  refine ⟨String.ofList ('\n' :: s), ?_⟩
  have hdocument := SpellsDocument.ended hblank (.plain (List.forall_mem_nil _))
  have hmark : withoutMark ('\n' :: s) = '\n' :: s :=
    withoutMark.eq_2 _ fun _ ht => absurd (List.cons.inj ht).1 (by decide)
  rw [Layout.Spells, String.toList_ofList, hmark, unixEnds_eq_self hreturn']
  rwa [List.append_nil] at hdocument

end LiteralRows.Toml
