import LiteralRows.Command.Arguments
import Mathlib.Data.List.Induction

/-!
# The grammar of command lines

A command line is a sequence of options, each written in one of a few ways, and what it asks for can
be read off that sequence.

* `Given.Written` has one constructor for each way to write an option, and `Gives` puts options
  together into a command line; after a lone separator every argument is positional.
* `collected` is what a sequence of options asks for.  An option that may not be repeated stands in
  it at most once (`IsUnrepeated`), so what is kept for it is what the sequence gives for it
  (`single?_collected_eq_some_iff`); the tables of all occurrences are put one behind the other
  (`tables_collected`).
* `schema_ne_none_of_tables_ne_nil` and `query_eq_none_or_queryFile_eq_none`: what the relations
  between options come to in what is asked for.
-/

namespace LiteralRows

namespace Arguments

/-! ## The grammar -/

/-- One option and its value. -/
abbrev Given := Key × String

/-- The argument is not taken for an option: it does not begin with a dash, or it is one. -/
def IsPlain (argument : String) : Prop :=
  argument.toList = ['-'] ∨ argument.toList.head? ≠ some '-'

/-- These characters are a name of the option. -/
inductive Key.Named : Key → List Char → Prop
  | long {key : Key} {name : List Char} (h : longNames.lookup (String.ofList name) = some key) :
    Named key ('-' :: '-' :: name)
  | short {key : Key} {c : Char} (h : shortNames.lookup c = some key) : Named key ['-', c]

/-- The ways to write one option. -/
inductive Given.Written : Given → List String → Prop
  /-- The name, an equals sign and the value. -/
  | joined {key : Key} {name : List Char} {value argument : String} (hname : key.Named name)
    (hvalued : key.isFlag = false) (h : argument.toList = name ++ '=' :: value.toList) :
    Written (key, value) [argument]
  /-- A short name and the value right behind it. -/
  | attached {key : Key} {c d : Char} {text : List Char} {argument : String}
    (hname : shortNames.lookup c = some key) (hvalued : key.isFlag = false) (hd : d ≠ '=')
    (h : argument.toList = '-' :: c :: d :: text) :
    Written (key, String.ofList (d :: text)) [argument]
  /-- The name, and the value as an argument of its own. -/
  | apart {key : Key} {name value : String} (hname : key.Named name.toList)
    (hvalued : key.isFlag = false) (hvalue : IsPlain value) : Written (key, value) [name, value]
  /-- The name alone. -/
  | flag {key : Key} {name : String} (hname : key.Named name.toList) (hflag : key.isFlag = true) :
    Written (key, "") [name]
  /-- The value alone. -/
  | positional {value : String} (h : IsPlain value) : Written (.descriptor, value) [value]

/-- A command line gives these options, in this order.  The flag tells whether a lone separator has
been read. -/
inductive Gives : Bool → List String → List Given → Prop
  | nothing : Gives false [] []
  | more {arguments written : List String} {given : List Given} {option : Given}
    (before : Gives false arguments given) (h : option.Written written) :
    Gives false (arguments ++ written) (given ++ [option])
  | separator {arguments : List String} {given : List Given}
    (before : Gives false arguments given) : Gives true (arguments ++ ["--"]) given
  | positional {arguments : List String} {given : List Given} (before : Gives true arguments given)
    (value : String) : Gives true (arguments ++ [value]) (given ++ [(.descriptor, value)])

/-! ## What options ask for -/

/-- What a sequence of options asks for. -/
def collected (given : List Given) : Arguments :=
  given.foldl (fun a option => Progress.assign a option.1 option.2) {}

/-- Only an option that may be repeated stands there more than once. -/
def IsUnrepeated (given : List Given) : Prop :=
  given.Pairwise fun earlier later => earlier.1 = later.1 → later.1.isRepeatable = true

/-- The tables that one option gives: the parts of its value between commas, empty ones too. -/
def tablesIn (option : Given) : List String :=
  if option.1 = .tables then (Text.splitOn ',' option.2.toList).map String.ofList else []

@[simp] theorem collected_append (given : List Given) (option : Given) :
    collected (given ++ [option]) = Progress.assign (collected given) option.1 option.2 := by
  rw [collected, List.foldl_append]
  rfl

/-- **The tables of all occurrences**, one behind the other. -/
theorem tables_collected (given : List Given) :
    (collected given).tables = given.flatMap tablesIn := by
  induction given using List.reverseRecOn with
  | nil => rfl
  | append_singleton given option ih =>
    obtain ⟨key, value⟩ := option
    rw [collected_append, List.flatMap_append, List.flatMap_singleton, ← ih]
    cases key <;> simp [Progress.assign, tablesIn]

example : tablesIn (.tables, "T1,,t2") = ["T1", "", "t2"] := by decide +kernel

theorem IsUnrepeated.of_append {given : List Given} {option : Given}
    (h : IsUnrepeated (given ++ [option])) :
    IsUnrepeated given ∧
      ∀ earlier ∈ given, earlier.1 = option.1 → option.1.isRepeatable = true := by
  rw [IsUnrepeated, List.pairwise_append] at h
  exact ⟨h.1, fun earlier hearlier => h.2.2 earlier hearlier option (List.mem_singleton_self _)⟩

/-- What is kept for an option by itself. -/
def single? (a : Arguments) : Key → Option String
  | .descriptor => a.descriptor
  | .query => a.query
  | .queryFile => a.queryFile
  | .schema => a.schema
  | .config => a.config
  | .logFile => a.logFile
  | _ => none

/-- Something is kept for the option by itself. -/
def Key.isSingle : Key → Bool
  | descriptor | query | queryFile | schema | config | logFile => true
  | _ => false

theorem Key.isRepeatable_of_isSingle {key : Key} (h : key.isSingle = true) :
    key.isRepeatable = false := by
  cases key <;> first | rfl | cases h

theorem single?_assign (a : Arguments) {key : Key} (hkey : key.isSingle = true) (other : Key)
    (value : String) : (Progress.assign a other value).single? key =
      if other = key then some value else a.single? key := by
  cases key <;> first | cases other <;> rfl | cases hkey

/-- **What is kept for an option** is what is given for it. -/
theorem single?_collected_eq_some_iff {given : List Given} (h : IsUnrepeated given) (key : Key)
    (hkey : key.isSingle = true) {value : String} :
    (collected given).single? key = some value ↔ (key, value) ∈ given := by
  induction given using List.reverseRecOn with
  | nil =>
    constructor
    · cases key <;> exact nofun
    · exact nofun
  | append_singleton given option ih =>
    obtain ⟨hbefore, hoption⟩ := h.of_append
    obtain ⟨other, written⟩ := option
    rw [collected_append, single?_assign _ hkey, List.mem_append, List.mem_singleton,
      Prod.mk.injEq]
    by_cases hother : other = key
    · subst hother
      rw [if_pos rfl, Option.some.injEq]
      constructor
      · intro hvalue
        exact .inr ⟨rfl, hvalue.symm⟩
      · rintro (hmem | ⟨-, hvalue⟩)
        · have hrepeatable := hoption _ hmem rfl
          rw [Key.isRepeatable_of_isSingle hkey] at hrepeatable
          cases hrepeatable
        · exact hvalue.symm
    · rw [if_neg hother, ih hbefore]
      constructor
      · exact .inl
      · rintro (hmem | ⟨hsame, -⟩)
        · exact hmem
        · exact absurd hsame.symm hother

/-! ## Relations between options -/

/-- Whoever names tables names their schema. -/
theorem schema_ne_none_of_tables_ne_nil {given : List Given} (hunrepeated : IsUnrepeated given)
    (hrequires : ∀ names, (.tables, names) ∈ given → ∃ schema, (.schema, schema) ∈ given)
    (htables : (collected given).tables ≠ []) : (collected given).schema ≠ none := by
  intro hschema
  refine htables ?_
  rw [tables_collected, List.flatMap_eq_nil_iff]
  rintro ⟨key, names⟩ hmem
  rw [tablesIn, if_neg]
  rintro rfl
  obtain ⟨schema, hgiven⟩ := hrequires names hmem
  have hsome := (single?_collected_eq_some_iff hunrepeated .schema rfl).mpr hgiven
  exact Option.some_ne_none schema (hsome.symm.trans hschema)

/-- The query comes from one place only. -/
theorem query_eq_none_or_queryFile_eq_none {given : List Given} (hunrepeated : IsUnrepeated given)
    (hconflicts : ∀ sql path, (.query, sql) ∈ given → (.queryFile, path) ∉ given) :
    (collected given).query = none ∨ (collected given).queryFile = none := by
  cases hquery : (collected given).query with
  | none => exact .inl rfl
  | some sql =>
    right
    cases hfile : (collected given).queryFile with
    | none => rfl
    | some path =>
      have hsql := (single?_collected_eq_some_iff hunrepeated .query rfl).mp hquery
      have hpath := (single?_collected_eq_some_iff hunrepeated .queryFile rfl).mp hfile
      exact absurd hpath (hconflicts sql path hsql)

end Arguments
end LiteralRows
