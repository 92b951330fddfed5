import LiteralRows.Proofs.Text.Case
import LiteralRows.Proofs.Url.Reading
import LiteralRows.Provision

/-!
# The scheme of a descriptor

A descriptor chooses its backend by its scheme, and the letter case of the scheme does not matter
there.

* `Backend.Names` says that a text is one of the names of a backend in some spelling.  Such a text
  consists of letters, so that it is a scheme to a reader of URLs as well (`Names.isScheme`).
* `ofDescriptor?_eq_some_iff`: the backend is chosen by the text before the first colon.
-/

namespace LiteralRows
namespace Backend

/-- The schemes of a backend, in lower case. -/
def schemes : Backend → List String
  | postgres => ["postgres", "postgresql"]
  | sqlite => ["sqlite"]

/-- The text is a scheme of the backend, letter case apart. -/
def Names (b : Backend) (scheme : List Char) : Prop :=
  Text.lower (String.ofList scheme) ∈ b.schemes

instance (b : Backend) (scheme : List Char) : Decidable (b.Names scheme) :=
  inferInstanceAs (Decidable (_ ∈ _))

/-- The text before the first colon of the descriptor is a scheme of the backend. -/
def SelectedBy (b : Backend) (descriptor : String) : Prop :=
  ∃ scheme rest, descriptor.toList = scheme ++ ':' :: rest ∧ ':' ∉ scheme ∧ b.Names scheme

variable {b : Backend} {scheme rest : List Char} {descriptor : String}

/-! ## The letters of a scheme -/

theorem isAlpha_of_isAlpha_toLower {c : Char} (h : c.toLower.isAlpha = true) :
    c.isAlpha = true := by
  by_cases hupper : c.val ≥ 'A'.val ∧ c.val ≤ 'Z'.val
  · have hc : c.isUpper = true := decide_eq_true hupper
    show (c.isUpper || c.isLower) = true
    rw [hc, Bool.true_or]
  · have hc : c.toLower = c := dif_neg hupper
    rwa [hc] at h

theorem schemes_plain : ∀ name ∈ b.schemes, Text.IsAscii name.toList ∧ 'k' ∉ name.toList ∧
    name.toList ≠ [] ∧ ∀ c ∈ name.toList, c.isAlpha = true := by
  have hall : b.schemes.all (fun name => !name.toList.isEmpty && name.toList.all fun c =>
      decide (c.toNat < 0x80) && c != 'k' && c.isAlpha) = true := by cases b <;> decide +kernel
  intro name hname
  have h := List.all_eq_true.mp hall name hname
  simp only [Bool.and_eq_true, Bool.not_eq_true', List.isEmpty_eq_false_iff, List.all_eq_true,
    decide_eq_true_eq, bne_iff_ne] at h
  exact ⟨fun c hc => (h.2 c hc).1.1, fun hk => (h.2 'k' hk).1.2 rfl, h.1,
    fun c hc => (h.2 c hc).2⟩

/-- A scheme differs from its lower-case form by the case of ASCII letters only. -/
theorem Names.lowerAscii_eq (h : b.Names scheme) :
    Text.lowerAscii (String.ofList scheme) = Text.lower (String.ofList scheme) := by
  obtain ⟨hascii, hk, -, -⟩ := schemes_plain _ h
  exact ((Text.lower_eq_iff hascii hk).mp rfl).2

theorem Names.isAscii (h : b.Names scheme) : Text.IsAscii scheme := by
  obtain ⟨hascii, hk, -, -⟩ := schemes_plain _ h
  have htext := ((Text.lower_eq_iff hascii hk).mp rfl).1
  rwa [String.toList_ofList] at htext

/-- **A scheme consists of letters.** -/
theorem Names.forall_isAlpha (h : b.Names scheme) :
    scheme ≠ [] ∧ ∀ c ∈ scheme, c.isAlpha = true := by
  obtain ⟨-, -, hne, halpha⟩ := schemes_plain _ h
  rw [← h.lowerAscii_eq, Text.lowerAscii, String.toList_ofList, String.toList_ofList] at hne halpha
  refine ⟨fun hnil => hne (congrArg (List.map Char.toLower) hnil), fun c hc => ?_⟩
  exact isAlpha_of_isAlpha_toLower (halpha c.toLower (List.mem_map_of_mem hc))

theorem Names.exists_head (h : b.Names scheme) :
    ∃ c cs, scheme = c :: cs ∧ c.isAlpha = true := by
  obtain ⟨hne, halpha⟩ := h.forall_isAlpha
  obtain ⟨c, cs, rfl⟩ := List.exists_cons_of_ne_nil hne
  exact ⟨c, cs, rfl, halpha c List.mem_cons_self⟩

theorem Names.isScheme (h : b.Names scheme) : Url.IsScheme scheme := by
  obtain ⟨c, cs, rfl, hc⟩ := h.exists_head
  refine ⟨c, cs, rfl, hc, List.all_eq_true.mpr fun d hd => ?_⟩
  rw [Url.isSchemeChar, Char.isAlphanum, h.forall_isAlpha.2 d (List.mem_cons_of_mem c hd)]
  rfl

theorem Names.notMem (h : b.Names scheme) {c : Char} (hc : c.isAlpha = false) : c ∉ scheme :=
  fun hmem => Bool.false_ne_true (hc.symm.trans (h.forall_isAlpha.2 c hmem))

theorem Names.colon_notMem (h : b.Names scheme) : ':' ∉ scheme :=
  h.notMem (by decide)

/-! ## The choice of the backend -/

theorem ofScheme?_eq_some_iff {text : String} :
    ofScheme? text = some b ↔ Text.lower text ∈ b.schemes := by
  simp only [ofScheme?]
  generalize Text.lower text = name
  have hpostgres : name ∈ postgres.schemes ↔ name = "postgres" ∨ name = "postgresql" := by
    simp only [schemes, List.mem_cons, List.not_mem_nil, or_false]
  have hsqlite : name ∈ sqlite.schemes ↔ name = "sqlite" := List.mem_singleton
  split
  · rename_i hname
    cases b with
    | postgres => exact ⟨fun _ => hpostgres.mpr hname, fun _ => rfl⟩
    | sqlite =>
      refine ⟨nofun, fun h => ?_⟩
      rw [hsqlite.mp h] at hname
      exact absurd hname (by decide)
  · rename_i hother
    cases b with
    | postgres =>
      refine ⟨fun h => ?_, fun h => absurd (hpostgres.mp h) hother⟩
      split at h <;> cases h
    | sqlite =>
      rw [hsqlite]
      split
      · rename_i hname
        exact ⟨fun _ => hname, fun _ => rfl⟩
      · rename_i hneither
        exact ⟨nofun, fun h => absurd h hneither⟩

theorem Names.ofScheme?_eq (h : b.Names scheme) : ofScheme? (String.ofList scheme) = some b :=
  ofScheme?_eq_some_iff.mpr h

/-- **The backend is chosen by the text before the first colon**, letter case apart. -/
theorem ofDescriptor?_eq_some_iff :
    ofDescriptor? descriptor = some b ↔ b.SelectedBy descriptor := by
  rw [ofDescriptor?]
  constructor
  · intro h
    cases hcut : Text.cutAt ':' descriptor.toList with
    | none =>
      rw [hcut] at h
      cases h
    | some cut =>
      obtain ⟨scheme, rest⟩ := cut
      rw [hcut] at h
      obtain ⟨c, hc, hdescriptor⟩ := Text.eq_append_of_cutWhere hcut
      rw [eq_of_beq hc] at hdescriptor
      have hnames : b.Names scheme := ofScheme?_eq_some_iff.mp h
      exact ⟨scheme, rest, hdescriptor, hnames.colon_notMem, hnames⟩
  · rintro ⟨scheme, rest, hdescriptor, hcolon, hnames⟩
    rw [hdescriptor, Text.cutAt_append_cons hcolon]
    exact hnames.ofScheme?_eq

theorem ofDescriptor?_eq_none_iff :
    ofDescriptor? descriptor = none ↔ ∀ b : Backend, ¬ b.SelectedBy descriptor := by
  simp only [Option.eq_none_iff_forall_ne_some, ne_eq, ofDescriptor?_eq_some_iff]

/-- A descriptor with a scheme is not blank: its colon is visible. -/
theorem SelectedBy.not_isAllBlank (h : b.SelectedBy descriptor) :
    Text.isAllBlank descriptor.toList = false := by
  obtain ⟨scheme, rest, hdescriptor, -, -⟩ := h
  rw [Text.isAllBlank, hdescriptor, List.all_append, List.all_cons, Bool.and_eq_false_iff]
  exact .inr rfl

end Backend
end LiteralRows
