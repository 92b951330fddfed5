import LiteralRows.Proofs.Text.Case
import LiteralRows.Proofs.Text.Pieces
import LiteralRows.Proofs.Text.Utf8
import LiteralRows.Sqlite.Opening

/-!
# The file that a descriptor names

The driver recognizes its prefix in lower case only.  What it makes of the text behind the prefix is
`ofText`; a descriptor that does not begin with the prefix is that text as a whole
(`ofDescriptor_unprefixed`), just as if the prefix had been put in front of it
(`ofDescriptor_prefixed`).  Then what looks like a scheme is the beginning of the name of a file
(`prefix_path_of_ofText`).
-/

namespace LiteralRows

/-! ## Escapes -/

namespace Url.Percent

/-- The character is ASCII and begins no escape. -/
def IsPlain (c : Char) : Prop :=
  c.toNat < 0x80 ∧ c ≠ '%'

instance (c : Char) : Decidable (IsPlain c) :=
  inferInstanceAs (Decidable (_ ∧ _))

theorem forall_isPlain {s : List Char} (h : s.all (fun c => decide (IsPlain c)) = true) :
    ∀ c ∈ s, IsPlain c :=
  fun c hc => of_decide_eq_true (List.all_eq_true.mp h c hc)

theorem decode_cons_of_ne {b : UInt8} (h : b ≠ 0x25) (bytes : List UInt8) :
    decode (b :: bytes) = b :: decode bytes :=
  decode.eq_2 b bytes fun _ _ _ hb _ => h hb

/-- A plain text stays in front of what an escaped text stands for. -/
theorem bytesOf_append {front : List Char} (hfront : ∀ c ∈ front, IsPlain c) (s : List Char) :
    bytesOf (front ++ s) = Text.Utf8.encode front ++ bytesOf s := by
  induction front with
  | nil => rfl
  | cons c front ih =>
    obtain ⟨⟨hascii, hmark⟩, hfront⟩ := List.forall_mem_cons.mp hfront
    have hchar : Text.Utf8.encodeChar c = [UInt8.ofNat c.toNat] := if_pos hascii
    have hbyte : UInt8.ofNat c.toNat ≠ 0x25 := by
      intro h
      have hnumber := congrArg UInt8.toNat h
      rw [Text.Utf8.toNat_ofNat (by omega)] at hnumber
      exact hmark (Char.toNat_inj.mp hnumber)
    have ih := ih hfront
    rw [bytesOf] at ih ⊢
    rw [List.cons_append, Text.Utf8.encode_cons, Text.Utf8.encode_cons, hchar,
      List.singleton_append, decode_cons_of_ne hbyte, ih]
    rfl

theorem prefix_of_textOf {front : List Char} (hfront : ∀ c ∈ front, IsPlain c) {s text : List Char}
    (h : textOf (front ++ s) = .ok text) : front <+: text := by
  rw [textOf] at h
  split at h
  · cases h
    rw [bytesOf_append hfront, Text.Utf8.decodeLossy_encode_append]
    exact List.prefix_append front _
  · cases h

theorem isOk_textOf (s : List Char) :
    (textOf s).isOk = !(Text.Utf8.firstFault (bytesOf s)).isSome := by
  rw [textOf]
  cases Text.Utf8.firstFault (bytesOf s) <;> rfl

theorem isOk_textOf_append {front : List Char} (hfront : ∀ c ∈ front, IsPlain c)
    (s : List Char) : (textOf (front ++ s)).isOk = (textOf s).isOk := by
  rw [isOk_textOf, isOk_textOf, bytesOf_append hfront, Text.Utf8.firstFault,
    Text.Utf8.faultFrom_encode_append, Text.Utf8.isSome_faultFrom _ _ 0, Text.Utf8.firstFault]

/-- A plain text stands for itself. -/
theorem textOf_of_isPlain {s : List Char} (h : ∀ c ∈ s, IsPlain c) : textOf s = .ok s := by
  have hbytes : bytesOf s = Text.Utf8.encode s := by
    have hnil : bytesOf [] = [] := rfl
    have happend := bytesOf_append h []
    rwa [List.append_nil, hnil, List.append_nil] at happend
  rw [textOf, hbytes, Text.Utf8.firstFault_encode, Text.Utf8.decodeLossy_encode]

end Url.Percent

namespace Sqlite.Target

variable {start s front rest : List Char} {t t' : Target} {descriptor : String}

/-! ## Prefixes -/

theorem withoutAll_eq_self (h : ¬ start <+: s) : withoutAll start s = s := by
  rw [withoutAll]
  split
  · rename_i rest hrest
    exact absurd ⟨rest, List.isPrefixOf?_eq_some_iff_append_eq.mp hrest⟩ h
  · rfl

theorem withoutAll_append (h : start ≠ []) (s : List Char) :
    withoutAll start (start ++ s) = withoutAll start s := by
  have hafter : Text.after? start (start ++ s) = some s :=
    List.isPrefixOf?_eq_some_iff_append_eq.mpr rfl
  have hshorter : s.length < (start ++ s).length := by
    have := List.length_pos_of_ne_nil h
    rw [List.length_append]
    omega
  rw [withoutAll]
  split
  · rename_i rest hrest
    cases hafter.symm.trans hrest
    rw [if_pos hshorter]
  · rename_i hnone
    cases hafter.symm.trans hnone

/-- The target with the parameters of the query, one after the other. -/
def withParameters (t : Target) (parameters : List (String × String)) : Except Fault Target :=
  parameters.foldlM (fun t (name, value) => t.withParameter name value) t

/-- What is read from the text behind the prefix. -/
def ofText (text : List Char) : Except Fault Target := do
  let (name, parameters) := (Text.cutAt '?' text).getD (text, [])
  let t ← ofName name
  t.withParameters (Url.Percent.formPairs parameters)

theorem ofDescriptor_eq {text : List Char}
    (h : withoutAll "sqlite:".toList (withoutAll "sqlite://".toList descriptor.toList) = text) :
    ofDescriptor descriptor = ofText text := by
  rw [ofDescriptor, h]
  rfl

/-- A text that does not begin with the prefix names a file as a whole. -/
theorem ofDescriptor_unprefixed (h : ¬ "sqlite:".toList <+: descriptor.toList) :
    ofDescriptor descriptor = ofText descriptor.toList := by
  have hlong : ¬ "sqlite://".toList <+: descriptor.toList :=
    fun hlong => h ((List.prefix_append "sqlite:".toList "//".toList).trans hlong)
  apply ofDescriptor_eq
  rw [withoutAll_eq_self hlong, withoutAll_eq_self h]

/-- The prefix in front of a text that does not begin with it is taken off. -/
theorem ofDescriptor_prefixed (h : ¬ "sqlite:".toList <+: descriptor.toList)
    (hslashes : ¬ "//".toList <+: descriptor.toList) :
    ofDescriptor ("sqlite:" ++ descriptor) = ofText descriptor.toList := by
  have hlong : ¬ "sqlite://".toList <+: "sqlite:".toList ++ descriptor.toList :=
    fun hlong => hslashes ((List.prefix_append_right_inj "sqlite:".toList).mp hlong)
  apply ofDescriptor_eq
  rw [String.toList_append, withoutAll_eq_self hlong, withoutAll_append (by decide),
    withoutAll_eq_self h]

/-! ## Names -/

theorem path_withParameter {name value : String} (h : t.withParameter name value = .ok t') :
    t'.path = t.path := by
  rw [withParameter.eq_def] at h
  split at h <;> cases h <;> rfl

theorem path_withParameters {parameters : List (String × String)}
    (h : t.withParameters parameters = .ok t') : t'.path = t.path := by
  induction parameters generalizing t with
  | nil =>
    cases h
    rfl
  | cons parameter parameters ih =>
    obtain ⟨name, value⟩ := parameter
    rw [withParameters, List.foldlM_cons] at h
    dsimp only at h
    cases hone : t.withParameter name value with
    | error fault =>
      rw [hone] at h
      cases h
    | ok t₁ =>
      rw [hone] at h
      rw [ih h, path_withParameter hone]

/-- **The beginning of a text is the beginning of the path**, if it is plain. -/
theorem prefix_path_of_ofText (hplain : ∀ c ∈ front, Url.Percent.IsPlain c) (hmark : '?' ∉ front)
    (hname : ¬ front <+: ":memory:".toList) (h : ofText (front ++ rest) = .ok t) :
    front <+: t.path.toList := by
  obtain ⟨name, parameters, hcut⟩ : ∃ name parameters,
      (Text.cutAt '?' (front ++ rest)).getD (front ++ rest, []) = (front ++ name, parameters) := by
    rw [Text.cutAt_append hmark]
    cases Text.cutAt '?' rest with
    | none => exact ⟨rest, [], rfl⟩
    | some cut => exact ⟨cut.1, cut.2, rfl⟩
  have hother : front ++ name ≠ ":memory:".toList :=
    fun heq => hname (heq ▸ List.prefix_append front name)
  rw [ofText, hcut] at h
  dsimp only at h
  rw [ofName, if_neg hother] at h
  cases htext : Url.Percent.textOf (front ++ name) with
  | error fault =>
    rw [htext] at h
    cases h
  | ok path =>
    rw [htext] at h
    rw [path_withParameters h, String.toList_ofList]
    exact Url.Percent.prefix_of_textOf hplain htext

/-- A plain text is the path of a file. -/
theorem ofText_of_isPlain {text : List Char} (hplain : ∀ c ∈ text, Url.Percent.IsPlain c)
    (hmark : '?' ∉ text) (hname : text ≠ ":memory:".toList) :
    ofText text = .ok { path := String.ofList text } := by
  rw [ofText, Text.cutAt_eq_none hmark, Option.getD_none]
  dsimp only
  rw [ofName, if_neg hname, Url.Percent.textOf_of_isPlain hplain]
  rfl

/-- A target that names no file is a database of its own, whatever files there are. -/
theorem openDatabase_memory (files : Files) (read? : List UInt8 → Option Database) :
    openDatabase { inMemory := true } files read? = .ok {} := by
  have hnul : "".contains '\x00' = false := by
    rw [String.contains_char_eq]
    rfl
  have hresolved : resolved { inMemory := true } = .ok { inMemory := true } := by
    simp only [resolved, hnul]
    rfl
  rw [openDatabase, hresolved]
  rfl

/-! ## Texts that are refused -/

theorem isOk_withParameter (t t' : Target) (name value : String) :
    (t.withParameter name value).isOk = (t'.withParameter name value).isOk := by
  rw [withParameter.eq_def, withParameter.eq_def t']
  split <;> rfl

/-- Whether parameters are refused does not depend on the file. -/
theorem isOk_withParameters (t t' : Target) (parameters : List (String × String)) :
    (t.withParameters parameters).isOk = (t'.withParameters parameters).isOk := by
  induction parameters generalizing t t' with
  | nil => rfl
  | cons parameter parameters ih =>
    obtain ⟨name, value⟩ := parameter
    have hone := isOk_withParameter t t' name value
    rw [withParameters, withParameters, List.foldlM_cons, List.foldlM_cons]
    dsimp only
    cases hleft : t.withParameter name value with
    | error fault =>
      cases hright : t'.withParameter name value with
      | error fault' => rfl
      | ok t₁' =>
        rw [hleft, hright] at hone
        cases hone
    | ok t₁ =>
      cases hright : t'.withParameter name value with
      | error fault' =>
        rw [hleft, hright] at hone
        cases hone
      | ok t₁' => exact ih t₁ t₁'

/-- A text is accepted if its name and its parameters are. -/
theorem isOk_ofText {text name parameters : List Char}
    (hcut : (Text.cutAt '?' text).getD (text, []) = (name, parameters)) :
    (ofText text).isOk = ((Url.Percent.textOf name).isOk &&
      (withParameters {} (Url.Percent.formPairs parameters)).isOk) := by
  rw [ofText, hcut]
  dsimp only
  rw [ofName]
  split
  · rename_i hmemory
    have hname : (Url.Percent.textOf name).isOk = true := by
      rw [hmemory]
      decide +kernel
    rw [hname, Bool.true_and]
    exact isOk_withParameters _ _ _
  · cases Url.Percent.textOf name with
    | error fault => rfl
    | ok path => exact isOk_withParameters _ _ _

/-- What stands plain in front of a text does not make a difference to whether it is accepted. -/
theorem isOk_ofText_append (hplain : ∀ c ∈ front, Url.Percent.IsPlain c) (hmark : '?' ∉ front)
    (rest : List Char) : (ofText (front ++ rest)).isOk = (ofText rest).isOk := by
  obtain ⟨name, parameters, hcut, hcut'⟩ : ∃ name parameters,
      (Text.cutAt '?' rest).getD (rest, []) = (name, parameters) ∧
      (Text.cutAt '?' (front ++ rest)).getD (front ++ rest, []) = (front ++ name, parameters) := by
    rw [Text.cutAt_append hmark]
    cases Text.cutAt '?' rest with
    | none => exact ⟨rest, [], rfl, rfl⟩
    | some cut => exact ⟨cut.1, cut.2, rfl, rfl⟩
  rw [isOk_ofText hcut, isOk_ofText hcut', Url.Percent.isOk_textOf_append hplain]

/-- What is taken off is made of the characters of the prefix. -/
theorem exists_append_withoutAll (h : start ≠ []) (s : List Char) :
    ∃ front, s = front ++ withoutAll start s ∧ ∀ c ∈ front, c ∈ start := by
  induction s using withoutAll.induct start with
  | case1 s rest hafter _ ih =>
    obtain ⟨front, hrest, hfront⟩ := ih
    obtain rfl := List.isPrefixOf?_eq_some_iff_append_eq.mp hafter
    refine ⟨start ++ front, ?_, List.forall_mem_append.mpr ⟨fun _ => id, hfront⟩⟩
    rw [withoutAll_append h, List.append_assoc, ← hrest]
  | case2 s rest hafter hshorter =>
    obtain rfl := List.isPrefixOf?_eq_some_iff_append_eq.mp hafter
    have := List.length_pos_of_ne_nil h
    rw [List.length_append] at hshorter
    omega
  | case3 s hafter =>
    refine ⟨[], ?_, nofun⟩
    have hnot : ¬ start <+: s := by
      rintro ⟨rest, hrest⟩
      cases hafter.symm.trans (List.isPrefixOf?_eq_some_iff_append_eq.mpr hrest)
    rw [withoutAll_eq_self hnot, List.nil_append]

/-- The prefix makes no difference to whether a descriptor is accepted. -/
theorem isOk_ofDescriptor (descriptor : String) :
    (ofDescriptor descriptor).isOk = (ofText descriptor.toList).isOk := by
  have hplain : ∀ c ∈ "sqlite://".toList, Url.Percent.IsPlain c :=
    Url.Percent.forall_isPlain (by decide +kernel)
  have hmark : '?' ∉ "sqlite://".toList := by decide
  have hsubset : "sqlite:".toList ⊆ "sqlite://".toList :=
    (List.prefix_append "sqlite:".toList "//".toList).subset
  have hlongStart : "sqlite://".toList ≠ [] := by decide
  have hshortStart : "sqlite:".toList ≠ [] := by decide
  obtain ⟨long, hlong, hlongChars⟩ := exists_append_withoutAll hlongStart descriptor.toList
  obtain ⟨short, hshort, hshortChars⟩ :=
    exists_append_withoutAll hshortStart (withoutAll "sqlite://".toList descriptor.toList)
  have hfront : ∀ c ∈ long ++ short, c ∈ "sqlite://".toList :=
    List.forall_mem_append.mpr ⟨hlongChars, fun c hc => hsubset (hshortChars c hc)⟩
  rw [hshort, ← List.append_assoc] at hlong
  rw [hlong, isOk_ofText_append (fun c hc => hplain c (hfront c hc))
    (fun hmem => hmark (hfront '?' hmem)), ofDescriptor_eq rfl]

end Sqlite.Target
end LiteralRows
