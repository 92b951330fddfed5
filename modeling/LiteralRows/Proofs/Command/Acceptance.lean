import LiteralRows.Proofs.Command.Grammar
import LiteralRows.Proofs.Text.Pieces

/-!
# Accepted command lines

The reader of command lines keeps to their grammar.  It goes through the arguments once and holds
back the option that came last, so the statement about a single argument has to say what is still
open.

* `Progress.Holds` says which options have been taken over, and `Progress.due` which one has its
  value and is held back.
* `Reached` says what is known after some arguments.  `Reached.step` is one argument,
  `Reached.foldlM` all of them.
* `gives_of_parse`: an accepted command line gives options as the grammar has them, and asks for
  what they ask for.
-/

namespace LiteralRows

/-- A chain of steps succeeds if the first step and the rest do. -/
theorem exists_of_bind_eq_ok {ε α β : Type} {x : Except ε α} {f : α → Except ε β} {b : β}
    (h : x >>= f = .ok b) : ∃ a, x = .ok a ∧ f a = .ok b := by
  cases x with
  | error e => cases h
  | ok a => exact ⟨a, rfl, h⟩

namespace Arguments

/-! ## Taking options over -/

/-- These options have been taken over. -/
structure Progress.Holds (p : Progress) (given : List Given) : Prop where
  arguments_eq : p.arguments = collected given
  given_eq : p.given = (given.map Prod.fst).reverse
  unrepeated : IsUnrepeated given

/-- The option that has its value but has not been taken over. -/
def Progress.due (p : Progress) : List Given :=
  match p.pending with
  | some (key, some value) => [(key, value)]
  | _ => []

theorem Progress.Holds.store {p p' : Progress} {given : List Given} {key : Key} {value : String}
    (h : p.Holds given) (hstore : p.store key value = .ok p') :
    p'.Holds (given ++ [(key, value)]) ∧ p'.pending = p.pending ∧ p'.isPlain = p.isPlain := by
  rw [Progress.store] at hstore
  split at hstore
  · cases hstore
  · rename_i hrepeated
    split at hstore
    · cases hstore
    · cases hstore
      refine ⟨⟨?_, ?_, ?_⟩, rfl, rfl⟩
      · rw [collected_append, h.arguments_eq]
      · rw [List.map_append, List.reverse_append, ← h.given_eq]
        rfl
      · rw [IsUnrepeated, List.pairwise_append]
        refine ⟨h.unrepeated, List.pairwise_singleton _ _, ?_⟩
        intro earlier hearlier option hoption hsame
        rw [List.mem_singleton.mp hoption] at hsame ⊢
        have hgiven : key ∈ p.given := by
          rw [h.given_eq, List.mem_reverse, List.mem_map]
          exact ⟨earlier, hearlier, hsame⟩
        simpa [hgiven] using hrepeated

/-- Everything in the arguments read so far has been taken over. -/
structure Settled (read : List String) (p : Progress) : Prop where
  pending_eq : p.pending = none
  exists_given : ∃ given, p.Holds given ∧ Gives p.isPlain read given

/-- What is known after the arguments read so far. -/
inductive Reached (read : List String) (p : Progress) : Prop
  /-- Every option has its value. -/
  | complete {given : List Given} (holds : p.Holds given)
    (hpending : ∀ key, p.pending ≠ some (key, none))
    (h : Gives p.isPlain read (given ++ p.due))
  /-- The last argument is the name of an option, and its value is still to come. -/
  | awaiting {before : List String} {name : String} {given : List Given} {key : Key}
    (hpending : p.pending = some (key, none)) (holds : p.Holds given)
    (hplain : p.isPlain = false) (hread : read = before ++ [name]) (hname : key.Named name.toList)
    (hvalued : key.isFlag = false) (h : Gives false before given)
  /-- The separator came instead of a value, and no command line that goes on like this is
  accepted. -/
  | stuck {key : Key} (hpending : p.pending = some (key, none)) (hplain : p.isPlain = true)

theorem settle_eq_error {p : Progress} {key : Key} (h : p.pending = some (key, none)) :
    p.settle = .error .invalidValue := by
  rw [Progress.settle, h]

/-- Whatever can be settled has been read as the grammar has it. -/
theorem Reached.settle {read : List String} {p p' : Progress} (h : Reached read p)
    (hsettle : p.settle = .ok p') : Settled read p' ∧ p'.isPlain = p.isPlain := by
  cases h with
  | awaiting hpending =>
    rw [settle_eq_error hpending] at hsettle
    cases hsettle
  | stuck hpending =>
    rw [settle_eq_error hpending] at hsettle
    cases hsettle
  | @complete given holds hpending h =>
    rw [Progress.settle] at hsettle
    split at hsettle
    · rename_i hnone
      cases hsettle
      rw [Progress.due, hnone, List.append_nil] at h
      exact ⟨⟨hnone, given, holds, h⟩, rfl⟩
    · rename_i key hawaits
      exact absurd hawaits (hpending key)
    · rename_i key value hvalue
      rw [Progress.due, hvalue] at h
      have hcleared : Progress.Holds { p with pending := none } given :=
        ⟨holds.arguments_eq, holds.given_eq, holds.unrepeated⟩
      obtain ⟨hholds, hnone, hplain⟩ := hcleared.store hsettle
      rw [← hplain] at h
      exact ⟨⟨hnone, _, hholds, h⟩, hplain⟩

/-- What has been settled has been reached. -/
theorem Settled.reached {read : List String} {p : Progress} (h : Settled read p) :
    Reached read p := by
  obtain ⟨given, holds, hgives⟩ := h.exists_given
  refine .complete holds ?_ ?_
  · intro key hpending
    rw [h.pending_eq] at hpending
    cases hpending
  · rwa [Progress.due, h.pending_eq, List.append_nil]

/-- An option that is taken over at once. -/
theorem Settled.store {read written : List String} {p p' : Progress} {key : Key} {value : String}
    (h : Settled read p) (hplain : p.isPlain = false)
    (hwritten : Given.Written (key, value) written) (hstore : p.store key value = .ok p') :
    Reached (read ++ written) p' := by
  obtain ⟨given, holds, hgives⟩ := h.exists_given
  obtain ⟨hholds, hpending, hplain'⟩ := holds.store hstore
  rw [hplain] at hgives
  refine Settled.reached ⟨hpending.trans h.pending_eq, _, hholds, ?_⟩
  rw [hplain'.trans hplain]
  exact hgives.more hwritten

/-! ## One argument -/

section Steps

variable {read : List String} {p p' : Progress} {key : Key} {argument : String}

theorem Reached.positional (h : Reached read p) (hvalue : p.isPlain = false → IsPlain argument)
    (hstep : p.positional argument = .ok p') : Reached (read ++ [argument]) p' := by
  rw [Progress.positional] at hstep
  split at hstep
  · cases hstep
  · obtain ⟨q, hsettle, hq⟩ := exists_of_bind_eq_ok hstep
    cases hq
    obtain ⟨hsettled, hplain⟩ := h.settle hsettle
    obtain ⟨given, holds, hgives⟩ := hsettled.exists_given
    refine .complete ⟨holds.arguments_eq, holds.given_eq, holds.unrepeated⟩ nofun ?_
    change Gives q.isPlain (read ++ [argument]) (given ++ [(.descriptor, argument)])
    cases hclosed : q.isPlain with
    | true =>
      rw [hclosed] at hgives
      exact hgives.positional argument
    | false =>
      rw [hclosed] at hgives hplain
      exact hgives.more (.positional (hvalue hplain.symm))

theorem Reached.option_some {value : String} (h : Reached read p) (hplain : p.isPlain = false)
    (hwritten : Given.Written (key, value) [argument])
    (hstep : p.option key (some value) = .ok p') : Reached (read ++ [argument]) p' := by
  obtain ⟨q, hsettle, hstore⟩ := exists_of_bind_eq_ok hstep
  obtain ⟨hsettled, hq⟩ := h.settle hsettle
  exact hsettled.store (hq.trans hplain) hwritten hstore

theorem Reached.option_none (h : Reached read p) (hplain : p.isPlain = false)
    (hname : key.Named argument.toList) (hvalued : key.isFlag = false)
    (hstep : p.option key none = .ok p') : Reached (read ++ [argument]) p' := by
  obtain ⟨q, hsettle, hq⟩ := exists_of_bind_eq_ok hstep
  cases hq
  obtain ⟨hsettled, hclosed⟩ := h.settle hsettle
  obtain ⟨given, holds, hgives⟩ := hsettled.exists_given
  rw [hclosed.trans hplain] at hgives
  exact .awaiting rfl ⟨holds.arguments_eq, holds.given_eq, holds.unrepeated⟩
    (hclosed.trans hplain) rfl hname hvalued hgives

/-- The flags for help and for the version are never accepted, so only an option that is taken over
is left. -/
theorem Reached.flag (h : Reached read p) (hplain : p.isPlain = false)
    (hname : key.Named argument.toList) (hflag : key.isFlag = true)
    (hstep : p.flag key = .ok p') : Reached (read ++ [argument]) p' := by
  obtain ⟨q, hsettle, hq⟩ := exists_of_bind_eq_ok hstep
  obtain ⟨hsettled, hclosed⟩ := h.settle hsettle
  split at hq
  · cases hq
  · cases hq
  · exact hsettled.store (hclosed.trans hplain) (.flag hname hflag) hq

theorem Reached.long {text : List Char} (h : Reached read p) (hplain : p.isPlain = false)
    (hargument : argument.toList = '-' :: '-' :: text) (hstep : p.long text = .ok p') :
    Reached (read ++ [argument]) p' := by
  rcases hcut : Text.cutAt '=' text with _ | ⟨name, value⟩
  · simp only [Progress.long, hcut] at hstep
    split at hstep
    · cases hstep
    · rename_i key hkey
      have hname : key.Named argument.toList := by
        rw [hargument]
        exact .long hkey
      cases hflag : key.isFlag with
      | true =>
        rw [hflag] at hstep
        exact h.flag hplain hname hflag hstep
      | false =>
        rw [hflag] at hstep
        exact h.option_none hplain hname hflag hstep
  · simp only [Progress.long, hcut] at hstep
    split at hstep
    · cases hstep
    · rename_i key hkey
      cases hflag : key.isFlag with
      | true =>
        rw [hflag] at hstep
        cases hstep
      | false =>
        rw [hflag] at hstep
        obtain ⟨c, hc, htext⟩ := Text.eq_append_of_cutWhere hcut
        rw [beq_iff_eq] at hc
        refine h.option_some hplain (.joined (.long hkey) hflag ?_) hstep
        rw [hargument, htext, hc, String.toList_ofList]
        rfl

/-- No flag with a short name is accepted. -/
theorem flag_ne_ok {c : Char} (hname : shortNames.lookup c = some key) (hflag : key.isFlag = true) :
    p.flag key ≠ .ok p' := by
  intro hstep
  obtain ⟨q, -, hq⟩ := exists_of_bind_eq_ok hstep
  obtain ⟨before, after, hnames, -⟩ := List.lookup_eq_some_iff.mp hname
  have hmem : (c, key) ∈ shortNames := by
    rw [hnames]
    exact List.mem_append_right _ List.mem_cons_self
  simp only [shortNames, List.mem_cons, Prod.mk.injEq, List.not_mem_nil, or_false] at hmem
  rcases hmem with ⟨-, rfl⟩ | ⟨-, rfl⟩ | ⟨-, rfl⟩ | ⟨-, rfl⟩ | ⟨-, rfl⟩
  · cases hflag
  · cases hflag
  · cases hflag
  · cases hq
  · cases hq

theorem Reached.short {c : Char} {text : List Char} (h : Reached read p)
    (hplain : p.isPlain = false) (hargument : argument.toList = '-' :: c :: text)
    (hstep : p.short (c :: text) = .ok p') : Reached (read ++ [argument]) p' := by
  rw [Progress.short] at hstep
  split at hstep
  · cases hstep
  · rename_i key hkey
    split at hstep
    · rename_i hflag
      obtain ⟨q, hq, -⟩ := exists_of_bind_eq_ok hstep
      exact absurd hq (flag_ne_ok hkey hflag)
    · rename_i hflag
      have hvalued : key.isFlag = false := eq_false_of_ne_true hflag
      split at hstep
      · refine h.option_none hplain ?_ hvalued hstep
        rw [hargument]
        exact .short hkey
      · refine h.option_some hplain (.joined (.short hkey) hvalued ?_) hstep
        rw [hargument, String.toList_ofList]
        rfl
      · rename_i hnil hequals
        cases text with
        | nil => exact absurd rfl hnil
        | cons d text =>
          refine h.option_some hplain (.attached hkey hvalued ?_ hargument) hstep
          intro hd
          exact hequals text (by rw [hd])

/-- An argument that no option begins is plain. -/
theorem isPlain_of_forall_ne
    (h : ∀ (c : Char) (text : List Char), argument.toList ≠ '-' :: c :: text) :
    IsPlain argument := by
  rcases htext : argument.toList with _ | ⟨c, _ | ⟨d, text⟩⟩
  · right
    rw [htext]
    exact nofun
  · by_cases hc : c = '-'
    · left
      rw [htext, hc]
    · right
      rw [htext, List.head?_cons]
      intro hsome
      exact hc (Option.some.inj hsome)
  · right
    rw [htext, List.head?_cons]
    intro hsome
    exact h d text (by rw [htext, Option.some.inj hsome])

/-- The separator leaves open only what still waits for its value. -/
theorem Reached.separator (h : Reached read p) (hplain : p.isPlain = false)
    (hargument : argument = "--") : Reached (read ++ [argument]) { p with isPlain := true } := by
  subst hargument
  cases h with
  | complete holds hpending h =>
    rw [hplain] at h
    exact .complete ⟨holds.arguments_eq, holds.given_eq, holds.unrepeated⟩ hpending h.separator
  | awaiting hpending => exact .stuck hpending rfl
  | stuck hpending => exact .stuck hpending rfl

/-- A plain argument is the value that is still to come, or positional. -/
theorem Reached.plain (h : Reached read p) (hplain : p.isPlain = false) (hvalue : IsPlain argument)
    (hstep : (match p.pending with
      | some (key, none) => Except.ok { p with pending := some (key, some argument) }
      | _ => p.positional argument) = .ok p') : Reached (read ++ [argument]) p' := by
  split at hstep
  · rename_i key hpending
    cases hstep
    cases h with
    | complete _ hnot => exact absurd hpending (hnot key)
    | stuck _ hstuck =>
      rw [hplain] at hstuck
      cases hstuck
    | @awaiting before name given key' hawaits holds _ hread hname hvalued h =>
      rw [hpending] at hawaits
      cases hawaits
      refine .complete ⟨holds.arguments_eq, holds.given_eq, holds.unrepeated⟩ nofun ?_
      rw [hread, List.append_assoc]
      change Gives p.isPlain (before ++ [name, argument]) (given ++ [(key, argument)])
      rw [hplain]
      exact h.more (.apart hname hvalued hvalue)
  · exact h.positional (fun _ => hvalue) hstep

/-- **One argument** takes what is known to what is known with it. -/
theorem Reached.step (h : Reached read p) (hstep : p.step argument = .ok p') :
    Reached (read ++ [argument]) p' := by
  rw [Progress.step] at hstep
  split at hstep
  · rename_i hclosed
    refine h.positional ?_ hstep
    intro hopen
    rw [hclosed] at hopen
    cases hopen
  · rename_i hopen
    have hplain : p.isPlain = false := eq_false_of_ne_true hopen
    split at hstep
    · rename_i htext
      cases hstep
      exact h.separator hplain (String.toList_inj.mp htext)
    · rename_i text _ htext
      exact h.long hplain htext hstep
    · rename_i c text _ _ htext
      exact h.short hplain htext hstep
    · rename_i hother
      exact h.plain hplain (isPlain_of_forall_ne hother) hstep

end Steps

/-! ## The whole command line -/

/-- **All arguments**, one after the other. -/
theorem Reached.foldlM {read arguments : List String} {p p' : Progress} (h : Reached read p)
    (hrun : arguments.foldlM Progress.step p = .ok p') : Reached (read ++ arguments) p' := by
  induction arguments generalizing read p with
  | nil =>
    cases hrun
    rwa [List.append_nil]
  | cons argument arguments ih =>
    rw [List.foldlM_cons] at hrun
    obtain ⟨q, hstep, hmore⟩ := exists_of_bind_eq_ok hrun
    rw [List.append_cons]
    exact ih (h.step hstep) hmore

/-- Nothing is known before the first argument. -/
theorem reached_nil : Reached [] {} := by
  have holds : ({} : Progress).Holds [] := ⟨rfl, rfl, .nil⟩
  exact .complete holds nofun .nothing

/-- **An accepted command line gives a sequence of options**, and asks for what they ask for.  Only
tables are given more than once, the query comes from one place, and tables come with a schema. -/
theorem gives_of_parse {arguments : List String} {a : Arguments}
    (h : parse arguments = .ok a) :
    ∃ closed given, Gives closed arguments given ∧ IsUnrepeated given ∧ a = collected given ∧
      (∀ sql path, (.query, sql) ∈ given → (.queryFile, path) ∉ given) ∧
      ∀ names, (.tables, names) ∈ given → ∃ schema, (.schema, schema) ∈ given := by
  obtain ⟨p, hrun, h⟩ := exists_of_bind_eq_ok h
  obtain ⟨q, hsettle, h⟩ := exists_of_bind_eq_ok h
  obtain ⟨⟨-, given, holds, hgives⟩, -⟩ := (reached_nil.foldlM hrun).settle hsettle
  have hmem : ∀ key, q.given.contains key = true ↔ ∃ value, (key, value) ∈ given := by
    intro key
    rw [List.contains_iff_mem, holds.given_eq, List.mem_reverse, List.mem_map]
    constructor
    · rintro ⟨⟨_, value⟩, hvalue, rfl⟩
      exact ⟨value, hvalue⟩
    · rintro ⟨value, hvalue⟩
      exact ⟨_, hvalue, rfl⟩
  split at h
  · cases h
  · rename_i hrelation
    cases h
    refine ⟨_, given, hgives, holds.unrepeated, holds.arguments_eq, ?_⟩
    rw [relationFault?] at hrelation
    split at hrelation
    · cases hrelation
    · rename_i hquery
      split at hrelation
      · cases hrelation
      · rename_i htables
        refine ⟨?_, ?_⟩
        · intro sql path hsql hpath
          rw [(hmem .query).mpr ⟨sql, hsql⟩, (hmem .queryFile).mpr ⟨path, hpath⟩] at hquery
          exact hquery rfl
        · intro names hnames
          rw [(hmem .tables).mpr ⟨names, hnames⟩, Bool.true_and, Bool.not_eq_true',
            Bool.not_eq_false] at htables
          exact (hmem .schema).mp htables

end Arguments
end LiteralRows
