import LiteralRows.Proofs.Agreement
import LiteralRows.Proofs.Text.Pieces

/-!
# What a book of scripts depends on

A scripted source keeps a log and counts its cursors, but it never looks at either.  What it answers
is a matter of its kind and of the script that stands behind a query.

* `Book.Chooses` says which script that is, by the order in which the scripts were registered, and
  `scriptFor_eq_iff` that the source looks it up like this.  `scriptFor_extended` is the consequence
  for scripts that are registered later.
* `Book.sameRows`, `openCursor_congr` and `describe_congr`: the operations of two books on a query
  for which they have the same script, whatever states they are in.
* `Book.run_congr` and `Book.agree`: the same for whole queries, and for all queries of one book.
-/

namespace LiteralRows.Scripted

open Source

/-! ## The script of a query -/

/-- The first registered script whose fragment occurs in the query answers it; if there is none,
the fallback does. -/
inductive Book.Chooses (book : Book) (sql : String) : Script → Prop
  | registered {before later : List (String × Script)} {fragment : String} {script : Script}
    (hentries : book.entries = before ++ (fragment, script) :: later)
    (hoccurs : fragment.toList <:+: sql.toList)
    (hfirst : ∀ entry ∈ before, ¬ entry.1.toList <:+: sql.toList) : Chooses book sql script
  | fallback (hnone : ∀ entry ∈ book.entries, ¬ entry.1.toList <:+: sql.toList) :
    Chooses book sql book.fallback

variable {book other : Book} {sql : String} {script : Script}

theorem Book.chooses_scriptFor (book : Book) (sql : String) :
    book.Chooses sql (book.scriptFor sql) := by
  rw [scriptFor]
  split
  · rename_i fragment script hfind
    obtain ⟨hoccurs, before, later, hentries, hfirst⟩ := List.find?_eq_some_iff_append.mp hfind
    refine .registered hentries (Text.occursIn_eq_true_iff.mp hoccurs) fun entry hentry hmem => ?_
    have hpassed := hfirst entry hentry
    rw [Bool.not_eq_true'] at hpassed
    exact Bool.false_ne_true (hpassed.symm.trans (Text.occursIn_eq_true_iff.mpr hmem))
  · rename_i hfind
    refine .fallback fun entry hentry hmem => ?_
    exact List.find?_eq_none.mp hfind entry hentry (Text.occursIn_eq_true_iff.mpr hmem)

theorem Book.Chooses.scriptFor_eq (h : book.Chooses sql script) : book.scriptFor sql = script := by
  cases h with
  | @registered before later fragment script hentries hoccurs hfirst =>
    have hpassed : ∀ entry ∈ before,
        (!Text.occursIn entry.1.toList sql.toList) = true := by
      intro entry hentry
      rw [Bool.not_eq_true', ← Bool.not_eq_true, Text.occursIn_eq_true_iff]
      exact hfirst entry hentry
    have hfind : book.entries.find? (fun entry => Text.occursIn entry.1.toList sql.toList) =
        some (fragment, script) :=
      List.find?_eq_some_iff_append.mpr
        ⟨Text.occursIn_eq_true_iff.mpr hoccurs, before, later, hentries, hpassed⟩
    rw [scriptFor]
    split
    · rename_i hfound
      cases hfound.symm.trans hfind
      rfl
    · rename_i hmissed
      cases hmissed.symm.trans hfind
  | fallback hnone =>
    have hfind : book.entries.find? (fun entry => Text.occursIn entry.1.toList sql.toList) =
        none := by
      refine List.find?_eq_none.mpr fun entry hentry hoccurs => ?_
      exact hnone entry hentry (Text.occursIn_eq_true_iff.mp hoccurs)
    rw [scriptFor]
    split
    · rename_i hfound
      cases hfound.symm.trans hfind
    · rfl

/-- **The script of a query** is the first one whose fragment occurs in it, else the fallback. -/
theorem Book.scriptFor_eq_iff : book.scriptFor sql = script ↔ book.Chooses sql script := by
  constructor
  · rintro rfl
    exact chooses_scriptFor book sql
  · exact Chooses.scriptFor_eq

/-- The book with more scripts, which are registered after those that it has. -/
def Book.extended (book : Book) (more : List (String × Script)) : Book :=
  { book with entries := book.entries ++ more }

theorem Book.Chooses.extended (h : book.Chooses sql script)
    (hmatched : ∃ entry ∈ book.entries, entry.1.toList <:+: sql.toList)
    (more : List (String × Script)) : (book.extended more).Chooses sql script := by
  cases h with
  | @registered before later fragment script hentries hoccurs hfirst =>
    have hextended : (book.extended more).entries =
        before ++ (fragment, script) :: (later ++ more) := by
      rw [Book.extended, hentries, List.append_assoc, List.cons_append]
    exact .registered hextended hoccurs hfirst
  | fallback hnone =>
    obtain ⟨entry, hentry, hoccurs⟩ := hmatched
    exact absurd hoccurs (hnone entry hentry)

/-- A query in which a registered fragment occurs keeps its script when others are registered. -/
theorem Book.scriptFor_extended
    (hmatched : ∃ entry ∈ book.entries, entry.1.toList <:+: sql.toList)
    (more : List (String × Script)) :
    (book.extended more).scriptFor sql = book.scriptFor sql :=
  ((book.chooses_scriptFor sql).extended hmatched more).scriptFor_eq

/-! ## Answers -/

theorem Book.sameRows (h : book.backend = other.backend) : book.source.SameRows other.source where
  answer _ _ _ := rfl
  cursor _ _ _ := rfl
  scan _ := rfl
  classify _ typeName := congrArg (Backend.classify · typeName) h

theorem openCursor_congr (h : book.scriptFor sql = other.scriptFor sql) (s t : State) :
    (book.source.openCursor sql s).1 = (other.source.openCursor sql t).1 := by
  simp only [Book.source, h]
  cases (other.scriptFor sql).failExecute <;> rfl

theorem describe_congr (book other : Book) (k : Cursor) (s t : State) :
    (book.source.describe k s).1 = (other.source.describe k t).1 := by
  simp only [Book.source]
  cases k.script.failDescribe <;> rfl

/-- **Two books of one kind with the same script for a query** give the same when it is run,
whatever was done with either of them before. -/
theorem Book.run_congr (hbackend : book.backend = other.backend)
    (hscript : book.scriptFor sql = other.scriptFor sql) (q : Quoting) (s t : State) :
    (book.source.run q sql s).1 = (other.source.run q sql t).1 :=
  (sameRows hbackend).run_fst_eq q (openCursor_congr hscript s t)
    fun k _ => describe_congr book other k _ _

/-- A scripted source agrees with itself in any two states. -/
theorem Book.agree (book : Book) : book.source.Agree book.source fun _ _ => True where
  backend := rfl
  run q _ s t _ := run_congr rfl rfl q s t
  related _ _ _ _ _ := trivial

end LiteralRows.Scripted
