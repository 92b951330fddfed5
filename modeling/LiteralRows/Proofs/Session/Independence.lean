import LiteralRows.Proofs.Source.Book

/-!
# Cursors that do not disturb each other

The cursors of a session share one source, and between their calls other cursors are opened, moved,
lost and given back, and queries are materialized.  On a scripted source none of that shows in what
a cursor answers.

* `Step.concerns` picks the steps about one cursor out of a session, `callsTo` turns them into the
  steps of another session with a cursor at another place, and `answersTo` picks their answers.
* `SameAt` relates two sessions: the same cursor stands at a place of either.  A step about that
  cursor answers the same in both and keeps the relation (`SameAt.step`), and any other step keeps
  what stands there (`getElem?_cursors_step`).
* `answersTo_transcript` is the whole session by induction: whatever stands between the steps about
  a cursor can be left out.
* `answers_on_their_own` puts this together with what a book of scripts depends on.
-/

namespace LiteralRows
namespace Session

variable {σ τ κ : Type} {src : Source σ κ} {tgt : Source τ κ} {s : Session σ κ} {t : Session τ κ}
  {number place : Nat} {k? : Option κ} {st : Step}

/-! ## Steps about one cursor -/

/-- The step is about the cursor with this number.  To close the source is about every cursor. -/
def Step.concerns (number : Nat) : Step → Bool
  | .describe n | .classify n _ | .advance n | .scan n | .drop n => n == number
  | .close => true
  | _ => false

/-- The same step about the cursor at another place. -/
def Step.redirected (place : Nat) : Step → Step
  | .describe _ => .describe place
  | .classify _ typeName => .classify place typeName
  | .advance _ => .advance place
  | .scan _ => .scan place
  | .drop _ => .drop place
  | st => st

/-- The steps about a cursor, as steps about the cursor at another place. -/
def callsTo (number place : Nat) (steps : List Step) : List Step :=
  (steps.filter (Step.concerns number)).map (Step.redirected place)

/-- The answers to the steps about a cursor. -/
def answersTo (number : Nat) (history : List (Step × Answer)) : List Answer :=
  (history.filter fun entry => entry.1.concerns number).map Prod.snd

theorem answersTo_cons_of_concerns (h : st.concerns number) (answer : Answer)
    (history : List (Step × Answer)) :
    answersTo number ((st, answer) :: history) = answer :: answersTo number history := by
  rw [answersTo, List.filter_cons, if_pos h]
  rfl

theorem answersTo_cons_of_not_concerns (h : ¬ st.concerns number) (answer : Answer)
    (history : List (Step × Answer)) :
    answersTo number ((st, answer) :: history) = answersTo number history := by
  rw [answersTo, List.filter_cons, if_neg h]
  rfl

theorem callsTo_cons_of_concerns (h : st.concerns number) (place : Nat) (steps : List Step) :
    callsTo number place (st :: steps) = st.redirected place :: callsTo number place steps := by
  rw [callsTo, List.filter_cons_of_pos h]
  rfl

theorem callsTo_cons_of_not_concerns (h : ¬ st.concerns number) (place : Nat)
    (steps : List Step) : callsTo number place (st :: steps) = callsTo number place steps := by
  rw [callsTo, List.filter_cons_of_neg h]
  rfl

/-! ## One step -/

theorem cursor?_of_getElem? (h : s.cursors[number]? = some k?) : s.cursor? number = k? := by
  rw [cursor?, h]
  rfl

theorem getElem?_set_of_some {cursors : List (Option κ)} (h : cursors[number]? = some k?)
    (other : Option κ) : (cursors.set number other)[number]? = some other :=
  List.getElem?_set_self (List.getElem?_eq_some_iff.mp h).1

/-- **A step that is not about a cursor** leaves that cursor as it is. -/
theorem getElem?_cursors_step (hst : ¬ st.concerns number) (h : s.cursors[number]? = some k?) :
    (step src st s).2.cursors[number]? = some k? := by
  by_cases hwhole : st.isWhole
  · rw [cursors_step_of_isWhole hwhole]
    exact h
  · cases st with
    | openCursor sql =>
      rcases hopen : src.openCursor sql s.source.state with ⟨cause | k, state⟩
      · simp only [step, hopen]
        exact h
      · simp only [step, hopen]
        exact (List.getElem?_append_left (List.getElem?_eq_some_iff.mp h).1).trans h
    | describe n =>
      cases hk : s.cursor? n <;> simp only [step, hk] <;> exact h
    | classify n typeName =>
      cases hk : s.cursor? n <;> simp only [step, hk] <;> exact h
    | advance n =>
      cases hk : s.cursor? n with
      | none =>
        simp only [step, hk]
        exact h
      | some k =>
        simp only [step, hk]
        have hne : n ≠ number := fun heq => hst (beq_iff_eq.mpr heq)
        exact (List.getElem?_set_ne hne).trans h
    | scan n =>
      cases hk : s.cursor? n <;> simp only [step, hk] <;> exact h
    | drop n =>
      cases hk : s.cursor? n with
      | none =>
        simp only [step, hk]
        exact h
      | some k =>
        simp only [step, hk]
        have hne : n ≠ number := fun heq => hst (beq_iff_eq.mpr heq)
        exact (List.getElem?_set_ne hne).trans h
    | execute sql => exact h
    | close => exact absurd rfl hst
    | _ => exact absurd rfl hwhole

/-- The same cursor stands at two places, or the one that stood at both was given back. -/
def SameAt (number : Nat) (cursors : List (Option κ)) (place : Nat) (others : List (Option κ)) :
    Prop :=
  ∃ k? : Option κ, cursors[number]? = some k? ∧ others[place]? = some k?

/-- **A step about a cursor** answers the same wherever that cursor stands, and leaves the same
cursor behind. -/
theorem SameAt.step (h : SameAt number s.cursors place t.cursors) (hrows : src.SameRows tgt)
    (hdescribe : ∀ k a b, (src.describe k a).1 = (tgt.describe k b).1)
    (hst : st.concerns number) :
    (step src st s).1 = (step tgt (st.redirected place) t).1 ∧
      SameAt number (step src st s).2.cursors place
        (step tgt (st.redirected place) t).2.cursors := by
  obtain ⟨k?, hleft, hright⟩ := h
  have hk := cursor?_of_getElem? hleft
  have hk' := cursor?_of_getElem? hright
  cases st with
  | describe n =>
    obtain rfl := eq_of_beq hst
    cases k? with
    | none =>
      simp only [Session.step, Step.redirected, hk, hk']
      exact ⟨trivial, none, hleft, hright⟩
    | some k =>
      simp only [Session.step, Step.redirected, hk, hk', hdescribe k _ t.source.state]
      exact ⟨trivial, some k, hleft, hright⟩
  | classify n typeName =>
    obtain rfl := eq_of_beq hst
    cases k? with
    | none =>
      simp only [Session.step, Step.redirected, hk, hk']
      exact ⟨trivial, none, hleft, hright⟩
    | some k =>
      simp only [Session.step, Step.redirected, hk, hk', hrows.classify]
      exact ⟨trivial, some k, hleft, hright⟩
  | advance n =>
    obtain rfl := eq_of_beq hst
    cases k? with
    | none =>
      simp only [Session.step, Step.redirected, hk, hk']
      exact ⟨trivial, none, hleft, hright⟩
    | some k =>
      simp only [Session.step, Step.redirected, hk, hk', hrows.answer k _ t.source.state,
        hrows.cursor k _ t.source.state]
      exact ⟨trivial, some _, getElem?_set_of_some hleft _, getElem?_set_of_some hright _⟩
  | scan n =>
    obtain rfl := eq_of_beq hst
    cases k? with
    | none =>
      simp only [Session.step, Step.redirected, hk, hk']
      exact ⟨trivial, none, hleft, hright⟩
    | some k =>
      simp only [Session.step, Step.redirected, hk, hk', hrows.scan]
      exact ⟨trivial, some k, hleft, hright⟩
  | drop n =>
    obtain rfl := eq_of_beq hst
    cases k? with
    | none =>
      simp only [Session.step, Step.redirected, hk, hk']
      exact ⟨trivial, none, hleft, hright⟩
    | some k =>
      simp only [Session.step, Step.redirected, hk, hk']
      exact ⟨trivial, none, getElem?_set_of_some hleft _, getElem?_set_of_some hright _⟩
  | close =>
    have hgone : ∀ {cursors : List (Option κ)} {n : Nat}, cursors[n]? = some k? →
        (cursors.map fun _ => (none : Option κ))[n]? = some none := by
      intro cursors n hn
      rw [List.getElem?_map, hn]
      rfl
    exact ⟨rfl, none, hgone hleft, hgone hright⟩
  | _ => cases hst

/-! ## Whole sessions -/

/-- **What is not about a cursor can be left out.**  The answers to the steps about a cursor are
those that the same steps get in a session that takes no others, wherever the cursor stands
there. -/
theorem answersTo_transcript (hrows : src.SameRows tgt)
    (hdescribe : ∀ k a b, (src.describe k a).1 = (tgt.describe k b).1) (steps : List Step)
    (h : SameAt number s.cursors place t.cursors) :
    answersTo number (transcript src steps s) =
      (transcript tgt (callsTo number place steps) t).map Prod.snd := by
  induction steps generalizing s t with
  | nil => rfl
  | cons st steps ih =>
    rw [transcript]
    by_cases hst : st.concerns number
    · obtain ⟨hanswer, hmore⟩ := h.step hrows hdescribe hst
      rw [answersTo_cons_of_concerns hst, callsTo_cons_of_concerns hst, transcript, List.map_cons,
        ← hanswer, ih hmore]
    · obtain ⟨k?, hleft, hright⟩ := h
      rw [answersTo_cons_of_not_concerns hst, callsTo_cons_of_not_concerns hst]
      exact ih ⟨k?, getElem?_cursors_step hst hleft, hright⟩

/-! ## Cursors that are alone on a source -/

/-- Opens a cursor behind some steps on a source in a given state. -/
def openedBehind (src : Source σ κ) (state : σ) (steps : List Step) (sql : String) :
    Answer × Session σ κ :=
  step src (.openCursor sql) (after src steps (fresh state))

/-- What the only cursor on a source, which is number 0, answers to some calls. -/
def ownAnswers (src : Source σ κ) (state : σ) (sql : String) (calls : List Step) : List Answer :=
  (transcript src calls (openedBehind src state [] sql).2).map Prod.snd

theorem step_openCursor_of_ok {sql : String} {k : κ}
    (h : (src.openCursor sql s.source.state).1 = .ok k) :
    (step src (.openCursor sql) s).1 = .opened (.ok s.cursors.length) ∧
      (step src (.openCursor sql) s).2.cursors = s.cursors ++ [some k] := by
  rcases hopen : src.openCursor sql s.source.state with ⟨outcome, state⟩
  rw [hopen] at h
  change outcome = .ok k at h
  subst h
  simp only [step, hopen]
  exact ⟨trivial, trivial⟩

theorem openCursor_of_opened {sql : String}
    (h : (step src (.openCursor sql) s).1 = .opened (.ok number)) :
    number = s.cursors.length ∧ ∃ k, (src.openCursor sql s.source.state).1 = .ok k := by
  rcases hopen : src.openCursor sql s.source.state with ⟨cause | k, state⟩
  · simp only [step, hopen] at h
    cases h
  · simp only [step, hopen] at h
    cases h
    exact ⟨rfl, k, rfl⟩

/-- **A cursor among others answers as one that is alone**, on sources that open its query with the
same cursor and describe that cursor alike. -/
theorem answersTo_openedBehind (hrows : src.SameRows tgt) {sql : String} {state : σ} {state' : τ}
    {before : List Step}
    (hopen : ∀ a b, (src.openCursor sql a).1 = (tgt.openCursor sql b).1)
    (hdescribe : ∀ k a b, (src.describe k a).1 = (tgt.describe k b).1)
    (h : (openedBehind src state before sql).1 = .opened (.ok number)) (later : List Step) :
    (openedBehind tgt state' [] sql).1 = .opened (.ok 0) ∧
      answersTo number (transcript src later (openedBehind src state before sql).2) =
        ownAnswers tgt state' sql (callsTo number 0 later) := by
  obtain ⟨rfl, k, hk⟩ := openCursor_of_opened h
  obtain ⟨-, hcursors⟩ := step_openCursor_of_ok hk
  have hk' : (tgt.openCursor sql (fresh (κ := κ) state').source.state).1 = .ok k :=
    (hopen _ _).symm.trans hk
  obtain ⟨hanswer, hcursors'⟩ := step_openCursor_of_ok hk'
  refine ⟨hanswer, answersTo_transcript hrows hdescribe later ⟨some k, ?_, ?_⟩⟩
  · exact (congrArg (·[_]?) hcursors).trans List.getElem?_concat_length
  · exact congrArg (·[0]?) hcursors'

/-! ## Scripted sources -/

/-- **On a scripted source nothing disturbs anything else.**  Whatever was done before and is done
between, the steps about a cursor get the answers that they get from the only cursor on a new
source, and a step that materializes queries answers as on a new source.  A query is answered from
the first script whose fragment occurs in it, or else from the fallback; so scripts that are
registered later change nothing for a query in which a fragment occurs already, neither when it is
run nor when it is read through a cursor. -/
theorem answers_on_their_own (book : Scripted.Book) :
    (∀ (before later : List Step) (sql : String) (number : Nat),
      (openedBehind book.source {} before sql).1 = .opened (.ok number) →
        (openedBehind book.source {} [] sql).1 = .opened (.ok 0) ∧
          answersTo number (transcript book.source later
              (openedBehind book.source {} before sql).2) =
            ownAnswers book.source {} sql (callsTo number 0 later)) ∧
    (∀ (before : List Step) (st : Step), st.isWhole →
      (step book.source st (after book.source before (fresh {}))).1 =
        (step book.source st (fresh {})).1) ∧
    (∀ (sql : String) (script : Scripted.Script),
      book.scriptFor sql = script ↔ book.Chooses sql script) ∧
    ∀ (more : List (String × Scripted.Script)) (sql : String),
      (∃ entry ∈ book.entries, entry.1.toList <:+: sql.toList) →
        (book.extended more).scriptFor sql = book.scriptFor sql ∧
        (∀ q s t, ((book.extended more).source.run q sql s).1 = (book.source.run q sql t).1) ∧
        ∀ (before later : List Step) (number : Nat),
          (openedBehind book.source {} before sql).1 = .opened (.ok number) →
            answersTo number (transcript book.source later
                (openedBehind book.source {} before sql).2) =
              ownAnswers (book.extended more).source {} sql (callsTo number 0 later) := by
  refine ⟨fun before later sql number h => ?_, fun before st hst => ?_, fun sql script => ?_,
    fun more sql hmatched => ?_⟩
  · exact answersTo_openedBehind (Scripted.Book.sameRows rfl)
      (fun a b => Scripted.openCursor_congr rfl a b)
      (fun k a b => Scripted.describe_congr book book k a b) h later
  · exact ((Scripted.Book.agree book).step hst trivial).1
  · exact Scripted.Book.scriptFor_eq_iff
  · have hscript := Scripted.Book.scriptFor_extended hmatched more
    have hbackend : book.backend = (book.extended more).backend := rfl
    refine ⟨hscript, fun q s t => ?_, fun before later number h => ?_⟩
    · exact Scripted.Book.run_congr hbackend.symm hscript q s t
    · exact (answersTo_openedBehind (Scripted.Book.sameRows hbackend)
        (fun a b => Scripted.openCursor_congr hscript.symm a b)
        (fun k a b => Scripted.describe_congr book (book.extended more) k a b) h later).2

/-- A cursor over one row is opened behind another one and a failing query.  While the schemas are
listed and the other cursor is moved and given back, it reaches its row and breaks down; a script
that is registered later for its query is never used. -/
theorem answers_on_their_own_of_interleaved :
    let orders : Scripted.Script :=
      { columns := [("id", "INT4")], rows := [[some [0x31]]], failAfter := some 1 }
    let book : Scripted.Book :=
      { entries := [("orders", orders), ("lost", { failExecute := some "no such table" })] }
    let before : List Step := [.openCursor "SELECT * FROM lost", .openCursor "SELECT 1"]
    let later : List Step :=
      [.advance 1, .advance 0, .listSchemas, .drop 0, .scan 1, .materialize {} true "SELECT 2",
        .advance 1]
    answersTo 1 (transcript book.source later
        (openedBehind book.source {} before "SELECT * FROM orders").2) =
      [.advanced (.ok true), .scanned (.ok [some [0x31]]),
        .advanced (.error ("connection lost after row " ++ toString 1))] ∧
    (step book.source (.materialize {} true "SELECT 2") (after book.source before (fresh {}))).1 =
      (step book.source (.materialize {} true "SELECT 2") (fresh {})).1 ∧
    (book.extended [("FROM", {})]).scriptFor "SELECT * FROM orders" = orders := by
  intro orders book before later
  obtain ⟨hcursor, hwhole, -, hlater⟩ := answers_on_their_own book
  have hscript : book.scriptFor "SELECT * FROM orders" = orders := by decide +kernel
  have hopen : ∀ state : Scripted.State, book.source.openCursor "SELECT * FROM orders" state =
      (.ok { script := orders },
        ⟨state.executed ++ ["SELECT * FROM orders"], state.openCursors + 1⟩) := by
    intro state
    simp only [Scripted.Book.source, hscript, orders]
  have hnumber : (after book.source before (fresh {})).cursors.length = 1 := by decide +kernel
  have hopened : (openedBehind book.source {} before "SELECT * FROM orders").1 =
      .opened (.ok 1) := by
    rw [openedBehind, (step_openCursor_of_ok (congrArg Prod.fst (hopen _))).1, hnumber]
  have halone : ownAnswers book.source {} "SELECT * FROM orders" (callsTo 1 0 later) =
      [.advanced (.ok true), .scanned (.ok [some [0x31]]),
        .advanced (.error ("connection lost after row " ++ toString 1))] := by
    simp only [ownAnswers, openedBehind, after, List.foldl_nil, step, hopen]
    rfl
  have hoccurs : "orders".toList <:+: "SELECT * FROM orders".toList := by decide +kernel
  refine ⟨(hcursor before later "SELECT * FROM orders" 1 hopened).2.trans halone,
    hwhole before (.materialize {} true "SELECT 2") rfl, ?_⟩
  exact (hlater [("FROM", {})] "SELECT * FROM orders"
    ⟨("orders", orders), List.mem_cons_self, hoccurs⟩).1.trans hscript

end Session
end LiteralRows
