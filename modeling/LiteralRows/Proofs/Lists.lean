import Mathlib.Data.List.Forall2

/-!
# Lists that are read as a whole

A list is read if each of its elements is (`mapM_map_eq_some`); one element that is not read is
enough for the list not to be read either (`mapM_eq_none_of_mem`).  Of two lists that are related
element by element, every element has a partner (`exists_of_forall₂_left`).
-/

namespace LiteralRows

theorem exists_mem_of_mapM_eq_some {α β : Type} {f : α → Option β} {l : List α} {l' : List β}
    (h : l.mapM f = some l') {a : α} (ha : a ∈ l) : ∃ b ∈ l', f a = some b := by
  induction l generalizing l' with
  | nil => cases ha
  | cons d l ih =>
    rw [List.mapM_cons] at h
    obtain ⟨b, hb, h⟩ := Option.bind_eq_some_iff.mp h
    obtain ⟨bs, hbs, h⟩ := Option.bind_eq_some_iff.mp h
    obtain rfl := Option.some.inj h
    rcases List.mem_cons.mp ha with rfl | hl
    · exact ⟨b, List.mem_cons_self, hb⟩
    · obtain ⟨b', hmem, hb'⟩ := ih hbs hl
      exact ⟨b', List.mem_cons_of_mem b hmem, hb'⟩

theorem mapM_eq_none_of_mem {α β : Type} {f : α → Option β} {l : List α} {a : α} (ha : a ∈ l)
    (hf : f a = none) : l.mapM f = none := by
  rw [Option.eq_none_iff_forall_ne_some]
  intro l' h
  obtain ⟨b, -, hb⟩ := exists_mem_of_mapM_eq_some h ha
  rw [hf] at hb
  cases hb

/-- A list is read as a whole if each of its elements is read from what it is turned into. -/
theorem mapM_map_eq_some {α β γ : Type} {f : β → Option γ} {g : α → β} {h : α → γ} :
    ∀ {l : List α}, (∀ x ∈ l, f (g x) = some (h x)) → (l.map g).mapM f = some (l.map h)
  | [], _ => rfl
  | x :: l, hf => by
    obtain ⟨hx, hl⟩ := List.forall_mem_cons.mp hf
    rw [List.map_cons, List.mapM_cons, hx, Option.bind_eq_bind, Option.bind_some,
      mapM_map_eq_some hl]
    rfl

theorem mapM_map_eq_self {α β : Type} {f : β → Option α} {g : α → β} {l : List α}
    (hf : ∀ x ∈ l, f (g x) = some x) : (l.map g).mapM f = some l := by
  rw [mapM_map_eq_some (h := id) hf, List.map_id]

/-- An element may be put in the place of another that is read alike. -/
theorem mapM_append_cons {α β : Type} {f : α → Option β} {before after : List α} {a a' : α}
    (h : f a = f a') : (before ++ a :: after).mapM f = (before ++ a' :: after).mapM f := by
  rw [List.mapM_append, List.mapM_append, List.mapM_cons, List.mapM_cons, h]

section Related

variable {α β : Type*} {R : α → β → Prop} {xs : List α} {ys : List β}

theorem exists_of_forall₂_left (h : List.Forall₂ R xs ys) : ∀ x ∈ xs, ∃ y ∈ ys, R x y := by
  induction h with
  | nil => exact nofun
  | cons hxy _ ih =>
    refine List.forall_mem_cons.mpr ⟨⟨_, List.mem_cons_self, hxy⟩, fun x hx => ?_⟩
    obtain ⟨y, hy, hxy⟩ := ih x hx
    exact ⟨y, List.mem_cons_of_mem _ hy, hxy⟩

theorem exists_of_forall₂_right (h : List.Forall₂ R xs ys) : ∀ y ∈ ys, ∃ x ∈ xs, R x y :=
  exists_of_forall₂_left h.flip

end Related

end LiteralRows
