import Mathlib.Data.List.Forall2

/-!
# Lists

Laws of lists that several parts of the development need: what a partial function and a function make
of a list is said item by item (`mapM_eq_some_iff`, `forall₂_iff_map_eq`), and what stands in a list
in the order of another is determined by its members (`eq_of_sublist_of_mem_iff`).
-/
namespace JavaLauncher

variable {α β : Type}

/-- A partial function makes one list of another where it makes each item of the item at its place. -/
theorem mapM_eq_some_iff {f : α → Option β} {items : List α} {results : List β} :
    items.mapM f = some results ↔
      List.Forall₂ (fun item result => f item = some result) items results := by
  induction items generalizing results with
  | nil => simp [eq_comm]
  | cons item items ih =>
    simp only [List.mapM_cons, Option.bind_eq_bind, Option.bind_eq_some_iff, Option.pure_def,
      Option.some.injEq, ih, List.forall₂_cons_left_iff]
    constructor
    · rintro ⟨first, given, rest, others, rfl⟩
      exact ⟨first, rest, given, others, rfl⟩
    · rintro ⟨first, rest, given, others, rfl⟩
      exact ⟨first, given, rest, others, rfl⟩

/-- A relation that is a function, item by item, is the function of the whole list. -/
theorem forall₂_iff_map_eq {relation : α → β → Prop} (f : α → β)
    (functional : ∀ item result, relation item result ↔ f item = result) {items : List α}
    {results : List β} : List.Forall₂ relation items results ↔ items.map f = results := by
  have graph : relation = fun item result => f item = result := by
    funext item result
    exact propext (functional item result)
  rw [graph, ← List.forall₂_map_left_iff (R := Eq), List.forall₂_eq_eq_eq]

/-- Two lists in the order of a third, in which nothing is twice, are equal if they have the same
members. -/
theorem eq_of_sublist_of_mem_iff {whole first second : List α} (once : whole.Nodup)
    (left : first.Sublist whole) (right : second.Sublist whole)
    (same : ∀ item, item ∈ first ↔ item ∈ second) : first = second := by
  induction whole generalizing first second with
  | nil => rw [List.sublist_nil.1 left, List.sublist_nil.1 right]
  | cons head tail ih =>
    obtain ⟨absent, rest⟩ := List.nodup_cons.1 once
    have fresh {part : List α} (below : part.Sublist tail) : head ∉ part :=
      fun member => absent (below.subset member)
    cases left with
    | cons _ left =>
      cases right with
      | cons _ right => exact ih rest left right same
      | cons_cons _ right => exact absurd ((same head).2 List.mem_cons_self) (fresh left)
    | cons_cons _ left =>
      cases right with
      | cons _ right => exact absurd ((same head).1 List.mem_cons_self) (fresh right)
      | cons_cons _ right =>
        rename_i firsts seconds
        have others : ∀ item, item ∈ firsts ↔ item ∈ seconds := by
          intro item
          by_cases here : item = head
          · rw [here]
            exact iff_of_false (fresh left) (fresh right)
          · simpa [here] using same item
        rw [ih rest left right others]

end JavaLauncher
