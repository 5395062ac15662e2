/-!
# Segments between separators

A text is cut at every separator, be it a list of characters or of bytes. Every text has a segment,
and no segment holds a separator.
-/
namespace JavaLauncher.Text

/-- The maximal separator-free runs of a list, the empty ones included. -/
def segments {α : Type} (isSeparator : α → Bool) : List α → List (List α)
  | [] => [[]]
  | c :: rest =>
    if isSeparator c then [] :: segments isSeparator rest
    else
      match segments isSeparator rest with
      | [] => [[c]]
      | head :: tail => (c :: head) :: tail

/-- The segments of a text as texts. -/
def split (separator : Char) (text : String) : List String :=
  (segments (· == separator) text.toList).map String.ofList

/-- The nonempty segments of a text. -/
def fields (isSeparator : Char → Bool) (text : String) : List String :=
  ((segments isSeparator text.toList).filter (!·.isEmpty)).map String.ofList

/-- Every text has a segment. -/
theorem segments_ne_nil {α : Type} (isSeparator : α → Bool) (text : List α) :
    segments isSeparator text ≠ [] := by
  cases text with
  | nil => simp [segments]
  | cons c rest =>
    simp only [segments]
    split
    · simp
    · split <;> simp

/-- No segment holds a separator. -/
theorem not_isSeparator_of_mem_segments {α : Type} {isSeparator : α → Bool}
    {text segment : List α} (member : segment ∈ segments isSeparator text) {c : α}
    (inside : c ∈ segment) :
    isSeparator c = false := by
  induction text generalizing segment with
  | nil =>
    simp only [segments, List.mem_singleton] at member
    simp [member] at inside
  | cons first rest ih =>
    simp only [segments] at member
    split at member
    · rcases List.mem_cons.1 member with rfl | later
      · simp at inside
      · exact ih later inside
    · rename_i plain
      split at member
      · rename_i none
        exact absurd none (segments_ne_nil _ _)
      · rename_i head tail found
        rcases List.mem_cons.1 member with rfl | later
        · rcases List.mem_cons.1 inside with rfl | deeper
          · simpa using plain
          · exact ih (by rw [found]; exact List.mem_cons_self) deeper
        · exact ih (by rw [found]; exact List.mem_cons_of_mem _ later) inside

/-- No field is empty. -/
theorem ne_empty_of_mem_fields {isSeparator : Char → Bool} {text field : String}
    (member : field ∈ fields isSeparator text) : field ≠ "" := by
  simp only [fields, List.mem_map, List.mem_filter] at member
  obtain ⟨characters, ⟨_, nonempty⟩, rfl⟩ := member
  intro empty
  have none := congrArg String.toList empty
  simp_all

end JavaLauncher.Text
