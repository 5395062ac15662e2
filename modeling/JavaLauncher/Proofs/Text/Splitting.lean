import JavaLauncher.Text.Segments

/-!
# Splitting joined texts

Texts that are joined by a separator can be told apart again where none of them holds it, and only
there (`split_intercalate_eq_iff`): whatever a text is split into holds no separator. The one list
that is lost although none of its texts holds a separator is the empty one, since the empty text has
a segment.
-/
namespace JavaLauncher.Text

/-- The segments of a text are what splitting it at every separator leaves. -/
theorem segments_eq_splitOnP {α : Type} (isSeparator : α → Bool) (text : List α) :
    segments isSeparator text = text.splitOnP isSeparator := by
  induction text with
  | nil => rfl
  | cons c rest ih =>
    rw [segments, ih, List.splitOnP_cons_eq_if_modifyHead]
    cases found : rest.splitOnP isSeparator with
    | nil => exact absurd found (List.splitOnP_ne_nil _ _)
    | cons head tail => rfl

/-- A text splits into those of its two parts at a separator. -/
theorem split_append (separator : Char) (front back : String) :
    split separator (front ++ String.singleton separator ++ back) =
      split separator front ++ split separator back := by
  have parts := List.splitOnP_append_cons (p := (· == separator)) front.toList back.toList
    (beq_self_eq_true separator)
  simp only [split, segments_eq_splitOnP, String.toList_append, String.toList_singleton,
    List.append_assoc, List.singleton_append, parts, List.map_append]

/-- A text without a separator does not split. -/
theorem split_of_not_mem {separator : Char} {text : String} (free : separator ∉ text.toList) :
    split separator text = [text] := by
  have plain : ∀ c ∈ text.toList, (c == separator) = false := by
    intro c member
    exact beq_eq_false_iff_ne.2 fun same => free (same ▸ member)
  rw [split, segments_eq_splitOnP, List.splitOnP_eq_singleton plain, List.map_singleton,
    String.ofList_toList]

/-- A text splits into at least one. -/
theorem split_ne_nil (separator : Char) (text : String) : split separator text ≠ [] := by
  intro none
  exact segments_ne_nil _ _ (List.map_eq_nil_iff.1 none)

/-- What a text splits into holds no separator. -/
theorem not_mem_of_mem_split {separator : Char} {text piece : String}
    (member : piece ∈ split separator text) : separator ∉ piece.toList := by
  obtain ⟨segment, found, rfl⟩ := List.mem_map.1 member
  intro inside
  rw [String.toList_ofList] at inside
  have plain := not_isSeparator_of_mem_segments found inside
  exact absurd (beq_self_eq_true separator) (by rw [plain]; decide)

/-- The fields of a text are the nonempty texts that it splits into. -/
theorem fields_eq_filter_split (separator : Char) (text : String) :
    fields (· == separator) text = (split separator text).filter (· ≠ "") := by
  rw [fields, split, List.filter_map]
  congr 1
  apply List.filter_congr
  intro segment _
  cases segment with
  | nil => decide
  | cons c rest =>
    have nonempty : String.ofList (c :: rest) ≠ "" := by
      intro empty
      exact absurd (congrArg String.toList empty) (by simp)
    simp

section

variable {separator : Char} {entries : List String}

/-- Joined texts are split into what they were, where there is any and none holds the separator. -/
theorem split_intercalate (present : entries ≠ [])
    (free : ∀ entry ∈ entries, separator ∉ entry.toList) :
    split separator ((String.singleton separator).intercalate entries) = entries := by
  have apart : ∀ segment ∈ entries.map String.toList, separator ∉ segment := by
    intro segment member
    obtain ⟨entry, listed, rfl⟩ := List.mem_map.1 member
    exact free entry listed
  have segmented := List.splitOn_intercalate separator apart (by simpa using present)
  rw [split, segments_eq_splitOnP, String.toList_intercalate, String.toList_singleton]
  rw [List.splitOn] at segmented
  rw [segmented, List.map_map]
  simp

/-- Joined texts are split into what they were only where there is any and none holds the
separator. -/
theorem split_intercalate_eq_iff :
    split separator ((String.singleton separator).intercalate entries) = entries ↔
      entries ≠ [] ∧ ∀ entry ∈ entries, separator ∉ entry.toList := by
  constructor
  · intro same
    refine ⟨same ▸ split_ne_nil _ _, fun entry member => ?_⟩
    rw [← same] at member
    exact not_mem_of_mem_split member
  · rintro ⟨present, free⟩
    exact split_intercalate present free

/-- Joined texts that are not empty are the fields of what they are joined to, where none holds the
separator. -/
theorem fields_intercalate (nonempty : ∀ entry ∈ entries, entry ≠ "")
    (free : ∀ entry ∈ entries, separator ∉ entry.toList) :
    fields (· == separator) ((String.singleton separator).intercalate entries) = entries := by
  rw [fields_eq_filter_split]
  cases entries with
  | nil =>
    have empty : (String.singleton separator).intercalate [] = "" := rfl
    rw [empty, split_of_not_mem (by simp)]
    simp
  | cons first others =>
    rw [split_intercalate (List.cons_ne_nil _ _) free, List.filter_eq_self]
    simpa using nonempty

end

/-- No field of a text holds a separator. -/
theorem not_mem_of_mem_fields {separator : Char} {text field : String}
    (member : field ∈ fields (· == separator) text) : separator ∉ field.toList := by
  rw [fields_eq_filter_split] at member
  exact not_mem_of_mem_split (List.mem_filter.1 member).1

/-- A character of a text that is no separator is in one of its segments. -/
theorem exists_mem_segments {isSeparator : Char → Bool} {text : List Char} {c : Char}
    (member : c ∈ text) (plain : isSeparator c = false) :
    ∃ segment ∈ segments isSeparator text, c ∈ segment := by
  induction text with
  | nil => cases member
  | cons first rest ih =>
    simp only [segments]
    rcases List.mem_cons.1 member with rfl | later
    · rw [if_neg (by simp [plain])]
      cases segments isSeparator rest <;> exact ⟨_, List.mem_cons_self, List.mem_cons_self⟩
    · obtain ⟨segment, found, inside⟩ := ih later
      split
      · exact ⟨segment, List.mem_cons_of_mem _ found, inside⟩
      · cases known : segments isSeparator rest with
        | nil => exact absurd known (segments_ne_nil _ _)
        | cons head tail =>
          rw [known] at found
          rcases List.mem_cons.1 found with rfl | other
          · exact ⟨_, List.mem_cons_self, List.mem_cons_of_mem _ inside⟩
          · exact ⟨segment, List.mem_cons_of_mem _ other, inside⟩

/-- A text with a character that is no separator has a field. -/
theorem fields_ne_nil {isSeparator : Char → Bool} {text : String} {c : Char}
    (member : c ∈ text.toList) (plain : isSeparator c = false) :
    fields isSeparator text ≠ [] := by
  obtain ⟨segment, found, inside⟩ := exists_mem_segments member plain
  have nonempty : segment ≠ [] := List.ne_nil_of_mem inside
  have kept : String.ofList segment ∈ fields isSeparator text :=
    List.mem_map_of_mem (List.mem_filter.2 ⟨found, by simpa using nonempty⟩)
  exact List.ne_nil_of_mem kept

/-- A character of a joined text is one of the whole. -/
theorem mem_intercalate {separator entry : String} {entries : List String} {c : Char}
    (member : entry ∈ entries) (inside : c ∈ entry.toList) :
    c ∈ (separator.intercalate entries).toList := by
  induction entries with
  | nil => cases member
  | cons first others ih =>
    cases others with
    | nil =>
      rw [String.intercalate_singleton, ← List.mem_singleton.1 member]
      exact inside
    | cons second rest =>
      rw [String.intercalate_cons_cons, String.toList_append, String.toList_append]
      rcases List.mem_cons.1 member with rfl | later
      · exact List.mem_append_left _ (List.mem_append_left _ inside)
      · exact List.mem_append_right _ (ih later)

/-- Joined texts that are not empty come to nothing only where there is none. -/
theorem intercalate_eq_empty_iff {separator : String} {entries : List String}
    (nonempty : ∀ entry ∈ entries, entry ≠ "") :
    separator.intercalate entries = "" ↔ entries = [] := by
  constructor
  · intro empty
    rw [List.eq_nil_iff_forall_not_mem]
    intro entry member
    have characters : entry.toList ≠ [] := fun none =>
      nonempty entry member (String.toList_inj.1 none)
    obtain ⟨c, inside⟩ := List.exists_mem_of_ne_nil _ characters
    have whole : c ∈ (separator.intercalate entries).toList := mem_intercalate member inside
    rw [empty] at whole
    cases whole
  · rintro rfl
    exact String.intercalate_nil

end JavaLauncher.Text
