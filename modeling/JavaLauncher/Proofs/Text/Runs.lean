import JavaLauncher.Text.Segments

/-!
# Runs between separators

The fields of a text are found by cutting it at every separator and dropping what is empty. Said of
the text itself they are its runs: the longest stretches without a separator, in their order
(`fields_eq_iff`). No character is in a run but those that are no separators, and each of these is
in one, so that the runs put together are the text without its separators (`Runs.flatten_eq`).
-/
namespace JavaLauncher.Text

/-- The runs of a text: the longest stretches of it without a separator, in order. -/
inductive Runs (isSeparator : Char → Bool) : List Char → List (List Char) → Prop where
  /-- Nothing has no run. -/
  | nil : Runs isSeparator [] []
  /-- A separator belongs to no run. -/
  | separator {c : Char} {rest : List Char} {runs : List (List Char)}
      (separates : isSeparator c = true) (later : Runs isSeparator rest runs) :
      Runs isSeparator (c :: rest) runs
  /-- A run goes on up to a separator or to the end of the text. -/
  | run {run rest : List Char} {runs : List (List Char)} (nonempty : run ≠ [])
      (plain : ∀ c ∈ run, isSeparator c = false) (ends : ∀ c ∈ rest.head?, isSeparator c = true)
      (later : Runs isSeparator rest runs) : Runs isSeparator (run ++ rest) (run :: runs)

section

variable {isSeparator : Char → Bool} {text : List Char} {runs : List (List Char)}

/-- No run is empty, and none holds a separator. -/
theorem Runs.plain_of_mem (found : Runs isSeparator text runs) {run : List Char}
    (member : run ∈ runs) : run ≠ [] ∧ ∀ c ∈ run, isSeparator c = false := by
  induction found with
  | nil => cases member
  | separator _ _ ih => exact ih member
  | run nonempty plain _ _ ih =>
    rcases List.mem_cons.1 member with rfl | later
    · exact ⟨nonempty, plain⟩
    · exact ih later

/-- The runs put together are the text without its separators. -/
theorem Runs.flatten_eq (found : Runs isSeparator text runs) :
    runs.flatten = text.filter (!isSeparator ·) := by
  induction found with
  | nil => rfl
  | separator separates _ ih => simp [separates, ih]
  | @run run _ _ _ plain _ _ ih =>
    have kept : run.filter (!isSeparator ·) = run := by
      rw [List.filter_eq_self]
      intro c member
      rw [plain c member]
      rfl
    rw [List.flatten_cons, List.filter_append, kept, ih]

/-- A stretch without separators goes on with the first segment of what follows it. -/
theorem segments_append_of_plain {run : List Char} (plain : ∀ c ∈ run, isSeparator c = false)
    (rest : List Char) :
    segments isSeparator (run ++ rest) = (segments isSeparator rest).modifyHead (run ++ ·) := by
  induction run with
  | nil =>
    rw [List.nil_append]
    cases segments isSeparator rest with
    | nil => rfl
    | cons head tail => rfl
  | cons c run ih =>
    have here : isSeparator c = false := plain c List.mem_cons_self
    have others := ih fun d member => plain d (List.mem_cons_of_mem c member)
    rw [List.cons_append, segments, if_neg (by simp [here]), others]
    cases found : segments isSeparator rest with
    | nil => exact absurd found (segments_ne_nil _ _)
    | cons head tail => rfl

/-- The first segment of a text that begins with a separator, or is empty, is empty. -/
theorem exists_segments_eq_nil_cons (ends : ∀ c ∈ text.head?, isSeparator c = true) :
    ∃ tail, segments isSeparator text = [] :: tail := by
  cases text with
  | nil => exact ⟨[], rfl⟩
  | cons c rest => exact ⟨segments isSeparator rest, by rw [segments, if_pos (ends c rfl)]⟩

/-- Whatever the runs of a text are, they are its nonempty segments. -/
theorem Runs.eq_segments (found : Runs isSeparator text runs) :
    runs = (segments isSeparator text).filter (!·.isEmpty) := by
  induction found with
  | nil => rfl
  | separator separates _ ih =>
    rw [segments, if_pos separates, ih]
    rfl
  | @run run rest runs nonempty plain ends _ ih =>
    obtain ⟨tail, split⟩ := exists_segments_eq_nil_cons ends
    rw [split] at ih
    rw [segments_append_of_plain plain, split, List.modifyHead_cons, List.append_nil,
      List.filter_cons_of_pos (by simpa using nonempty), ih]
    rfl

/-- One more character that is no separator goes on with the first run, or is a run of its own. -/
theorem Runs.exists_cons {c : Char} (plain : isSeparator c = false)
    (found : Runs isSeparator text runs) : ∃ more, Runs isSeparator (c :: text) more := by
  have opened (ends : ∀ d ∈ text.head?, isSeparator d = true) :
      Runs isSeparator ([c] ++ text) ([c] :: runs) :=
    .run (List.cons_ne_nil c []) (by simpa using plain) ends found
  cases found with
  | nil => exact ⟨_, opened (by simp)⟩
  | separator separates later => exact ⟨_, opened (by simpa using separates)⟩
  | @run run rest runs nonempty others ends later =>
    have longer : ∀ d ∈ c :: run, isSeparator d = false := by
      intro d member
      rcases List.mem_cons.1 member with rfl | inside
      · exact plain
      · exact others d inside
    exact ⟨(c :: run) :: runs, .run (List.cons_ne_nil c run) longer ends later⟩

/-- Every text has runs. -/
theorem exists_runs (isSeparator : Char → Bool) (text : List Char) :
    ∃ runs, Runs isSeparator text runs := by
  induction text with
  | nil => exact ⟨[], .nil⟩
  | cons c rest ih =>
    obtain ⟨runs, later⟩ := ih
    cases separates : isSeparator c with
    | true => exact ⟨runs, .separator separates later⟩
    | false => exact later.exists_cons separates

/-- The runs of a text are its nonempty segments, and nothing else is. -/
theorem runs_iff :
    Runs isSeparator text runs ↔ (segments isSeparator text).filter (!·.isEmpty) = runs := by
  refine ⟨fun found => found.eq_segments.symm, ?_⟩
  rintro rfl
  obtain ⟨runs, found⟩ := exists_runs isSeparator text
  rw [← found.eq_segments]
  exact found

end

section

variable {isSeparator : Char → Bool} {text : String} {entries : List String}

/-- The fields of a text are its runs. -/
theorem fields_eq_iff :
    fields isSeparator text = entries ↔
      Runs isSeparator text.toList (entries.map String.toList) := by
  rw [runs_iff, fields]
  constructor
  · rintro rfl
    simp
  · intro same
    rw [same, List.map_map]
    simp

/-- No field holds a separator. -/
theorem plain_of_mem_fields {field : String} (member : field ∈ fields isSeparator text) :
    ∀ c ∈ field.toList, isSeparator c = false :=
  ((fields_eq_iff.1 rfl).plain_of_mem (List.mem_map_of_mem member)).2

/-- The fields put together are the text without its separators. -/
theorem join_fields (isSeparator : Char → Bool) (text : String) :
    String.join (fields isSeparator text) =
      String.ofList (text.toList.filter (!isSeparator ·)) := by
  have whole := (fields_eq_iff.1 (Eq.refl (fields isSeparator text))).flatten_eq
  apply String.toList_inj.1
  rw [String.toList_join, List.flatMap_def, whole, String.toList_ofList]

end

end JavaLauncher.Text
