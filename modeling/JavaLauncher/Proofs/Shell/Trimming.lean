import JavaLauncher.Proofs.Shell.Survival
import JavaLauncher.Proofs.Shell.Unquoted

/-!
# Texts that are trimmed before they are read

Only spaces, tabs and newlines separate words. Other white space is stray: it is part of a word, as
any visible character is. A text therefore keeps its words when the white space at its front is
trimmed exactly where nothing but separators is trimmed (`words?_trimFront_eq_iff`), which the first
character that is no separator decides (`separators_trimmed_iff`).
-/
namespace JavaLauncher.Shell

/-- The first character of a text that is no separator is stray white space. -/
def beginsStray : List Char → Bool
  | [] => false
  | c :: rest => if isSeparator c then beginsStray rest else Text.isBlank c

/-- Separators at the front of a text do not matter, and nothing does after another character. -/
theorem beginsStray_append (front back : List Char) :
    beginsStray (front ++ back) =
      if front.all isSeparator then beginsStray back else beginsStray front := by
  induction front with
  | nil => rfl
  | cons c front ih =>
    by_cases separates : isSeparator c = true
    · simp [beginsStray, separates, ih]
    · simp [beginsStray, separates]

/-- A text that begins with stray white space does not hold separators only. -/
theorem all_isSeparator_of_beginsStray {text : List Char} (stray : beginsStray text = true) :
    text.all isSeparator = false := by
  rw [← Bool.not_eq_true]
  intro separate
  have none := beginsStray_append text []
  rw [List.append_nil, if_pos separate, stray] at none
  cases none

/-- Trimming the front of a text takes separators only unless the text begins with stray white
space. -/
theorem separators_trimmed_iff {text : List Char} :
    (∀ c ∈ text.takeWhile Text.isBlank, isSeparator c = true) ↔ beginsStray text = false := by
  induction text with
  | nil => simp [beginsStray]
  | cons c rest ih =>
    by_cases separates : isSeparator c = true
    · simp [beginsStray, separates, isBlank_of_isSeparator separates, ih]
    · by_cases blank : Text.isBlank c = true
      · simp [beginsStray, separates, blank]
      · simp [beginsStray, separates, blank]

/-- Separators at the front of a text are no part of its words. -/
theorem wordsFrom_separators_append {front : List Char}
    (separate : ∀ c ∈ front, isSeparator c = true) (rest : List Char) :
    wordsFrom .between (front ++ rest) = wordsFrom .between rest := by
  induction front with
  | nil => rfl
  | cons c front ih =>
    have first : step .between c = (.skip, .between) := by simp [step, separate c]
    rw [List.cons_append, wordsFrom, first, ih fun d member => separate d (.tail c member)]
    exact Option.map_id'

/-- Outside quotes, stray white space goes on with a word. -/
theorem step_of_isBlank {c : Char} (blank : Text.isBlank c = true)
    (apart : isSeparator c = false) {mode : Mode} (outside : mode = .between ∨ mode = .plain) :
    step mode c = (.extend [c], .plain) := by
  have other : ∀ d, Text.isBlank d = false → c ≠ d := by
    rintro d plain rfl
    rw [blank] at plain
    cases plain
  have double : c ≠ '"' := other _ (by decide)
  have single : c ≠ '\'' := other _ (by decide)
  have backslash : c ≠ '\\' := other _ (by decide)
  have hash : c ≠ '#' := other _ (by decide)
  rcases outside with rfl | rfl
  · simp [step, plainStep, apart, double, single, backslash, hash]
  · simp [step, plainStep, apart, double, single, backslash]

/-- A word that ends where a text begins has no part in what the text contributes, unless the text
would begin with a comment. -/
theorem exists_between_of_plain {text : List Char} {words : List (List Char)}
    (uncommented : text.head? ≠ some '#') (read : wordsFrom .plain text = some words) :
    ∃ later, wordsFrom .between text = some later ∧ words.flatten = later.flatten := by
  cases text with
  | nil =>
    obtain rfl := Option.some.inj read
    exact ⟨[], rfl, rfl⟩
  | cons c rest =>
    have hash : c ≠ '#' := by simpa using uncommented
    by_cases separates : isSeparator c = true
    · rw [wordsFrom_plain_of_startsApart (by simpa [StartsApart] using separates)] at read
      obtain ⟨later, readLater, rfl⟩ := Option.map_eq_some_iff.1 read
      exact ⟨later, readLater, rfl⟩
    · have same : step .between c = step .plain c := by simp [step, separates, hash]
      refine ⟨words, ?_, rfl⟩
      rwa [wordsFrom, same]

/-- White space at the front of a text contributes what of it is stray. -/
theorem exists_read_after_blank {blanks rest : List Char} {words : List (List Char)}
    (blank : ∀ c ∈ blanks, Text.isBlank c = true) (uncommented : rest.head? ≠ some '#')
    {mode : Mode} (outside : mode = .between ∨ mode = .plain)
    (read : wordsFrom mode (blanks ++ rest) = some words) :
    ∃ later, wordsFrom .between rest = some later ∧
      words.flatten = blanks.filter (!isSeparator ·) ++ later.flatten := by
  induction blanks generalizing mode words with
  | nil =>
    rcases outside with rfl | rfl
    · exact ⟨words, read, rfl⟩
    · exact exists_between_of_plain uncommented read
  | cons c blanks ih =>
    obtain ⟨after, readAfter, contributed⟩ := exists_flatten_eq read
    have blankAfter : ∀ d ∈ blanks, Text.isBlank d = true := fun d member =>
      blank d (List.mem_cons_of_mem c member)
    by_cases separates : isSeparator c = true
    · have none : (step mode c).1.output = [] ∧ (step mode c).2 = .between := by
        rcases outside with rfl | rfl <;> simp [step, separates, Action.output]
      obtain ⟨later, readLater, kept⟩ := ih blankAfter (.inl none.2) readAfter
      refine ⟨later, readLater, ?_⟩
      rw [contributed, none.1, kept]
      simp [separates]
    · have apart : isSeparator c = false := by simpa using separates
      have first := step_of_isBlank (blank c List.mem_cons_self) apart outside
      obtain ⟨later, readLater, kept⟩ := ih blankAfter (.inr (by rw [first])) readAfter
      refine ⟨later, readLater, ?_⟩
      rw [contributed, first, kept]
      simp [apart, Action.output]

/-- A text keeps its words when the white space at its front is trimmed exactly where it does not
begin with stray white space. The trimmed text must not begin with a `#`, which opens no comment
right after stray white space but does at the front of a text. -/
theorem words?_trimFront_eq_iff {text : String} {words : List String}
    (read : words? text = some words)
    (uncommented : (Text.trimFront text).toList.head? ≠ some '#') :
    words? (Text.trimFront text) = some words ↔ beginsStray text.toList = false := by
  rw [← separators_trimmed_iff]
  let trimmed := text.toList.takeWhile Text.isBlank
  have whole : text.toList = trimmed ++ (Text.trimFront text).toList := by
    rw [Text.toList_trimFront]
    exact List.takeWhile_append_dropWhile.symm
  simp only [words?, Option.map_eq_some_iff] at read ⊢
  obtain ⟨found, readFound, rfl⟩ := read
  rw [whole] at readFound
  have blank : ∀ c ∈ trimmed, Text.isBlank c = true := List.all_eq_true.1 List.all_takeWhile
  constructor
  · rintro ⟨kept, readKept, same⟩
    obtain ⟨later, readLater, contributed⟩ :=
      exists_read_after_blank blank uncommented (.inl rfl) readFound
    obtain rfl : later = kept := Option.some.inj (readLater.symm.trans readKept)
    obtain rfl : later = found :=
      (List.map_inj_right fun _ _ => String.ofList_inj.1).1 same
    have lost : trimmed.filter (!isSeparator ·) = [] := List.self_eq_append_left.1 contributed
    simpa using List.filter_eq_nil_iff.1 lost
  · intro separate
    rw [wordsFrom_separators_append separate] at readFound
    exact ⟨found, readFound, rfl⟩

end JavaLauncher.Shell
