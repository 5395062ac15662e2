import JavaLauncher.Shell.Words

/-!
# Texts that read as whole words

A text reads as a list of words when it contributes exactly these words wherever no word is
open in front of it and nothing or a separator follows it. Texts that read as words can be put
one after the other (`Reads.append`), which the words of a text alone do not allow: a comment
that the first text leaves open would swallow the second. A text without `#` that has shell
words reads as them (`reads_of_words?`).
-/
namespace JavaLauncher.Shell

/-- The modes in which a word is open. -/
def Mode.inWord : Mode → Bool
  | .between | .comment => false
  | .plain | .escape | .single | .double | .doubleEscape => true

/-- A character of a word opens the word and goes on with it. -/
theorem plainStep_extends (c : Char) :
    ∃ characters, (plainStep c).1 = .extend characters ∧ (plainStep c).2.inWord = true := by
  unfold plainStep
  split
  · exact ⟨[], rfl, rfl⟩
  split
  · exact ⟨[], rfl, rfl⟩
  split
  · exact ⟨[], rfl, rfl⟩
  · exact ⟨[c], rfl, rfl⟩

/-- A character outside words is skipped, and only a `#` starts a comment; one that separates
ends the open word; every other one goes on with a word, which stays open. -/
theorem step_cases (mode : Mode) (c : Char) :
    ((step mode c).1 = .skip ∧ mode.inWord = false ∧ (step mode c).2.inWord = false ∧
      ((step mode c).2 = .comment → mode = .comment ∨ c = '#')) ∨
    ((step mode c).1 = .finish ∧ (step mode c).2 = .between) ∨
    ∃ characters, (step mode c).1 = .extend characters ∧ (step mode c).2.inWord = true := by
  cases mode with
  | between =>
    by_cases separates : isSeparator c = true
    · exact .inl (by simp [step, separates, Mode.inWord])
    · by_cases hash : c = '#'
      · subst hash
        exact .inl (by simp [step, isSeparator, Mode.inWord])
      · exact .inr (.inr (by simpa [step, separates, hash] using plainStep_extends c))
  | comment =>
    by_cases newline : c = '\n'
    · exact .inl (by simp [step, newline, Mode.inWord])
    · exact .inl (by simp [step, newline, Mode.inWord])
  | plain =>
    by_cases separates : isSeparator c = true
    · exact .inr (.inl (by simp [step, separates]))
    · exact .inr (.inr (by simpa [step, separates] using plainStep_extends c))
  | escape => exact .inr (.inr ⟨_, rfl, rfl⟩)
  | single =>
    by_cases quote : c = '\''
    · exact .inr (.inr (by simp [step, quote, Mode.inWord]))
    · exact .inr (.inr (by simp [step, quote, Mode.inWord]))
  | double =>
    by_cases quote : c = '"'
    · exact .inr (.inr (by simp [step, quote, Mode.inWord]))
    · by_cases backslash : c = '\\'
      · exact .inr (.inr (by simp [step, backslash, Mode.inWord]))
      · exact .inr (.inr (by simp [step, quote, backslash, Mode.inWord]))
  | doubleEscape =>
    by_cases newline : c = '\n'
    · exact .inr (.inr (by simp [step, newline, Mode.inWord]))
    · by_cases escaped : isDoubleEscapable c = true
      · exact .inr (.inr (by simp [step, newline, escaped, Mode.inWord]))
      · exact .inr (.inr (by simp [step, newline, escaped, Mode.inWord]))

/-- A character inside a word is never skipped. -/
theorem step_ne_skip {mode : Mode} (inside : mode.inWord = true) (c : Char) :
    (step mode c).1 ≠ .skip := by
  obtain ⟨_, outside, _⟩ | ⟨action, _⟩ | ⟨_, action, _⟩ := step_cases mode c
  · simp [inside] at outside
  · simp [action]
  · simp [action]

/-- A character that goes on with a word leaves the word open. -/
theorem inWord_of_extend {mode : Mode} {c : Char} {characters : List Char}
    (extended : (step mode c).1 = .extend characters) : (step mode c).2.inWord = true := by
  obtain ⟨action, _⟩ | ⟨action, _⟩ | ⟨_, _, inside⟩ := step_cases mode c
  · simp [action] at extended
  · simp [action] at extended
  · exact inside

/-- Only a `#` starts a comment. -/
theorem step_ne_comment {mode : Mode} {c : Char} (outside : mode ≠ .comment) (other : c ≠ '#') :
    (step mode c).2 ≠ .comment := by
  obtain ⟨_, _, _, started⟩ | ⟨_, after⟩ | ⟨_, _, inside⟩ := step_cases mode c
  · exact fun comment => (started comment).elim outside other
  · simp [after]
  · intro comment
    simp [comment, Mode.inWord] at inside

/-- An action that does something leaves at least one word. -/
theorem Action.apply_ne_nil {action : Action} (acts : action ≠ .skip)
    (words : List (List Char)) : action.apply words ≠ [] := by
  cases action with
  | skip => contradiction
  | extend characters => cases words <;> simp [Action.apply]
  | finish => simp [Action.apply]

/-- An action changes no word but the first, and so leaves alone what is added at the end. -/
theorem Action.apply_append {action : Action} {words : List (List Char)}
    (opened : ∀ characters, action = .extend characters → words ≠ [])
    (later : List (List Char)) : action.apply (words ++ later) = action.apply words ++ later := by
  cases action with
  | skip => rfl
  | finish => rfl
  | extend characters =>
    cases words with
    | nil => exact absurd rfl (opened characters rfl)
    | cons word words => rfl

/-- Going on with a word twice is going on with it once. -/
theorem Action.map_extend_extend (first second : List Char)
    (read : Option (List (List Char))) :
    (read.map (Action.extend second).apply).map (Action.extend first).apply =
      read.map (Action.extend (first ++ second)).apply := by
  rw [Option.map_map]
  congr 1
  funext words
  cases words <;> simp [Action.apply]

/-- What is read from inside a word begins with the rest of that word. -/
theorem wordsFrom_ne_nil {mode : Mode} {text : List Char} {words : List (List Char)}
    (inside : mode.inWord = true) (read : wordsFrom mode text = some words) : words ≠ [] := by
  cases text with
  | nil =>
    cases mode with
    | plain =>
      obtain rfl := Option.some.inj read
      simp
    | between | comment => cases inside
    | escape | single | double | doubleEscape => cases read
  | cons c rest =>
    simp only [wordsFrom, Option.map_eq_some_iff] at read
    obtain ⟨later, _, rfl⟩ := read
    exact Action.apply_ne_nil (step_ne_skip inside c) later

/-- A text begins with a separator or is empty. -/
def StartsApart (text : List Char) : Prop := ∀ c ∈ text.head?, isSeparator c = true

/-- A separator ends the open word. -/
theorem wordsFrom_plain_of_startsApart {text : List Char} (apart : StartsApart text) :
    wordsFrom .plain text = (wordsFrom .between text).map ([] :: ·) := by
  cases text with
  | nil => rfl
  | cons c rest =>
    have separates : isSeparator c = true := apart c rfl
    cases later : wordsFrom .between rest with
    | none => simp [wordsFrom, step, separates, later]
    | some words => simp [wordsFrom, step, separates, later, Action.apply]

/-- A text without `#` that can be read from a mode to its end leaves its words alone when more
text follows it after a separator. -/
theorem wordsFrom_append {mode : Mode} {text rest : List Char} {words : List (List Char)}
    (outside : mode ≠ .comment) (uncommented : '#' ∉ text) (apart : StartsApart rest)
    (read : wordsFrom mode text = some words) :
    wordsFrom mode (text ++ rest) = (wordsFrom .between rest).map (words ++ ·) := by
  -- While a word of the text is open there is a first word for the next character to go on with,
  -- so no character of the text reaches a word of what follows.
  induction text generalizing mode words with
  | nil =>
    rw [List.nil_append]
    cases mode with
    | comment => contradiction
    | between =>
      obtain rfl := Option.some.inj read
      simp
    | plain =>
      obtain rfl := Option.some.inj read
      exact wordsFrom_plain_of_startsApart apart
    | escape | single | double | doubleEscape => cases read
  | cons c text ih =>
    simp only [wordsFrom, Option.map_eq_some_iff] at read
    obtain ⟨after, readAfter, rfl⟩ := read
    have hash : c ≠ '#' := fun same => uncommented (by simp [same])
    have uncommentedAfter : '#' ∉ text := fun inside => uncommented (List.mem_cons_of_mem c inside)
    have opened : ∀ characters, (step mode c).1 = .extend characters → after ≠ [] :=
      fun characters extended => wordsFrom_ne_nil (inWord_of_extend extended) readAfter
    rw [List.cons_append, wordsFrom, ih (step_ne_comment outside hash) uncommentedAfter readAfter]
    cases wordsFrom .between rest with
    | none => rfl
    | some later =>
      simp only [Option.map_some]
      rw [Action.apply_append opened]

/-- Wherever no word is open in front of a text, and nothing or a separator follows it, the text
contributes these words. -/
def Reads (text : String) (words : List String) : Prop :=
  ∀ rest, StartsApart rest → wordsFrom .between (text.toList ++ rest) =
    (wordsFrom .between rest).map (words.map String.toList ++ ·)

/-- A text that reads as words has these words. -/
theorem Reads.words?_eq {text : String} {words : List String} (reads : Reads text words) :
    words? text = some words := by
  have alone := reads [] (by simp [StartsApart])
  rw [List.append_nil] at alone
  simp [words?, alone, wordsFrom, Mode.atEnd, Function.comp_def]

/-- Two texts with a space between them read as the words of both. -/
theorem Reads.append {first second : String} {firstWords secondWords : List String}
    (readsFirst : Reads first firstWords) (readsSecond : Reads second secondWords) :
    Reads (first ++ " " ++ second) (firstWords ++ secondWords) := by
  intro rest apart
  have afterSpace : wordsFrom .between (' ' :: (second.toList ++ rest)) =
      wordsFrom .between (second.toList ++ rest) := by
    rw [wordsFrom]
    exact Option.map_id'
  have text : (first ++ " " ++ second).toList ++ rest =
      first.toList ++ ' ' :: (second.toList ++ rest) := by simp
  rw [text, readsFirst _ (by simp [StartsApart, isSeparator]), afterSpace, readsSecond rest apart]
  simp [Function.comp_def]

/-- A text without `#` reads as its shell words, if it has any. -/
theorem reads_of_words? {text : String} {words : List String}
    (accepted : words? text = some words) (uncommented : '#' ∉ text.toList) :
    Reads text words := by
  intro rest apart
  simp only [words?, Option.map_eq_some_iff] at accepted
  obtain ⟨read, readWords, rfl⟩ := accepted
  have back : (read.map String.ofList).map String.toList = read := by simp [Function.comp_def]
  rw [back]
  exact wordsFrom_append (by decide) uncommented apart readWords

end JavaLauncher.Shell
