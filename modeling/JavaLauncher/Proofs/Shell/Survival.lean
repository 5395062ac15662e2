import JavaLauncher.Proofs.Shell.Quoting

/-!
# Arguments that survive quoting

A safe argument is read back from its written form. An unsafe one never is, although its written
form may well have words: a backslash that escapes what it should not may close the argument early,
and what follows is then read outside quotes, where other quotes may open. That the lost characters
never come back is a matter of counting. A reader that drops no single quote reads at least as many
characters as the written form of its words has (`length_written_le`), since a double quote enters
a word only behind a backslash that is dropped. The written form of an argument leaves no room: once
one backslash is dropped before anything but a double quote of the argument, the words are too short
(`words?_quote_eq_iff`).
-/
namespace JavaLauncher.Shell

/-- The characters that an action contributes to the words. -/
def Action.output : Action → List Char
  | .extend characters => characters
  | .skip | .finish => []

/-- What an action contributes stands in front of the characters of the words after it. -/
theorem Action.flatten_apply (action : Action) (words : List (List Char)) :
    (action.apply words).flatten = action.output ++ words.flatten := by
  cases action with
  | skip => rfl
  | finish => rfl
  | extend characters => cases words <;> simp [Action.apply, Action.output]

/-- Reading one character contributes its output to what the rest contributes. -/
theorem exists_flatten_eq {mode : Mode} {c : Char} {rest : List Char} {words : List (List Char)}
    (read : wordsFrom mode (c :: rest) = some words) :
    ∃ later, wordsFrom (step mode c).2 rest = some later ∧
      words.flatten = (step mode c).1.output ++ later.flatten := by
  rw [wordsFrom, Option.map_eq_some_iff] at read
  obtain ⟨later, readLater, rfl⟩ := read
  exact ⟨later, readLater, Action.flatten_apply _ later⟩

/-- The characters of a text as they stand between the quotes. -/
def written (text : List Char) : List Char := text.flatMap quoteChar

/-- The written form of a text begins with that of its first character. -/
theorem written_cons (c : Char) (text : List Char) :
    written (c :: text) = quoteChar c ++ written text := rfl

/-- Texts are written one after the other. -/
theorem written_append (front back : List Char) :
    written (front ++ back) = written front ++ written back := List.flatMap_append

/-- Every character but a double quote is written as itself. -/
theorem quoteChar_of_ne {c : Char} (other : c ≠ '"') : quoteChar c = [c] := by
  simp [quoteChar, other]

/-- At most two characters are written for one. -/
theorem length_quoteChar_le (c : Char) : (quoteChar c).length ≤ 2 := by
  unfold quoteChar
  split <;> simp

/-- Writing adds no single quote. -/
theorem count_written (text : List Char) : (written text).count '\'' = text.count '\'' := by
  induction text with
  | nil => rfl
  | cons c text ih =>
    have first : (quoteChar c).count '\'' = [c].count '\'' := by
      unfold quoteChar
      split
      · rename_i quote
        rw [quote]
        decide
      · rfl
    rw [written_cons, List.count_append, first, ih, ← List.count_append, List.singleton_append]

/-- The double quotes that a mode has still to read before a text can end. -/
def Mode.owed : Mode → Nat
  | .double | .doubleEscape => 1
  | .between | .comment | .plain | .escape | .single => 0

/-- The backslashes that a mode has read without a character for them so far. -/
def Mode.held : Mode → Nat
  | .escape | .doubleEscape => 1
  | .between | .comment | .plain | .single | .double => 0

/-- What a character contributes on the way from one mode to another, neither between single
quotes: no more single quotes than were read, and no more written characters than were read or
held. -/
def Balanced (mode : Mode) (c : Char) (result : Action × Mode) : Prop :=
  mode ≠ .single ∧ result.1.output.count '\'' ≤ [c].count '\'' ∧
    (written result.1.output).length + mode.owed + result.2.held ≤ 1 + mode.held + result.2.owed

/-- A character that contributes nothing is balanced where the modes are. -/
theorem balanced_of_output_nil {mode : Mode} {c : Char} {result : Action × Mode}
    (outside : mode ≠ .single) (nothing : result.1.output = [])
    (modes : mode.owed + result.2.held ≤ 1 + mode.held + result.2.owed) :
    Balanced mode c result := by
  refine ⟨outside, ?_, ?_⟩
  · rw [nothing]
    exact Nat.zero_le _
  · rw [nothing]
    change 0 + mode.owed + result.2.held ≤ _
    omega

/-- A character that contributes itself is balanced where there is room for what is written. -/
theorem balanced_of_output_self {mode : Mode} {c : Char} {result : Action × Mode}
    (outside : mode ≠ .single) (itself : result.1.output = [c])
    (room : (quoteChar c).length + mode.owed + result.2.held ≤
      1 + mode.held + result.2.owed) : Balanced mode c result := by
  have same : written [c] = quoteChar c := List.flatMap_singleton quoteChar c
  refine ⟨outside, ?_, ?_⟩
  · exact Nat.le_of_eq (congrArg (List.count '\'') itself)
  · rw [itself, same]
    exact room

/-- A character of a word, outside quotes, is a single quote, which is dropped, or balanced. -/
theorem plainStep_balanced {mode : Mode} (outside : mode ≠ .single) (even : mode.owed = mode.held)
    (c : Char) : (c = '\'' ∧ (plainStep c).1.output = []) ∨ Balanced mode c (plainStep c) := by
  by_cases quote : c = '"'
  · subst quote
    right
    apply balanced_of_output_nil outside rfl
    change mode.owed + 0 ≤ 1 + mode.held + 1
    omega
  by_cases single : c = '\''
  · subst single
    exact .inl ⟨rfl, rfl⟩
  by_cases backslash : c = '\\'
  · subst backslash
    right
    apply balanced_of_output_nil outside rfl
    change mode.owed + 1 ≤ 1 + mode.held + 0
    omega
  · have extended : plainStep c = (.extend [c], .plain) := by
      simp [plainStep, quote, single, backslash]
    right
    rw [extended]
    apply balanced_of_output_self outside rfl
    change (quoteChar c).length + mode.owed + 0 ≤ 1 + mode.held + 0
    rw [quoteChar_of_ne quote]
    change 1 + mode.owed + 0 ≤ 1 + mode.held + 0
    omega

/-- What follows a backslash between double quotes is balanced: what the backslash escapes may be
written with a backslash of its own, and what it does not comes with the backslash in front. -/
theorem doubleEscape_balanced (c : Char) : Balanced .doubleEscape c (step .doubleEscape c) := by
  by_cases newline : c = '\n'
  · subst newline
    exact balanced_of_output_nil (by decide) rfl (by decide)
  by_cases escaped : isDoubleEscapable c = true
  · have kept : step .doubleEscape c = (.extend [c], .double) := by simp [step, newline, escaped]
    rw [kept]
    apply balanced_of_output_self (by decide) rfl
    exact Nat.add_le_add_right (length_quoteChar_le c) 1
  · have kept : step .doubleEscape c = (.extend ['\\', c], .double) := by
      simp [step, newline, escaped]
    have quote : c ≠ '"' := by
      rintro rfl
      exact escaped (by decide)
    have same : written ['\\', c] = ['\\', c] := by
      rw [written_cons, written, List.flatMap_singleton, quoteChar_of_ne quote]
      rfl
    rw [kept]
    refine ⟨by decide, ?_, ?_⟩
    · exact Nat.le_of_eq (List.count_cons_of_ne (by decide))
    · change (written ['\\', c]).length + 1 + 0 ≤ 1 + 1 + 1
      rw [same]
      exact Nat.le_refl _

/-- What one character does: a single quote is dropped, or what is read stays between single
quotes, or it is balanced. -/
theorem step_balanced (mode : Mode) (c : Char) :
    (c = '\'' ∧ (step mode c).1.output = []) ∨
      (mode = .single ∧ step mode c = (.extend [c], .single)) ∨ Balanced mode c (step mode c) := by
  cases mode with
  | between =>
    by_cases separates : isSeparator c = true
    · have skipped : step .between c = (.skip, .between) := by simp [step, separates]
      rw [skipped]
      exact .inr (.inr (balanced_of_output_nil (by decide) rfl (by decide)))
    by_cases hash : c = '#'
    · subst hash
      exact .inr (.inr (balanced_of_output_nil (by decide) rfl (by decide)))
    · have opened : step .between c = plainStep c := by simp [step, separates, hash]
      rw [opened]
      exact (plainStep_balanced (by decide) rfl c).imp id .inr
  | comment =>
    right
    right
    by_cases newline : c = '\n'
    · subst newline
      exact balanced_of_output_nil (by decide) rfl (by decide)
    · have skipped : step .comment c = (.skip, .comment) := by simp [step, newline]
      rw [skipped]
      exact balanced_of_output_nil (by decide) rfl (by decide)
  | plain =>
    by_cases separates : isSeparator c = true
    · have ended : step .plain c = (.finish, .between) := by simp [step, separates]
      rw [ended]
      exact .inr (.inr (balanced_of_output_nil (by decide) rfl (by decide)))
    · have extended : step .plain c = plainStep c := by simp [step, separates]
      rw [extended]
      exact (plainStep_balanced (by decide) rfl c).imp id .inr
  | escape =>
    right
    right
    by_cases newline : c = '\n'
    · subst newline
      exact balanced_of_output_nil (by decide) rfl (by decide)
    · have kept : step .escape c = (.extend [c], .plain) := by simp [step, newline]
      rw [kept]
      exact balanced_of_output_self (by decide) rfl (length_quoteChar_le c)
  | single =>
    by_cases quote : c = '\''
    · subst quote
      exact .inl ⟨rfl, rfl⟩
    · exact .inr (.inl ⟨rfl, by simp [step, quote]⟩)
  | double =>
    right
    right
    by_cases quote : c = '"'
    · subst quote
      exact balanced_of_output_nil (by decide) rfl (by decide)
    by_cases backslash : c = '\\'
    · subst backslash
      exact balanced_of_output_nil (by decide) rfl (by decide)
    · have kept : step .double c = (.extend [c], .double) := by simp [step, quote, backslash]
      rw [kept]
      apply balanced_of_output_self (by decide) rfl
      rw [quoteChar_of_ne quote]
      exact Nat.le_refl _
  | doubleEscape => exact .inr (.inr (doubleEscape_balanced c))

/-- Either a text loses a single quote on its way to the words, or it has at least as many
characters as are written for the words, the closing quotes included and the backslashes in front
of it counted in. -/
theorem lost_or_length_written_le {mode : Mode} {text : List Char} {words : List (List Char)}
    (read : wordsFrom mode text = some words) :
    words.flatten.count '\'' < text.count '\'' ∨
      (mode ≠ .single ∧ words.flatten.count '\'' ≤ text.count '\'' ∧
        (written words.flatten).length + mode.owed ≤ text.length + mode.held) := by
  induction text generalizing mode words with
  | nil =>
    right
    cases mode with
    | between | comment | plain =>
      obtain rfl := Option.some.inj read
      decide
    | escape | single | double | doubleEscape => cases read
  | cons c text ih =>
    obtain ⟨after, readAfter, contributed⟩ := exists_flatten_eq read
    have later := ih readAfter
    have whole : (c :: text).count '\'' = [c].count '\'' + text.count '\'' := by
      rw [← List.count_append, List.singleton_append]
    rw [contributed, List.count_append, whole, written_append, List.length_append,
      List.length_cons]
    rcases step_balanced mode c with ⟨quote, dropped⟩ | ⟨inside, kept⟩ | balanced
    · left
      have one : [c].count '\'' = 1 := by rw [quote]; rfl
      have none : (step mode c).1.output.count '\'' = 0 := by rw [dropped]; rfl
      omega
    · -- Single quotes have to be closed, so the closing one is dropped further on.
      left
      rw [kept] at later
      have same : (step mode c).1.output.count '\'' = [c].count '\'' := by rw [kept]; rfl
      rcases later with lost | ⟨outside, _⟩
      · omega
      · exact absurd rfl outside
    · obtain ⟨outside, fewer, room⟩ := balanced
      rcases later with lost | ⟨_, fewerLater, roomLater⟩
      · left
        omega
      · right
        refine ⟨outside, ?_, ?_⟩
        · omega
        · omega

/-- A text that loses no single quote has at least as many characters as are written for its
words. -/
theorem length_written_le {mode : Mode} {text : List Char} {words : List (List Char)}
    (read : wordsFrom mode text = some words)
    (kept : words.flatten.count '\'' = text.count '\'') :
    (written words.flatten).length + mode.owed ≤ text.length + mode.held := by
  rcases lost_or_length_written_le read with lost | ⟨_, _, short⟩
  · omega
  · exact short

/-- Where the written form of the rest of an argument contributes this rest and something before
it, there is little room for that. -/
theorem length_written_front_le {mode : Mode} {front rest : List Char} {words : List (List Char)}
    (read : wordsFrom mode (written rest ++ ['"']) = some words)
    (same : words.flatten = front ++ rest) (plain : front.count '\'' = 0) :
    (written front).length + mode.owed ≤ 1 + mode.held := by
  have kept : words.flatten.count '\'' = (written rest ++ ['"']).count '\'' := by
    rw [same, List.count_append, List.count_append, count_written, plain]
    exact Nat.zero_add _
  have short := length_written_le read kept
  rw [same, written_append, List.length_append, List.length_append] at short
  change (written front).length + (written rest).length + mode.owed ≤
    (written rest).length + 1 + mode.held at short
  omega

/-- Between double quotes, a backslash before a character that it escapes is lost for good: the
words are not what the backslash, the character and the rest were written for. -/
theorem flatten_ne_of_escape {c : Char} {rest : List Char} {words : List (List Char)}
    (escaped : c ∈ doubleEscapes)
    (read : wordsFrom .double (written ('\\' :: c :: rest) ++ ['"']) = some words) :
    words.flatten ≠ '\\' :: c :: rest := by
  intro same
  have opened : wordsFrom .double ('\\' :: (written (c :: rest) ++ ['"'])) = some words := read
  obtain ⟨afterBackslash, readBackslash, nothing⟩ := exists_flatten_eq opened
  have unchanged : words.flatten = afterBackslash.flatten := nothing
  rw [unchanged] at same
  simp only [doubleEscapes, List.mem_cons, List.not_mem_nil, or_false] at escaped
  rcases escaped with rfl | rfl | rfl | rfl | rfl
  · obtain ⟨later, _, dollar⟩ := exists_flatten_eq readBackslash
    rw [dollar] at same
    exact absurd (List.cons.inj same).1 (by decide)
  · obtain ⟨later, _, backquote⟩ := exists_flatten_eq readBackslash
    rw [backquote] at same
    exact absurd (List.cons.inj same).1 (by decide)
  · -- The backslash that was written for the quote is read in place of the one before it, and the
    -- quote closes.
    obtain ⟨afterQuote, readQuote, backslash⟩ := exists_flatten_eq readBackslash
    obtain ⟨later, readLater, closed⟩ := exists_flatten_eq readQuote
    have sameLater : later.flatten = ['"'] ++ rest := by
      rw [backslash, closed] at same
      exact (List.cons.inj same).2
    have room := length_written_front_le readLater sameLater (by decide)
    exact absurd room (by decide)
  · obtain ⟨later, readLater, backslash⟩ := exists_flatten_eq readBackslash
    have sameLater : later.flatten = ['\\'] ++ rest := by
      rw [backslash] at same
      exact (List.cons.inj same).2
    have room := length_written_front_le readLater sameLater (by decide)
    exact absurd room (by decide)
  · obtain ⟨later, readLater, joined⟩ := exists_flatten_eq readBackslash
    have sameLater : later.flatten = ['\\', '\n'] ++ rest := by
      rw [joined] at same
      exact same
    have room := length_written_front_le readLater sameLater (by decide)
    exact absurd room (by decide)

/-- Between double quotes, the written form of a character contributes the character, unless it is
a backslash that ends the text or escapes what follows. -/
theorem exists_read_written {c : Char} {rest : List Char} {words : List (List Char)}
    (safe : c = '\\' → ∃ next, rest.head? = some next ∧ next ∉ doubleEscapes)
    (read : wordsFrom .double (written (c :: rest) ++ ['"']) = some words) :
    ∃ later, wordsFrom .double (written rest ++ ['"']) = some later ∧
      words.flatten = c :: later.flatten := by
  by_cases quote : c = '"'
  · subst quote
    obtain ⟨afterBackslash, readBackslash, nothing⟩ := exists_flatten_eq read
    obtain ⟨later, readLater, escaped⟩ := exists_flatten_eq readBackslash
    exact ⟨later, readLater, nothing.trans escaped⟩
  rw [written_cons, quoteChar_of_ne quote] at read
  obtain ⟨later, readLater, kept⟩ := exists_flatten_eq read
  by_cases backslash : c = '\\'
  · subst backslash
    obtain ⟨next, starts, other⟩ := safe rfl
    obtain ⟨after, rfl⟩ := List.head?_eq_some_iff.1 starts
    have plain : next ≠ '"' := by
      rintro rfl
      exact other (by decide)
    have front : written (next :: after) ++ ['"'] = next :: (written after ++ ['"']) := by
      rw [written_cons, quoteChar_of_ne plain]
      rfl
    -- The backslash is held until the character after it shows that it escapes nothing.
    change wordsFrom .doubleEscape (written (next :: after) ++ ['"']) = some later at readLater
    rw [front, wordsFrom_doubleEscape other, ← front, Option.map_eq_some_iff] at readLater
    obtain ⟨unescaped, readUnescaped, rfl⟩ := readLater
    rw [Action.flatten_apply] at kept
    exact ⟨unescaped, readUnescaped, kept⟩
  · have stays : step .double c = (.extend [c], .double) := by simp [step, quote, backslash]
    rw [stays] at readLater kept
    exact ⟨later, readLater, kept⟩

/-- An argument is safe if what stands between its quotes, up to the closing one, contributes the
argument to the words. -/
theorem backslashSafe_of_flatten {argument : List Char} {words : List (List Char)}
    (read : wordsFrom .double (written argument ++ ['"']) = some words)
    (same : words.flatten = argument) : BackslashSafe argument := by
  induction argument generalizing words with
  | nil => exact backslashSafe_nil
  | cons c rest ih =>
    have safe : c = '\\' → ∃ next, rest.head? = some next ∧ next ∉ doubleEscapes := by
      rintro rfl
      cases rest with
      | nil => cases read
      | cons next after =>
        exact ⟨next, rfl, fun escaped => flatten_ne_of_escape escaped read same⟩
    obtain ⟨later, readLater, kept⟩ := exists_read_written safe read
    rw [kept] at same
    exact backslashSafe_cons.2 ⟨safe, ih readLater (List.cons.inj same).2⟩

/-- The one word of the written form of an argument is the argument exactly when no backslash of the
argument ends it or stands before a character that it escapes between double quotes. -/
theorem words?_quote_eq_iff (argument : String) :
    words? (quote argument) = some [argument] ↔ BackslashSafe argument.toList := by
  constructor
  · intro survives
    rw [words?, toList_quote, Option.map_eq_some_iff] at survives
    obtain ⟨words, read, same⟩ := survives
    have characters : words.flatten = argument.toList := by
      have back : words = (words.map String.ofList).map String.toList := by simp
      rw [back, same]
      simp
    obtain ⟨later, readLater, opened⟩ := exists_flatten_eq read
    exact backslashSafe_of_flatten readLater (opened.symm.trans characters)
  · intro safe
    exact (reads_quote safe).words?_eq

/-- A backslash that is lost can let the quotes after it close and open again, so that the written
form has words all the same. -/
example : words? (quote "a\\\" b c\\\"d") = some ["a\\", "b", "c\\d"] := by decide

end JavaLauncher.Shell
