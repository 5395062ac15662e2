import JavaLauncher.Proofs.Shell.Reading
import JavaLauncher.Shell.Quote

/-!
# Reading quoted arguments

An argument is quoted without a change to its backslashes, so a backslash of its own may meet a
character that it escapes between double quotes: the next one of the argument, or the closing
quote. A text is safe when no backslash does (`BackslashSafe`), and a safe argument is read back
from its written form as the one word it is (`reads_quote`).
-/
namespace JavaLauncher.Shell

/-- The characters that a backslash escapes inside double quotes. -/
def doubleEscapes : List Char := ['$', '\x60', '"', '\\', '\n']

/-- Every backslash of a text is followed in it by a character that it does not escape inside
double quotes. -/
def BackslashSafe (text : List Char) : Prop :=
  ∀ before after, text = before ++ '\\' :: after →
    ∃ next, after.head? = some next ∧ next ∉ doubleEscapes

/-- The splitter knows the same escapes, the newline apart. -/
theorem not_mem_doubleEscapes {c : Char} :
    c ∉ doubleEscapes ↔ c ≠ '\n' ∧ isDoubleEscapable c = false := by
  simp only [doubleEscapes, isDoubleEscapable, List.mem_cons, List.not_mem_nil, or_false, not_or,
    Bool.or_eq_false_iff, beq_eq_false_iff_ne]
  constructor
  · rintro ⟨dollar, backquote, quote, backslash, newline⟩
    exact ⟨newline, ⟨⟨dollar, backquote⟩, quote⟩, backslash⟩
  · rintro ⟨newline, ⟨⟨dollar, backquote⟩, quote⟩, backslash⟩
    exact ⟨dollar, backquote, quote, backslash, newline⟩

/-- A text without characters is safe. -/
theorem backslashSafe_nil : BackslashSafe [] := by
  intro before after text
  cases before <;> cases text

/-- A text is safe when it is safe after its first character and, if that is a backslash, what
follows it is not escaped. -/
theorem backslashSafe_cons {c : Char} {text : List Char} :
    BackslashSafe (c :: text) ↔
      (c = '\\' → ∃ next, text.head? = some next ∧ next ∉ doubleEscapes) ∧
        BackslashSafe text := by
  constructor
  · intro safe
    refine ⟨fun backslash => safe [] text (by rw [backslash, List.nil_append]), ?_⟩
    intro before after split
    exact safe (c :: before) after (by rw [split, List.cons_append])
  · rintro ⟨first, later⟩ before after split
    cases before with
    | nil =>
      obtain ⟨rfl, rfl⟩ := List.cons.inj split
      exact first rfl
    | cons d before => exact later before after (List.cons.inj split).2

instance BackslashSafe.decide : (text : List Char) → Decidable (BackslashSafe text)
  | [] => .isTrue backslashSafe_nil
  | c :: text =>
    have : Decidable (BackslashSafe text) := BackslashSafe.decide text
    have : Decidable (∃ next, text.head? = some next ∧ next ∉ doubleEscapes) :=
      match text with
      | [] => .isFalse (by simp)
      | d :: _ => decidable_of_iff (d ∉ doubleEscapes) (by simp)
    decidable_of_iff _ backslashSafe_cons.symm

/-- Between double quotes, a backslash before a character that it does not escape is read as an
ordinary character. -/
theorem wordsFrom_doubleEscape {c : Char} (other : c ∉ doubleEscapes) (rest : List Char) :
    wordsFrom .doubleEscape (c :: rest) =
      (wordsFrom .double (c :: rest)).map (Action.extend ['\\']).apply := by
  obtain ⟨newline, escaped⟩ := not_mem_doubleEscapes.1 other
  have quote : c ≠ '"' := fun same => by simp [same, isDoubleEscapable] at escaped
  have backslash : c ≠ '\\' := fun same => by simp [same, isDoubleEscapable] at escaped
  simp only [wordsFrom, step, newline, escaped, quote, backslash, ↓reduceIte, Bool.false_eq_true]
  exact (Action.map_extend_extend ['\\'] [c] _).symm

/-- What stands between double quotes is read up to the closing quote as the argument that it
was written for, if that is safe. -/
theorem wordsFrom_double_quoted {argument : List Char} (safe : BackslashSafe argument)
    (rest : List Char) :
    wordsFrom .double (argument.flatMap quoteChar ++ '"' :: rest) =
      (wordsFrom .plain rest).map (Action.extend argument).apply := by
  induction argument with
  | nil => rfl
  | cons c argument ih =>
    obtain ⟨first, later⟩ := backslashSafe_cons.1 safe
    let quoted := argument.flatMap quoteChar ++ '"' :: rest
    have afterFirst : (wordsFrom .double quoted).map (Action.extend [c]).apply =
        (wordsFrom .plain rest).map (Action.extend (c :: argument)).apply := by
      rw [ih later, Action.map_extend_extend, List.singleton_append]
    rw [← afterFirst]
    by_cases quote : c = '"'
    · subst quote
      exact Action.map_extend_extend [] ['"'] (wordsFrom .double quoted)
    by_cases backslash : c = '\\'
    · subst backslash
      -- The backslash becomes a character of the word only through the one that follows it.
      obtain ⟨next, atFront, other⟩ := first rfl
      obtain ⟨following, rfl⟩ := List.head?_eq_some_iff.1 atFront
      have nextQuote : next ≠ '"' := fun same => other (by simp [same, doubleEscapes])
      have front : quoted = next :: (following.flatMap quoteChar ++ '"' :: rest) := by
        simp [quoted, quoteChar, nextQuote]
      have escaped : wordsFrom .doubleEscape quoted =
          (wordsFrom .double quoted).map (Action.extend ['\\']).apply := by
        rw [front]
        exact wordsFrom_doubleEscape other _
      calc
        wordsFrom .double ('\\' :: quoted) =
            (wordsFrom .doubleEscape quoted).map (Action.extend []).apply := rfl
        _ = (wordsFrom .double quoted).map (Action.extend ['\\']).apply := by
          rw [escaped, Action.map_extend_extend, List.nil_append]
    · simp [quoted, quoteChar, quote, wordsFrom, step, backslash]

/-- A safe argument is read back from its written form. -/
theorem reads_quote {argument : String} (safe : BackslashSafe argument.toList) :
    Reads (quote argument) [argument] := by
  intro rest apart
  have opened : wordsFrom .between ((quote argument).toList ++ rest) =
      (wordsFrom .double (argument.toList.flatMap quoteChar ++ '"' :: rest)).map
        (Action.extend []).apply := by
    simp [quoteChars, wordsFrom, step, plainStep, isSeparator]
  rw [opened, wordsFrom_double_quoted safe, Action.map_extend_extend,
    wordsFrom_plain_of_startsApart apart, Option.map_map]
  simp [Function.comp_def, Action.apply]

/-- A text without double quotes needs no escapes between them. -/
theorem quote_of_not_mem {text : String} (unquoted : '"' ∉ text.toList) :
    quote text = "\"" ++ text ++ "\"" := by
  have unchanged : ∀ characters : List Char, '"' ∉ characters →
      characters.flatMap quoteChar = characters := by
    intro characters outside
    induction characters with
    | nil => rfl
    | cons c characters ih =>
      have other : c ≠ '"' := fun same => outside (by simp [same])
      have later : '"' ∉ characters := fun inside => outside (List.mem_cons_of_mem c inside)
      simp [quoteChar, other, ih later]
  apply String.toList_inj.1
  simp [quoteChars, unchanged _ unquoted]

end JavaLauncher.Shell
