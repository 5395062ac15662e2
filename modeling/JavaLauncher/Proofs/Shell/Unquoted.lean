import JavaLauncher.Proofs.Shell.Reading
import JavaLauncher.Proofs.Text.Runs
import JavaLauncher.Text.Blank

/-!
# Texts that are refused and texts without quotes

A text has no shell words exactly where a quote is left open in it or a backslash ends it
(`words?_eq_none_iff`). A text without quotes, backslashes and `#` is never refused: its words are
what stands between white space, provided that it holds no white space but the characters that
separate shell words (`words?_of_unquoted`).
-/
namespace JavaLauncher.Shell

/-- Where the splitter stands at the end of a text that it reads from a mode on. -/
def modeAfter (mode : Mode) (text : List Char) : Mode :=
  text.foldl (fun mode c => (step mode c).2) mode

/-- A text ends inside quotes or right after a backslash. -/
def LeftOpen (text : String) : Prop :=
  modeAfter .between text.toList ∈ [Mode.single, Mode.double, Mode.doubleEscape, Mode.escape]

/-- Nothing is read from a mode on where the splitter then stands in a mode that may not be the
last. -/
theorem wordsFrom_eq_none_iff {mode : Mode} {text : List Char} :
    wordsFrom mode text = none ↔ (modeAfter mode text).atEnd = none := by
  induction text generalizing mode with
  | nil => exact Iff.rfl
  | cons c rest ih =>
    rw [wordsFrom, Option.map_eq_none_iff, ih]
    exact Iff.rfl

/-- A text has no words where a quote is left open or a backslash ends it, and only there. -/
theorem words?_eq_none_iff {text : String} : words? text = none ↔ LeftOpen text := by
  rw [words?, Option.map_eq_none_iff, wordsFrom_eq_none_iff, LeftOpen]
  cases modeAfter .between text.toList <;> simp [Mode.atEnd]

/-- A character that a shell reads as it is, or a separator of its words: no quote, backslash or
`#`, and no other white space. -/
def Ordinary (c : Char) : Prop :=
  c ∉ ['\'', '"', '\\', '#'] ∧ (Text.isBlank c = true → c ∈ [' ', '\t', '\n'])

instance : DecidablePred Ordinary := fun c =>
  inferInstanceAs (Decidable (c ∉ ['\'', '"', '\\', '#'] ∧
    (Text.isBlank c = true → c ∈ [' ', '\t', '\n'])))

/-- A text of ordinary characters. -/
def Unquoted (text : String) : Prop := ∀ c ∈ text.toList, Ordinary c

instance : DecidablePred Unquoted := fun text => List.decidableBAll Ordinary text.toList

/-- What separates the words of a shell is white space. -/
theorem isBlank_of_isSeparator {c : Char} (separates : isSeparator c = true) :
    Text.isBlank c = true := by
  simp only [isSeparator, Bool.or_eq_true, beq_iff_eq] at separates
  rcases separates with (rfl | rfl) | rfl <;> decide

/-- The white space of an unquoted text separates words. -/
theorem Ordinary.isSeparator_of_isBlank {c : Char} (ordinary : Ordinary c)
    (blank : Text.isBlank c = true) : isSeparator c = true := by
  simpa [isSeparator, or_assoc] using ordinary.2 blank

/-- Outside quotes, an ordinary character that is not white space goes on with a word. -/
theorem Ordinary.step_eq {c : Char} (ordinary : Ordinary c) (plain : Text.isBlank c = false)
    {mode : Mode} (outside : mode = .between ∨ mode = .plain) :
    step mode c = (.extend [c], .plain) := by
  have apart : isSeparator c = false := by
    rw [← Bool.not_eq_true]
    intro separates
    rw [isBlank_of_isSeparator separates] at plain
    cases plain
  have marks := ordinary.1
  simp only [List.mem_cons, List.not_mem_nil, or_false, not_or] at marks
  obtain ⟨single, double, backslash, hash⟩ := marks
  rcases outside with rfl | rfl
  · simp [step, plainStep, apart, hash, double, single, backslash]
  · simp [step, plainStep, apart, double, single, backslash]

/-- Outside quotes, a run of ordinary characters goes on with a word. -/
theorem wordsFrom_run {run : List Char} (nonempty : run ≠ []) (ordinary : ∀ c ∈ run, Ordinary c)
    (plain : ∀ c ∈ run, Text.isBlank c = false) {mode : Mode}
    (outside : mode = .between ∨ mode = .plain) (rest : List Char) :
    wordsFrom mode (run ++ rest) = (wordsFrom .plain rest).map (Action.extend run).apply := by
  induction run generalizing mode with
  | nil => contradiction
  | cons c run ih =>
    have first : step mode c = (.extend [c], .plain) :=
      (ordinary c List.mem_cons_self).step_eq (plain c List.mem_cons_self) outside
    rw [List.cons_append, wordsFrom, first]
    cases run with
    | nil => rfl
    | cons d run =>
      have others := ih (List.cons_ne_nil d run)
        (fun e member => ordinary e (List.mem_cons_of_mem c member))
        (fun e member => plain e (List.mem_cons_of_mem c member)) (.inr rfl)
      rw [others, Action.map_extend_extend, List.singleton_append]

/-- The words of an unquoted text are its runs between white space. -/
theorem wordsFrom_of_runs {text : List Char} {runs : List (List Char)}
    (found : Text.Runs Text.isBlank text runs) (ordinary : ∀ c ∈ text, Ordinary c) :
    wordsFrom .between text = some runs := by
  induction found with
  | nil => rfl
  | @separator c rest runs blank _ ih =>
    have separates := (ordinary c List.mem_cons_self).isSeparator_of_isBlank blank
    have others := ih fun d member => ordinary d (List.mem_cons_of_mem c member)
    simp [wordsFrom, step, separates, others, Action.apply]
  | @run run rest runs nonempty plain ends _ ih =>
    have inside : ∀ c ∈ run, Ordinary c := fun c member =>
      ordinary c (List.mem_append_left rest member)
    have after : ∀ c ∈ rest, Ordinary c := fun c member =>
      ordinary c (List.mem_append_right run member)
    have apart : StartsApart rest := fun c first =>
      (after c (List.mem_of_mem_head? first)).isSeparator_of_isBlank (ends c first)
    rw [wordsFrom_run nonempty inside plain (.inl rfl), wordsFrom_plain_of_startsApart apart,
      ih after]
    simp [Action.apply]

/-- The shell words of an unquoted text are what stands between white space. -/
theorem words?_of_unquoted {text : String} (unquoted : Unquoted text) :
    words? text = some (Text.blankWords text) := by
  have found := Text.fields_eq_iff.1 (Eq.refl (Text.fields Text.isBlank text))
  rw [words?, wordsFrom_of_runs found unquoted, Option.map_some, List.map_map]
  simp [Text.blankWords]

end JavaLauncher.Shell
