import JavaLauncher.CommandLine
import JavaLauncher.Proofs.Shell.Unquoted

/-!
# The words of extra arguments

Extra arguments come as one text. On the line the text stands as it is; for the list of arguments
it is split, into shell words or, where it has none, at white space. Two splitters so serve one
purpose. Where the first gives up, nothing of its work is left and the second loses no character
but white space; where the text has no quotes it does not matter which of them splits it
(`addExtra_exact`).
-/
namespace JavaLauncher

/-- The empty text has no extra arguments. -/
theorem Part.extraWords_empty : Part.extraWords "" = [] := rfl

/-- Extra arguments that have shell words are these words. -/
theorem Part.extraWords_of_words? {text : String} {read : List String}
    (accepted : Shell.words? text = some read) : Part.extraWords text = read := by
  rw [Part.extraWords, accepted, Option.getD_some]

/-- Extra arguments that have no shell words are what stands between white space. -/
theorem Part.extraWords_of_refused {text : String} (refused : Shell.words? text = none) :
    Part.extraWords text = Text.blankWords text := by
  rw [Part.extraWords, refused, Option.getD_none]

namespace CommandLine

/-- Extra arguments follow the arguments that were there. -/
theorem arguments_addExtra (commandLine : CommandLine) (text : String) :
    (commandLine.addExtra text).arguments =
      commandLine.arguments ++ Part.extraWords text := by
  by_cases empty : text = ""
  · simp [addExtra, empty, Part.extraWords_empty]
  · simp [addExtra, empty, arguments_add, Part.arguments]

/-- A text of extra arguments that is not empty follows the line that was there, after a space. -/
theorem line_addExtra (commandLine : CommandLine) (text : String) :
    (commandLine.addExtra text).line =
      commandLine.line ++ if text = "" then "" else " " ++ text := by
  by_cases empty : text = ""
  · simp [addExtra, empty]
  · simp [addExtra, empty, line_add, Part.written]

/-- Extra arguments are added at the end, to the line as the text that they are and to the
arguments as words. Shell words are taken where there are any, and there are none exactly where the
text leaves a quote open or ends in a backslash. Then no word is empty or holds white space, and
together they are the text without its white space. Where the text holds no quote, no backslash, no
`#` and no white space but spaces, tabs and newlines, it has shell words, and they are its runs
between white space. -/
theorem addExtra_exact (commandLine : CommandLine) (text : String) :
    ∃ words : List String,
      (commandLine.addExtra text).arguments = commandLine.arguments ++ words ∧
      (commandLine.addExtra text).line =
        commandLine.line ++ (if text = "" then "" else " " ++ text) ∧
      (∀ read, Shell.words? text = some read → words = read) ∧
      (Shell.words? text = none ↔ Shell.LeftOpen text) ∧
      (Shell.words? text = none →
        (∀ word ∈ words, word ≠ "" ∧ ∀ c ∈ word.toList, Text.isBlank c = false) ∧
        String.join words = String.ofList (text.toList.filter (!Text.isBlank ·))) ∧
      (Shell.Unquoted text →
        Shell.words? text = some words ∧ words = Text.blankWords text ∧
        Text.Runs Text.isBlank text.toList (words.map String.toList)) := by
  refine ⟨Part.extraWords text, arguments_addExtra commandLine text,
    line_addExtra commandLine text, fun _ => Part.extraWords_of_words?, Shell.words?_eq_none_iff,
    fun refused => ?_, fun unquoted => ?_⟩
  · rw [Part.extraWords_of_refused refused]
    refine ⟨fun word member => ?_, Text.join_fields Text.isBlank text⟩
    exact ⟨Text.ne_empty_of_mem_fields member, Text.plain_of_mem_fields member⟩
  · have accepted := Shell.words?_of_unquoted unquoted
    rw [Part.extraWords_of_words? accepted]
    exact ⟨accepted, rfl, Text.fields_eq_iff.1 rfl⟩

/-- A quote that is left open and a backslash at the end are kept, and a no-break space separates
words like any other white space; a text without them has shell words. -/
theorem addExtra_exact_unbalanced :
    Shell.words? "-Xmx1g \"-ea \u00a0b\\" = none ∧
      (∃ words, ((ofProgram "java").addExtra "-Xmx1g \"-ea \u00a0b\\").arguments = words ∧
        String.join words = "-Xmx1g\"-eab\\") ∧
      Shell.Unquoted "-Xmx1g\t-ea\n" ∧
      ((ofProgram "java").addExtra "-Xmx1g\t-ea\n").arguments = ["-Xmx1g", "-ea"] := by
  obtain ⟨words, added, _, _, _, fallback, _⟩ :=
    addExtra_exact (ofProgram "java") "-Xmx1g \"-ea \u00a0b\\"
  have refused : Shell.words? "-Xmx1g \"-ea \u00a0b\\" = none := by decide
  obtain ⟨plain, plainAdded, _, _, _, _, agree⟩ :=
    addExtra_exact (ofProgram "java") "-Xmx1g\t-ea\n"
  have unquoted : Shell.Unquoted "-Xmx1g\t-ea\n" := by decide
  have split : plain = ["-Xmx1g", "-ea"] := by
    rw [(agree unquoted).2.1]
    decide
  refine ⟨refused, ⟨words, added, ?_⟩, unquoted, ?_⟩
  · rw [(fallback refused).2]
    decide
  · rw [plainAdded, split]
    rfl

end CommandLine

end JavaLauncher
