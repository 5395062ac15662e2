import JavaLauncher.CommandLine
import JavaLauncher.Proofs.Shell.Quoting

/-!
# Agreement of the two readings of a command line

A command line is assembled from a program by any number of additions, in any order. Its line
and its arguments are made from the parts apart from each other; they agree when a shell reads
the line as the program and the arguments. Agreement is an invariant of assembly: each addition
that is readable keeps it (`Agrees.extended`), so every assembled line is split into exactly the
words it was assembled from (`words_line_assembled`).
-/
namespace JavaLauncher

open Shell (BackslashSafe Reads backslashSafe_cons quote_of_not_mem reads_of_words? reads_quote)

/-- A text that may stand between double quotes as it is. -/
def Quotable (text : String) : Prop := BackslashSafe text.toList ∧ '"' ∉ text.toList

instance (text : String) : Decidable (Quotable text) :=
  inferInstanceAs (Decidable (BackslashSafe text.toList ∧ '"' ∉ text.toList))

/-- One step of the assembly of a command line. -/
inductive Addition where
  /-- Extra arguments in one text. -/
  | extra (text : String)
  /-- A system property. -/
  | property (name value : String)
  /-- The archive that holds the program to run. -/
  | mainArchive (path : String)
  /-- The announcement of a script's arguments, if there is a script. -/
  | scriptMarker (isScript : Bool)
  /-- Arguments of the program to run. -/
  | programArguments (texts : List String)

/-- An addition of texts that a shell can read: extra arguments that have shell words and no `#`,
properties and archives that may stand between double quotes, and arguments with safe
backslashes. -/
def Addition.Readable : Addition → Prop
  | .extra text => (Shell.words? text).isSome = true ∧ '#' ∉ text.toList
  | .property name value => Quotable (name ++ "=" ++ value)
  | .mainArchive path => Quotable path
  | .scriptMarker _ => True
  | .programArguments texts => ∀ text ∈ texts, BackslashSafe text.toList

instance : DecidablePred Addition.Readable
  | .extra text => inferInstanceAs (Decidable ((Shell.words? text).isSome = true ∧ _))
  | .property name value => inferInstanceAs (Decidable (Quotable (name ++ "=" ++ value)))
  | .mainArchive path => inferInstanceAs (Decidable (Quotable path))
  | .scriptMarker _ => inferInstanceAs (Decidable True)
  | .programArguments texts =>
    inferInstanceAs (Decidable (∀ text ∈ texts, BackslashSafe text.toList))

/-- A text that may stand between double quotes reads as one word there. -/
theorem Quotable.reads {text : String} (quotable : Quotable text) :
    Reads ("\"" ++ text ++ "\"") [text] := by
  rw [← quote_of_not_mem quotable.2]
  exact reads_quote quotable.1

/-- A property is as good between double quotes as its name and value. -/
theorem quotable_propertyText {name value : String} (quotable : Quotable (name ++ "=" ++ value)) :
    Quotable (Part.propertyText name value) := by
  have text : (Part.propertyText name value).toList =
      '-' :: 'D' :: (name ++ "=" ++ value).toList := by
    simp [Part.propertyText]
  obtain ⟨safe, unquoted⟩ := quotable
  unfold Quotable
  rw [text]
  constructor
  · simpa [backslashSafe_cons] using safe
  · simpa using unquoted

/-- The parts that an addition adds. -/
def Addition.parts : Addition → List Part
  | .extra text => if nonempty : text ≠ "" then [.extra text nonempty] else []
  | .property name value => [.property name value]
  | .mainArchive path => [.mainArchive path]
  | .scriptMarker isScript => if isScript then [.scriptMarker] else []
  | .programArguments texts => texts.map .argument

/-- A shell reads each part of a readable addition as its arguments. -/
theorem Addition.Readable.reads {addition : Addition} (readable : addition.Readable) :
    ∀ part ∈ addition.parts, Reads part.written part.arguments := by
  intro part inside
  cases addition with
  | extra text =>
    by_cases nonempty : text ≠ ""
    · obtain ⟨accepted, uncommented⟩ := readable
      obtain ⟨words, read⟩ := Option.isSome_iff_exists.1 accepted
      obtain rfl : part = .extra text nonempty := by simpa [parts, nonempty] using inside
      have reads : Reads text words := reads_of_words? read uncommented
      simpa [Part.written, Part.arguments, Part.extraWords, read] using reads
    · simp [parts, nonempty] at inside
  | property name value =>
    obtain rfl := List.mem_singleton.1 inside
    exact (quotable_propertyText readable).reads
  | mainArchive path =>
    obtain rfl := List.mem_singleton.1 inside
    have flag : Reads "-jar" ["-jar"] := reads_of_words? (by decide) (by decide)
    have written : (Part.mainArchive path).written = "-jar" ++ " " ++ ("\"" ++ path ++ "\"") := by
      apply String.toList_inj.1
      simp [Part.written]
    rw [written]
    exact flag.append (Quotable.reads readable)
  | scriptMarker isScript =>
    cases isScript with
    | false => cases inside
    | true =>
      obtain rfl := List.mem_singleton.1 inside
      exact reads_of_words? (by decide) (by decide)
  | programArguments texts =>
    obtain ⟨text, given, rfl⟩ := List.mem_map.1 inside
    exact reads_quote (readable text given)

namespace CommandLine

/-- A command line after one more addition. -/
def extended (commandLine : CommandLine) : Addition → CommandLine
  | .extra text => commandLine.addExtra text
  | .property name value => commandLine.addProperty name value
  | .mainArchive path => commandLine.addMainArchive path
  | .scriptMarker isScript => commandLine.addScriptMarker isScript
  | .programArguments texts => commandLine.addArguments texts

/-- An addition adds its parts. -/
theorem extended_eq_add (commandLine : CommandLine) (addition : Addition) :
    commandLine.extended addition = commandLine.add addition.parts := by
  cases addition with
  | extra text =>
    by_cases empty : text = ""
    · simp [extended, addExtra, Addition.parts, add, empty]
    · simp [extended, addExtra, Addition.parts, empty]
  | property name value => rfl
  | mainArchive path => rfl
  | scriptMarker isScript =>
    cases isScript with
    | false => simp [extended, addScriptMarker, Addition.parts, add]
    | true => rfl
  | programArguments texts => rfl

/-- The command line that additions make of a program. -/
def assembled (program : String) (additions : List Addition) : CommandLine :=
  additions.foldl extended (ofProgram program)

/-- An assembled command line has the parts of its additions, in their order. -/
theorem parts_assembled (program : String) (additions : List Addition) :
    (assembled program additions).parts = additions.flatMap Addition.parts := by
  suffices added : ∀ commandLine : CommandLine,
      (additions.foldl CommandLine.extended commandLine).parts =
        commandLine.parts ++ additions.flatMap Addition.parts from
    added (ofProgram program)
  induction additions with
  | nil => simp
  | cons addition additions ih =>
    intro commandLine
    rw [List.foldl_cons, ih, extended_eq_add]
    simp [add]

/-- A shell reads the line as the program and the arguments. -/
def Agrees (commandLine : CommandLine) : Prop :=
  Reads commandLine.line (commandLine.program :: commandLine.arguments)

/-- Adding parts keeps the program. -/
@[simp] theorem program_add (commandLine : CommandLine) (parts : List Part) :
    (commandLine.add parts).program = commandLine.program := rfl

/-- The line of a command line with one more part. -/
theorem line_add_singleton (commandLine : CommandLine) (part : Part) :
    (commandLine.add [part]).line = commandLine.line ++ " " ++ part.written := by
  simp [line_add, String.append_assoc]

/-- A program between quotes agrees with itself. -/
theorem agrees_ofProgram {program : String} (quotable : Quotable program) :
    (ofProgram program).Agrees := by
  have line : (ofProgram program).line = "\"" ++ program ++ "\"" := by
    simp [CommandLine.line, tail, writtenProgram, ofProgram]
  unfold Agrees
  rw [line]
  exact quotable.reads

/-- Parts that a shell reads as their arguments keep the agreement. -/
theorem Agrees.add {commandLine : CommandLine} (agrees : commandLine.Agrees) {parts : List Part}
    (reads : ∀ part ∈ parts, Reads part.written part.arguments) :
    (commandLine.add parts).Agrees := by
  induction parts generalizing commandLine with
  | nil => simpa [CommandLine.add] using agrees
  | cons part parts ih =>
    have split : commandLine.add (part :: parts) = (commandLine.add [part]).add parts := by
      simp [CommandLine.add]
    have first : (commandLine.add [part]).Agrees := by
      unfold Agrees
      rw [line_add_singleton, arguments_add, program_add]
      simpa using Reads.append agrees (reads part List.mem_cons_self)
    rw [split]
    exact ih first fun other inside => reads other (List.mem_cons_of_mem part inside)

/-- An addition that a shell can read keeps the agreement. -/
theorem Agrees.extended {commandLine : CommandLine} (agrees : commandLine.Agrees)
    {addition : Addition} (readable : addition.Readable) :
    (commandLine.extended addition).Agrees := by
  rw [extended_eq_add]
  exact agrees.add readable.reads

/-- An assembled command line has the program it was begun with. -/
theorem program_assembled (program : String) (additions : List Addition) :
    (assembled program additions).program = program := by
  suffices kept : ∀ commandLine : CommandLine,
      (additions.foldl CommandLine.extended commandLine).program = commandLine.program from
    kept (ofProgram program)
  induction additions with
  | nil => exact fun _ => rfl
  | cons addition additions ih =>
    intro commandLine
    rw [List.foldl_cons, ih, extended_eq_add, program_add]

/-- Every assembly of readable additions agrees. -/
theorem agrees_assembled {program : String} (quotable : Quotable program)
    {additions : List Addition} (readable : ∀ addition ∈ additions, addition.Readable) :
    (assembled program additions).Agrees := by
  suffices kept : ∀ commandLine : CommandLine, commandLine.Agrees →
      (additions.foldl CommandLine.extended commandLine).Agrees from
    kept _ (agrees_ofProgram quotable)
  induction additions with
  | nil => exact fun _ agrees => agrees
  | cons addition additions ih =>
    intro commandLine agrees
    have first := agrees.extended (readable addition List.mem_cons_self)
    exact ih (fun other inside => readable other (List.mem_cons_of_mem addition inside)) _ first

/-- Additions of every kind, with texts that only just are readable. -/
def mixedAdditions : List Addition := [
  .programArguments ["", "say \"hi\" # it's", "a\\b"],
  .extra "-Xmx1g '-Dx=a b'\\\ny \"q\\\"\"",
  .extra "",
  .property "p" "C:\\x y",
  .scriptMarker true,
  .mainArchive "/opt/es'xx.jar",
  .extra "\t\n"]

/-- A shell splits an assembled line into the program and the arguments it was assembled from,
when the program and the texts of properties and archives may stand between double quotes, every
text of extra arguments has shell words and no `#`, and the backslashes of every argument are
safe. -/
theorem words_line_assembled (program : String) (additions : List Addition)
    (quotable : Quotable program) (readable : ∀ addition ∈ additions, addition.Readable) :
    Shell.words? (assembled program additions).line =
      some (program :: (assembled program additions).arguments) := by
  have read := (agrees_assembled quotable readable).words?_eq
  rw [program_assembled] at read
  exact read

/-- A line with an empty argument, blanks, quotes and `#` inside arguments, backslashes that stay,
and extra arguments with a joined and a quoted word. -/
theorem words_line_assembled_mixed :
    Quotable "C:\\jre\\java x" ∧ (∀ addition ∈ mixedAdditions, addition.Readable) ∧
      Shell.words? (assembled "C:\\jre\\java x" mixedAdditions).line =
        some ["C:\\jre\\java x", "", "say \"hi\" # it's", "a\\b", "-Xmx1g", "-Dx=a by", "q\"",
          "-Dp=C:\\x y", "--script", "--", "-jar", "/opt/es'xx.jar"] := by
  have quotable : Quotable "C:\\jre\\java x" := by decide
  have readable : ∀ addition ∈ mixedAdditions, addition.Readable := by decide
  have split := words_line_assembled "C:\\jre\\java x" mixedAdditions quotable readable
  exact ⟨quotable, readable, split.trans (by decide)⟩

end CommandLine

end JavaLauncher
