import JavaLauncher.Proofs.CommandLine.Agreement
import JavaLauncher.Proofs.Shell.Trimming

/-!
# The argument text of a line

The argument text is cut out of the line behind the written program, at a number of bytes, and the
white space in front of it is trimmed. The cut always falls between two characters. The trimming
may take more than the separators after the program: extra arguments stand on the line as they are,
and may begin with stray white space, which separates no words. That is the one way in which part of
an argument is lost, since no other part of a line begins with white space (`argumentText_exact`).
-/
namespace JavaLauncher

open Shell (Reads StartsApart beginsStray beginsStray_append isSeparator wordsFrom)

namespace Part

/-- What parts write, each after a space. -/
def joined (parts : List Part) : List Char :=
  parts.flatMap fun part => ' ' :: part.written.toList

/-- What parts write begins with that of the first one, after a space. -/
theorem joined_cons (part : Part) (parts : List Part) :
    joined (part :: parts) = ' ' :: (part.written.toList ++ joined parts) := by
  simp [joined]

/-- What parts write stands apart from a word that ends before it, if what follows them does. -/
theorem startsApart_joined_append (parts : List Part) {rest : List Char}
    (apart : StartsApart rest) : StartsApart (joined parts ++ rest) := by
  cases parts with
  | nil => exact apart
  | cons part parts => simp [joined_cons, StartsApart, isSeparator]

/-- Parts that a shell reads as their arguments are read one after the other. -/
theorem wordsFrom_joined {parts : List Part}
    (reads : ∀ part ∈ parts, Reads part.written part.arguments) {rest : List Char}
    (apart : StartsApart rest) :
    wordsFrom .between (joined parts ++ rest) =
      (wordsFrom .between rest).map ((parts.flatMap arguments).map String.toList ++ ·) := by
  induction parts with
  | nil => simp [joined]
  | cons part parts ih =>
    have afterSpace : wordsFrom .between (joined (part :: parts) ++ rest) =
        wordsFrom .between (part.written.toList ++ (joined parts ++ rest)) := by
      have front : joined (part :: parts) ++ rest =
          [' '] ++ (part.written.toList ++ (joined parts ++ rest)) := by simp [joined_cons]
      rw [front, Shell.wordsFrom_separators_append (by simp [isSeparator])]
    have partsApart : StartsApart (joined parts ++ rest) := startsApart_joined_append parts apart
    rw [afterSpace, reads part List.mem_cons_self _ partsApart,
      ih fun other member => reads other (List.mem_cons_of_mem part member)]
    simp [Function.comp_def]

/-- Everything but extra arguments is written with a visible character in front, which opens no
comment. -/
theorem extra_or_visible_head (part : Part) :
    (∃ text nonempty, part = .extra text nonempty) ∨
      ∃ c rest, part.written.toList = c :: rest ∧ Text.isBlank c = false ∧ c ≠ '#' := by
  suffices begins : (∃ text nonempty, part = .extra text nonempty) ∨
      part.written.toList.head? = some '"' ∨ part.written.toList.head? = some '-' by
    rcases begins with extra | quote | hyphen
    · exact .inl extra
    · obtain ⟨rest, written⟩ := List.head?_eq_some_iff.1 quote
      exact .inr ⟨'"', rest, written, by decide, by decide⟩
    · obtain ⟨rest, written⟩ := List.head?_eq_some_iff.1 hyphen
      exact .inr ⟨'-', rest, written, by decide, by decide⟩
  cases part with
  | extra text nonempty => exact .inl ⟨text, nonempty, rfl⟩
  | property name value => exact .inr (.inl (by simp [written]))
  | mainArchive path => exact .inr (.inr (by simp [written]))
  | scriptMarker => exact .inr (.inr (by decide))
  | argument text => exact .inr (.inl (by simp [written, Shell.quoteChars]))

/-- Only extra arguments begin with stray white space. -/
theorem exists_extra_of_beginsStray {part : Part}
    (stray : beginsStray part.written.toList = true) :
    ∃ text nonempty, part = .extra text nonempty := by
  obtain extra | ⟨c, rest, begins, visible, _⟩ := extra_or_visible_head part
  · exact extra
  · have apart : isSeparator c = false := by
      rw [← Bool.not_eq_true]
      intro separates
      rw [Shell.isBlank_of_isSeparator separates] at visible
      cases visible
    simp [begins, beginsStray, apart, visible] at stray

/-- Separators apart, stray white space in extra arguments is the first that some parts write. -/
def StrayFirst (parts : List Part) : Prop :=
  ∃ front text nonempty back, parts = front ++ .extra text nonempty :: back ∧
    (∀ part ∈ front, part.written.toList.all isSeparator = true) ∧
    beginsStray text.toList = true

/-- Stray white space comes first in the first part, or after it where it writes separators. -/
theorem strayFirst_cons {part : Part} {parts : List Part} :
    StrayFirst (part :: parts) ↔ beginsStray part.written.toList = true ∨
      (part.written.toList.all isSeparator = true ∧ StrayFirst parts) := by
  constructor
  · rintro ⟨front, text, nonempty, back, same, separates, stray⟩
    cases front with
    | nil =>
      obtain ⟨rfl, rfl⟩ := List.cons.inj same
      exact .inl stray
    | cons first front =>
      obtain ⟨rfl, rfl⟩ := List.cons.inj same
      obtain ⟨separate, others⟩ := List.forall_mem_cons.1 separates
      exact .inr ⟨separate, front, text, nonempty, back, rfl, others, stray⟩
  · rintro (stray | ⟨separate, front, text, nonempty, back, rfl, others, stray⟩)
    · obtain ⟨text, nonempty, rfl⟩ := exists_extra_of_beginsStray stray
      exact ⟨[], text, nonempty, parts, rfl, by simp, stray⟩
    · exact ⟨part :: front, text, nonempty, back, rfl,
        List.forall_mem_cons.2 ⟨separate, others⟩, stray⟩

/-- What parts write begins with stray white space only through extra arguments. -/
theorem beginsStray_joined_iff (parts : List Part) :
    beginsStray (joined parts) = true ↔ StrayFirst parts := by
  induction parts with
  | nil => simp [joined, beginsStray, StrayFirst]
  | cons part parts ih =>
    have afterSpace : beginsStray (joined (part :: parts)) =
        beginsStray (part.written.toList ++ joined parts) := by
      rw [joined_cons]
      rfl
    rw [afterSpace, beginsStray_append, strayFirst_cons]
    by_cases stray : beginsStray part.written.toList = true
    · simp [stray, Shell.all_isSeparator_of_beginsStray stray]
    · by_cases separate : part.written.toList.all isSeparator = true
      · rw [if_pos separate, ih]
        simp [stray, separate]
      · rw [if_neg separate]
        simp [stray, separate]

instance : DecidablePred StrayFirst := fun parts =>
  decidable_of_iff _ (beginsStray_joined_iff parts)

/-- What parts write opens no comment behind the white space in front of it, where extra arguments
hold no `#`. -/
theorem head?_dropWhile_joined_ne {parts : List Part}
    (uncommented : ∀ text nonempty, .extra text nonempty ∈ parts → '#' ∉ text.toList) :
    ((joined parts).dropWhile Text.isBlank).head? ≠ some '#' := by
  induction parts with
  | nil => simp [joined]
  | cons part parts ih =>
    have afterSpace : (joined (part :: parts)).dropWhile Text.isBlank =
        (part.written.toList ++ joined parts).dropWhile Text.isBlank := by
      rw [joined_cons]
      rfl
    have later := ih fun text nonempty member =>
      uncommented text nonempty (List.mem_cons_of_mem part member)
    rw [afterSpace, List.dropWhile_append]
    cases visible : part.written.toList.dropWhile Text.isBlank with
    | nil => simpa using later
    | cons c rest =>
      obtain ⟨text, nonempty, rfl⟩ | ⟨d, after, begins, plain, other⟩ :=
        extra_or_visible_head part
      · have inside : c ∈ text.toList := by
          have first : c ∈ text.toList.dropWhile Text.isBlank := by
            rw [show text.toList.dropWhile Text.isBlank = c :: rest from visible]
            exact List.mem_cons_self
          exact (List.dropWhile_sublist Text.isBlank).subset first
        have hash : c ≠ '#' := fun same =>
          uncommented text nonempty List.mem_cons_self (same ▸ inside)
        simpa using hash
      · rw [begins, List.dropWhile_cons_of_neg (by simp [plain])] at visible
        obtain ⟨rfl, rfl⟩ := List.cons.inj visible
        simpa using other

end Part

/-- A shell can read each part of readable additions as its arguments, and none of their extra
arguments holds a `#`. -/
theorem reads_parts_of_readable {additions : List Addition}
    (readable : ∀ addition ∈ additions, addition.Readable) :
    (∀ part ∈ additions.flatMap Addition.parts, Reads part.written part.arguments) ∧
      ∀ text nonempty, Part.extra text nonempty ∈ additions.flatMap Addition.parts →
        '#' ∉ text.toList := by
  constructor
  · intro part member
    obtain ⟨addition, given, inside⟩ := List.mem_flatMap.1 member
    exact (readable addition given).reads part inside
  · intro text nonempty member
    obtain ⟨addition, given, inside⟩ := List.mem_flatMap.1 member
    have uncommented := readable addition given
    cases addition with
    | extra whole =>
      obtain ⟨_, rfl⟩ : whole ≠ "" ∧ text = whole := by
        simpa [Addition.parts] using inside
      exact uncommented.2
    | property | mainArchive | programArguments => simp [Addition.parts] at inside
    | scriptMarker isScript => cases isScript <;> simp [Addition.parts] at inside

namespace CommandLine

/-- The line from the end of the program on is what the parts write. -/
theorem toList_tail (commandLine : CommandLine) :
    commandLine.tail.toList = Part.joined commandLine.parts := by
  simp [tail, Part.joined, List.flatMap_def, Function.comp_def]

/-- The argument text is what follows the written program, without the white space in front. -/
theorem argumentText_eq (commandLine : CommandLine) :
    commandLine.argumentText = Text.trimFront commandLine.tail := by
  rw [argumentText, drop_line, String.ofList_toList]

/-- The end of the written program is a place between two characters of the line, two bytes behind
the end of the program's own bytes. -/
theorem exists_pos_tail (commandLine : CommandLine) :
    ∃ start : commandLine.line.Pos, start.offset.byteIdx = commandLine.program.utf8ByteSize + 2 ∧
      (commandLine.line.sliceFrom start).copy = commandLine.tail := by
  have valid : commandLine.writtenProgram.rawEndPos.IsValid commandLine.line :=
    String.Pos.Raw.isValid_iff_exists_append.2
      ⟨commandLine.writtenProgram, commandLine.tail, rfl, rfl⟩
  refine ⟨⟨_, valid⟩, ?_, String.Pos.Splits.copy_sliceFrom_eq ⟨rfl, rfl⟩⟩
  have quote : "\"".utf8ByteSize = 1 := rfl
  simp only [writtenProgram, String.rawEndPos, String.utf8ByteSize_append, quote]
  omega

/-- Only separators stand on the line between the program and the argument text unless stray white
space is the first that the parts write. -/
theorem separators_before_argumentText_iff (commandLine : CommandLine) :
    (∃ gap, commandLine.line = commandLine.writtenProgram ++ gap ++ commandLine.argumentText ∧
      ∀ c ∈ gap.toList, isSeparator c = true) ↔ ¬ Part.StrayFirst commandLine.parts := by
  rw [← Part.beginsStray_joined_iff, Bool.not_eq_true, ← toList_tail,
    ← Shell.separators_trimmed_iff, argumentText_eq]
  let trimmed := commandLine.tail.toList.takeWhile Text.isBlank
  have whole : commandLine.tail = String.ofList trimmed ++ Text.trimFront commandLine.tail := by
    apply String.toList_inj.1
    simp [trimmed]
  constructor
  · rintro ⟨gap, split, separate⟩
    have same : commandLine.tail = gap ++ Text.trimFront commandLine.tail := by
      rw [line, String.append_assoc] at split
      exact (String.append_right_inj _).1 split
    have found : gap = String.ofList trimmed :=
      (String.append_left_inj _).1 (same.symm.trans whole)
    simpa [found] using separate
  · intro separate
    refine ⟨String.ofList trimmed, ?_, by simpa [trimmed] using separate⟩
    rw [line, String.append_assoc, ← whole]

/-- Where a shell reads every part as its arguments, it splits the argument text into the arguments
unless stray white space is the first that the parts write. -/
theorem words?_argumentText_iff {commandLine : CommandLine}
    (reads : ∀ part ∈ commandLine.parts, Reads part.written part.arguments)
    (uncommented : ∀ text nonempty,
      .extra text nonempty ∈ commandLine.parts → '#' ∉ text.toList) :
    Shell.words? commandLine.argumentText = some commandLine.arguments ↔
      ¬ Part.StrayFirst commandLine.parts := by
  have read : Shell.words? commandLine.tail = some commandLine.arguments := by
    have apart : StartsApart [] := by simp [StartsApart]
    have joined := Part.wordsFrom_joined reads apart
    rw [List.append_nil] at joined
    simp [Shell.words?, toList_tail, joined, wordsFrom, Shell.Mode.atEnd, arguments,
      Function.comp_def]
  have opens : (Text.trimFront commandLine.tail).toList.head? ≠ some '#' := by
    rw [Text.toList_trimFront, toList_tail]
    exact Part.head?_dropWhile_joined_ne uncommented
  rw [argumentText_eq, Shell.words?_trimFront_eq_iff read opens, toList_tail,
    ← Part.beginsStray_joined_iff, Bool.not_eq_true]

/-- Extra arguments of separators only, and others with stray white space. -/
def spacedAdditions : List Addition := [.extra "\t\n", .extra "-ea\u00a0", .extra "\u00a0x"]

/-- The argument text is cut out of the line between two characters, behind the program and its
quotes, and white space is trimmed from its front. Nothing but separators stands between the quoted
program and the argument text, and a shell splits the argument text of readable additions into the
arguments, unless stray white space in extra arguments is the first that the additions write: then
neither holds. The program may be any text. -/
theorem argumentText_exact (program : String) (additions : List Addition) :
    let commandLine := assembled program additions
    let cut := Part.StrayFirst (additions.flatMap Addition.parts)
    (∃ start : commandLine.line.Pos, start.offset.byteIdx = program.utf8ByteSize + 2 ∧
      commandLine.argumentText = Text.trimFront (commandLine.line.sliceFrom start).copy) ∧
    ((∃ gap, commandLine.line = "\"" ++ program ++ "\"" ++ gap ++ commandLine.argumentText ∧
      ∀ c ∈ gap.toList, isSeparator c = true) ↔ ¬ cut) ∧
    ((∀ addition ∈ additions, addition.Readable) →
      (Shell.words? commandLine.argumentText = some commandLine.arguments ↔ ¬ cut)) := by
  intro commandLine cut
  have parts : commandLine.parts = additions.flatMap Addition.parts :=
    parts_assembled program additions
  have begun : commandLine.program = program := program_assembled program additions
  refine ⟨?_, ?_, fun readable => ?_⟩
  · obtain ⟨start, place, slice⟩ := exists_pos_tail commandLine
    exact ⟨start, begun ▸ place, by rw [slice, argumentText_eq]⟩
  · have separators := separators_before_argumentText_iff commandLine
    rwa [parts, writtenProgram, begun] at separators
  · obtain ⟨reads, uncommented⟩ := reads_parts_of_readable readable
    rw [← parts] at reads uncommented
    have split := words?_argumentText_iff reads uncommented
    rwa [parts] at split

/-- Stray white space stays where a visible character comes before it. -/
theorem argumentText_exact_spaced :
    (∀ addition ∈ spacedAdditions, addition.Readable) ∧
      Shell.words? (assembled "é\"\\" spacedAdditions).argumentText =
        some ["-ea\u00a0", "\u00a0x"] := by
  have readable : ∀ addition ∈ spacedAdditions, addition.Readable := by decide
  have kept : ¬ Part.StrayFirst (spacedAdditions.flatMap Addition.parts) := by decide
  obtain ⟨_, _, split⟩ := argumentText_exact "é\"\\" spacedAdditions
  exact ⟨readable, ((split readable).2 kept).trans (by decide)⟩

/-- A no-break space in front of the first extra argument is part of it, and is trimmed. -/
theorem argumentText_of_no_break_space :
    let additions := [Addition.extra "\u00a0x"]
    let commandLine := assembled "java" additions
    (∀ addition ∈ additions, addition.Readable) ∧
      commandLine.line = "\"java\" \u00a0x" ∧ commandLine.arguments = ["\u00a0x"] ∧
      commandLine.argumentText = "x" ∧
      Shell.words? commandLine.argumentText ≠ some commandLine.arguments ∧
      ¬ ∃ gap, commandLine.line = "\"" ++ "java" ++ "\"" ++ gap ++ commandLine.argumentText ∧
        ∀ c ∈ gap.toList, isSeparator c = true := by
  refine ⟨by decide, by decide, by decide, by decide, by decide, ?_⟩
  exact fun separate => (separators_before_argumentText_iff _).1 separate (by decide)

end CommandLine

end JavaLauncher
