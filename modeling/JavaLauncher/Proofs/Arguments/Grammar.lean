import JavaLauncher.Proofs.Arguments.Composition

/-!
# The grammar of a launcher's command line

A list of arguments is a sequence of groups, each of one argument or of a flag and its value,
and an ending: nothing more, a flag whose value is missing, or the separator `--` with whatever
follows it. The grammar is said here without a registry of flags. Every list has exactly one
reading in it (`arguments_eq_iff`), and the built-in flags make of the list what the reading
says (`interpret_builtin_exact`).
-/
namespace JavaLauncher

/-- The spellings of the flag whose value is the next argument. -/
def jvmSpellings : List String := ["-j", "--jvmargs"]

/-- The spellings of the request for help. -/
def helpSpellings : List String := ["-?", "/?", "--help"]

/-- The arguments that mean something as a whole. -/
def namedSpellings : List String := jvmSpellings ++ helpSpellings ++ ["--version", "--"]

/-- The long flag with a value attached to it. -/
def attachedText (value : String) : String := "--jvmargs=" ++ value

/-- Arguments that belong together. -/
inductive ArgumentGroup where
  /-- A flag and the argument after it, whatever that is. -/
  | separateValue (flag : String) (spelled : flag ∈ jvmSpellings) (value : String)
  /-- The long flag with its value, in one argument. -/
  | attachedValue (value : String)
  /-- A request for help. -/
  | help (flag : String) (spelled : flag ∈ helpSpellings)
  /-- A request for the version. -/
  | version
  /-- An argument that is nothing else. -/
  | plain (argument : String) (unnamed : argument ∉ namedSpellings)
    (detached : ∀ value, argument ≠ attachedText value)

/-- What follows the groups of a command line. -/
inductive ArgumentEnding where
  /-- Nothing. -/
  | complete
  /-- A flag whose value is missing. -/
  | missingValue (flag : String) (spelled : flag ∈ jvmSpellings)
  /-- The separator and the arguments after it, whatever they are. -/
  | relayed (rest : List String)

namespace ArgumentGroup

/-- The arguments of a group. -/
def arguments : ArgumentGroup → List String
  | .separateValue flag _ value => [flag, value]
  | .attachedValue value => [attachedText value]
  | .help flag _ => [flag]
  | .version => ["--version"]
  | .plain argument _ _ => [argument]

/-- The arguments of a group that are forwarded; `/?` is forwarded as `-?`. -/
def forwarded : ArgumentGroup → List String
  | .separateValue .. | .attachedValue _ => []
  | .help flag _ => [if flag = "/?" then "-?" else flag]
  | .version => ["--version"]
  | .plain argument _ _ => [argument]

/-- The text that a group asks for. -/
def request? : ArgumentGroup → Option Request
  | .help .. => some .help
  | .version => some .version
  | .separateValue .. | .attachedValue _ | .plain .. => none

/-- The value that a group gives for the virtual machine. -/
def value? : ArgumentGroup → Option String
  | .separateValue _ _ value | .attachedValue value => some value
  | .help .. | .version | .plain .. => none

end ArgumentGroup

namespace ArgumentEnding

/-- The arguments of an ending. -/
def arguments : ArgumentEnding → List String
  | .complete => []
  | .missingValue flag _ => [flag]
  | .relayed rest => "--" :: rest

/-- The arguments of an ending that are forwarded: all but the separator. -/
def forwarded : ArgumentEnding → List String
  | .complete => []
  | .missingValue flag _ => [flag]
  | .relayed rest => rest

/-- How an argument after an ending would be treated. -/
def treatment : ArgumentEnding → Treatment
  | .complete | .missingValue .. => .interpreted
  | .relayed _ => .relayed

end ArgumentEnding

/-- A command line as groups with an ending. -/
structure ArgumentReading where
  /-- The groups, from left to right. -/
  groups : List ArgumentGroup
  /-- What follows them. -/
  ending : ArgumentEnding

namespace ArgumentReading

/-- The arguments that are read. -/
def arguments (reading : ArgumentReading) : List String :=
  reading.groups.flatMap (·.arguments) ++ reading.ending.arguments

/-- What the arguments ask for: the last value counts, and what is forwarded and asked for is so
in the order of the groups. -/
def interpretation (reading : ArgumentReading) : Interpretation where
  jvmArguments := (reading.groups.filterMap (·.value?)).getLast?
  forwarded := reading.groups.flatMap (·.forwarded) ++ reading.ending.forwarded
  requests := reading.groups.filterMap (·.request?)
  treatment := reading.ending.treatment

/-- A reading with one more group in front. -/
def startingWith (group : ArgumentGroup) (reading : ArgumentReading) : ArgumentReading :=
  { reading with groups := group :: reading.groups }

end ArgumentReading

/-- An argument has no named spelling when it has none of each kind. -/
theorem not_mem_namedSpellings {argument : String} :
    argument ∉ namedSpellings ↔ argument ∉ jvmSpellings ∧ argument ∉ helpSpellings ∧
      argument ≠ "--version" ∧ argument ≠ "--" := by
  simp only [namedSpellings, List.mem_append, List.mem_cons, List.not_mem_nil, or_false, not_or,
    and_assoc, ne_eq]

/-- A flag for the virtual machine is not the separator. -/
theorem ne_separator_of_mem {flag : String} (spelled : flag ∈ jvmSpellings) : flag ≠ "--" := by
  rintro rfl
  exact absurd spelled (by decide)

/-- An attached value is told from every named spelling. -/
theorem attachedText_not_mem (value : String) : attachedText value ∉ namedSpellings := by
  intro inside
  have begins : "--jvmargs=".toList <+: (attachedText value).toList :=
    ⟨value.toList, by simp [attachedText]⟩
  have none : ∀ spelling ∈ namedSpellings, ¬"--jvmargs=".toList <+: spelling.toList := by decide
  exact none _ inside begins

/-- The built-in flag that gives a value to the virtual machine. -/
def jvmFlag : Flag := Flag.builtin[2]

/-- An argument that is no named spelling is none of a built-in flag. -/
theorem isSpelled_builtin_of_not_mem {argument : String} (unnamed : argument ∉ namedSpellings) :
    ∀ flag ∈ Flag.builtin, flag.isSpelled argument = false := by
  have named : ∀ flag ∈ Flag.builtin, ∀ spelling ∈ flag.spellings, spelling ∈ namedSpellings := by
    decide
  intro flag known
  simp only [Flag.isSpelled, List.contains_eq_mem, decide_eq_false_iff_not]
  exact fun spelled => unnamed (named flag known argument spelled)

/-- Among the built-in flags only the one for the virtual machine recognises an argument that is
no named spelling, and only by an attached value. -/
theorem lookupFlag_builtin_of_not_mem {argument : String} (unnamed : argument ∉ namedSpellings) :
    lookupFlag Flag.builtin argument =
      (jvmFlag.attachedValue? argument).map fun value => (jvmFlag, some value) := by
  have byValue : ∀ flag ∈ Flag.builtin, flag.recognise argument =
      (flag.attachedValue? argument).map fun value => (flag, some value) := by
    intro flag known
    simp [Flag.recognise, isSpelled_builtin_of_not_mem unnamed flag known]
  have help := byValue Flag.builtin[0] (by decide)
  have version := byValue Flag.builtin[1] (by decide)
  have jvm := byValue jvmFlag (by decide)
  have endOptions := byValue Flag.builtin[3] (by decide)
  -- The other three flags stand alone, so that nothing can be attached to them.
  change [Flag.builtin[0], Flag.builtin[1], jvmFlag, Flag.builtin[3]].findSome?
    (·.recognise argument) = _
  simp only [List.findSome?_cons, List.findSome?_nil, help, version, jvm, endOptions]
  cases jvmFlag.attachedValue? argument <;> rfl

/-- The value attached to the long flag is what stands after its `=`. -/
theorem jvmFlag_attachedValue_eq_some {argument value : String} :
    jvmFlag.attachedValue? argument = some value ↔ argument = attachedText value := by
  simp [Flag.attachedValue?_eq_some_iff, jvmFlag, Flag.builtin, attachedText]

/-- The long flag has no attached value in any other argument. -/
theorem jvmFlag_attachedValue_eq_none {argument : String} :
    jvmFlag.attachedValue? argument = none ↔ ∀ value, argument ≠ attachedText value := by
  rw [Option.eq_none_iff_forall_ne_some]
  exact forall_congr' fun value => not_congr jvmFlag_attachedValue_eq_some

namespace ArgumentGroup

/-- The group of a single argument. -/
def single (argument : String) (other : argument ∉ jvmSpellings) (goesOn : argument ≠ "--") :
    ArgumentGroup :=
  if isHelp : argument ∈ helpSpellings then .help argument isHelp
  else if isVersion : argument = "--version" then .version
  else match attached : jvmFlag.attachedValue? argument with
    | some value => .attachedValue value
    | none => .plain argument (not_mem_namedSpellings.2 ⟨other, isHelp, isVersion, goesOn⟩)
      (jvmFlag_attachedValue_eq_none.1 attached)

/-- The group of a single argument consists of that argument. -/
theorem arguments_single (argument : String) (other : argument ∉ jvmSpellings)
    (goesOn : argument ≠ "--") : (single argument other goesOn).arguments = [argument] := by
  unfold single
  split
  · rfl
  split
  · rename_i isVersion
    rw [isVersion]
    rfl
  split
  · rename_i value attached
    rw [jvmFlag_attachedValue_eq_some.1 attached]
    rfl
  · rfl

/-- The only argument of a group makes that group. -/
theorem single_eq {group : ArgumentGroup} {argument : String} (other : argument ∉ jvmSpellings)
    (goesOn : argument ≠ "--") (written : group.arguments = [argument]) :
    single argument other goesOn = group := by
  cases group with
  | separateValue flag spelled value => cases written
  | attachedValue value =>
    obtain rfl : attachedText value = argument := List.singleton_inj.1 written
    obtain ⟨_, noHelp, noVersion, _⟩ := not_mem_namedSpellings.1 (attachedText_not_mem value)
    have attached : jvmFlag.attachedValue? (attachedText value) = some value :=
      jvmFlag_attachedValue_eq_some.2 rfl
    rw [single, dif_neg noHelp, dif_neg noVersion]
    split
    · rename_i found foundHere
      rw [attached] at foundHere
      rw [Option.some.inj foundHere]
    · rename_i missing
      rw [attached] at missing
      cases missing
  | help flag spelled =>
    obtain rfl : flag = argument := List.singleton_inj.1 written
    rw [single, dif_pos spelled]
  | version =>
    obtain rfl : "--version" = argument := List.singleton_inj.1 written
    rfl
  | plain text unnamed detached =>
    obtain rfl : text = argument := List.singleton_inj.1 written
    obtain ⟨_, noHelp, noVersion, _⟩ := not_mem_namedSpellings.1 unnamed
    rw [single, dif_neg noHelp, dif_neg noVersion]
    split
    · rename_i value found
      exact absurd (jvmFlag_attachedValue_eq_some.1 found) (detached value)
    · rfl

end ArgumentGroup

namespace ArgumentReading

/-- The reading of arguments. -/
def ofArguments : List String → ArgumentReading
  | [] => ⟨[], .complete⟩
  | argument :: rest =>
    if ends : argument = "--" then ⟨[], .relayed rest⟩
    else if takes : argument ∈ jvmSpellings then
      match rest with
      | [] => ⟨[], .missingValue argument takes⟩
      | value :: later => (ofArguments later).startingWith (.separateValue argument takes value)
    else (ofArguments rest).startingWith (.single argument takes ends)

/-- The arguments of a reading with one more group. -/
theorem arguments_startingWith (group : ArgumentGroup) (reading : ArgumentReading) :
    (reading.startingWith group).arguments = group.arguments ++ reading.arguments := by
  simp [startingWith, arguments]

/-- The reading of arguments reads all of them. -/
theorem arguments_ofArguments (arguments : List String) :
    (ofArguments arguments).arguments = arguments := by
  fun_induction ofArguments arguments with
  | case1 => rfl
  | case2 rest => rfl
  | case3 argument ends takes => rfl
  | case4 argument ends takes value later ih =>
    rw [arguments_startingWith, ih]
    rfl
  | case5 argument rest ends takes ih =>
    rw [arguments_startingWith, ArgumentGroup.arguments_single, ih]
    rfl

/-- A group in front of other arguments is read first. -/
theorem ofArguments_group (group : ArgumentGroup) (rest : List String) :
    ofArguments (group.arguments ++ rest) = (ofArguments rest).startingWith group := by
  have alone {argument : String} (written : group.arguments = [argument])
      (other : argument ∉ jvmSpellings) (goesOn : argument ≠ "--") :
      ofArguments (group.arguments ++ rest) = (ofArguments rest).startingWith group := by
    rw [written, List.singleton_append]
    simp [ofArguments, other, goesOn, ArgumentGroup.single_eq other goesOn written]
  cases group with
  | separateValue flag spelled value =>
    simp [ArgumentGroup.arguments, ofArguments, ne_separator_of_mem spelled, spelled]
  | attachedValue value =>
    obtain ⟨other, _, _, goesOn⟩ := not_mem_namedSpellings.1 (attachedText_not_mem value)
    exact alone rfl other goesOn
  | help flag spelled =>
    have apart : ∀ spelling ∈ helpSpellings, spelling ∉ jvmSpellings ∧ spelling ≠ "--" := by decide
    obtain ⟨other, goesOn⟩ := apart flag spelled
    exact alone rfl other goesOn
  | version => exact alone rfl (by decide) (by decide)
  | plain text unnamed _ =>
    obtain ⟨other, _, _, goesOn⟩ := not_mem_namedSpellings.1 unnamed
    exact alone rfl other goesOn

/-- An ending is read as it is. -/
theorem ofArguments_ending (ending : ArgumentEnding) :
    ofArguments ending.arguments = ⟨[], ending⟩ := by
  cases ending with
  | complete => rfl
  | missingValue flag spelled =>
    simp [ArgumentEnding.arguments, ofArguments, ne_separator_of_mem spelled, spelled]
  | relayed rest => simp [ArgumentEnding.arguments, ofArguments]

/-- A reading is the only one of its arguments. -/
theorem ofArguments_arguments (reading : ArgumentReading) :
    ofArguments reading.arguments = reading := by
  -- Each group is told by its front, whatever follows it, so the groups can be read one by one.
  obtain ⟨groups, ending⟩ := reading
  induction groups with
  | nil => simpa [arguments] using ofArguments_ending ending
  | cons group groups ih =>
    have split := arguments_startingWith group ⟨groups, ending⟩
    simp only [startingWith] at split
    rw [split, ofArguments_group, ih]
    rfl

/-- Every list of arguments has exactly one reading. -/
theorem arguments_eq_iff {reading : ArgumentReading} {arguments : List String} :
    reading.arguments = arguments ↔ reading = ofArguments arguments := by
  constructor
  · rintro rfl
    exact (ofArguments_arguments reading).symm
  · rintro rfl
    exact arguments_ofArguments arguments

end ArgumentReading

/-- What a group asks for. -/
def ArgumentGroup.interpretation (group : ArgumentGroup) : Interpretation where
  jvmArguments := group.value?
  forwarded := group.forwarded
  requests := group.request?.toList
  treatment := .interpreted

/-- What a reading asks for begins with what its first group asks for. -/
theorem ArgumentReading.interpretation_startingWith (group : ArgumentGroup)
    (reading : ArgumentReading) : (reading.startingWith group).interpretation =
      group.interpretation.followedBy reading.interpretation := by
  cases value : group.value? <;> cases request : group.request? <;>
    simp [startingWith, interpretation, ArgumentGroup.interpretation, Interpretation.followedBy,
      value, request, List.getLast?_cons]

/-- Each spelling of the flag for the virtual machine takes the next argument. -/
theorem takesNext_of_mem {flag : String} (spelled : flag ∈ jvmSpellings) :
    TakesNext Flag.builtin flag := by
  have known : ∀ spelling ∈ jvmSpellings,
      lookupFlag Flag.builtin spelling = some (jvmFlag, none) := by decide
  exact ⟨jvmFlag, known flag spelled, rfl⟩

/-- The built-in flags make of a group in front of other arguments what the grammar says. -/
theorem interpret_group (group : ArgumentGroup) (rest : List String) :
    interpret Flag.builtin .interpreted (group.arguments ++ rest) =
      group.interpretation.followedBy (interpret Flag.builtin .interpreted rest) := by
  cases group with
  | separateValue flag spelled value =>
    exact interpret_takesNext (takesNext_of_mem spelled) value rest
  | attachedValue value =>
    have found := lookupFlag_builtin_of_not_mem (attachedText_not_mem value)
    rw [jvmFlag_attachedValue_eq_some.2 rfl] at found
    exact interpret_attached found rfl rest
  | help flag spelled =>
    have known : ∀ spelling ∈ helpSpellings,
        lookupFlag Flag.builtin spelling = some (Flag.builtin[0], none) ∧
          Flag.builtin[0].forwardedSpelling spelling =
            if spelling = "/?" then "-?" else spelling := by decide
    obtain ⟨found, spelling⟩ := known flag spelled
    have asks : (ArgumentGroup.help flag spelled).interpretation =
        ((Interpretation.nothing .interpreted).forward
          (if flag = "/?" then "-?" else flag)).ask .help := rfl
    rw [ArgumentGroup.arguments, List.singleton_append, interpret_request found rfl, spelling, asks]
    simp
  | version =>
    have found : lookupFlag Flag.builtin "--version" = some (Flag.builtin[1], none) := by decide
    have spelling : Flag.builtin[1].forwardedSpelling "--version" = "--version" := by decide
    have asks : ArgumentGroup.version.interpretation =
        ((Interpretation.nothing .interpreted).forward "--version").ask .version := rfl
    rw [ArgumentGroup.arguments, List.singleton_append, interpret_request found rfl, spelling, asks]
    simp
  | plain argument unnamed detached =>
    have unknown : lookupFlag Flag.builtin argument = none := by
      rw [lookupFlag_builtin_of_not_mem unnamed, jvmFlag_attachedValue_eq_none.2 detached]
      rfl
    have asks : (ArgumentGroup.plain argument unnamed detached).interpretation =
        (Interpretation.nothing .interpreted).forward argument := rfl
    rw [ArgumentGroup.arguments, List.singleton_append, interpret_cons_of_unknown unknown, asks]
    simp

/-- The built-in flags make of an ending what the grammar says. -/
theorem interpret_ending (ending : ArgumentEnding) :
    interpret Flag.builtin .interpreted ending.arguments =
      ArgumentReading.interpretation ⟨[], ending⟩ := by
  cases ending with
  | complete => rfl
  | missingValue flag spelled =>
    exact interpret_takesNext_last (takesNext_of_mem spelled)
  | relayed rest =>
    have found : lookupFlag Flag.builtin "--" = some (Flag.builtin[3], none) := by decide
    exact (interpret_end found rfl rest).trans (interpret_relayed Flag.builtin rest)

/-- The built-in flags make of the arguments of a reading what the reading says. -/
theorem interpret_reading (reading : ArgumentReading) :
    interpret Flag.builtin .interpreted reading.arguments = reading.interpretation := by
  obtain ⟨groups, ending⟩ := reading
  induction groups with
  | nil => exact interpret_ending ending
  | cons group groups ih =>
    let later : ArgumentReading := ⟨groups, ending⟩
    calc
      interpret Flag.builtin .interpreted (later.startingWith group).arguments =
          interpret Flag.builtin .interpreted (group.arguments ++ later.arguments) := by
        rw [ArgumentReading.arguments_startingWith]
      _ = group.interpretation.followedBy (interpret Flag.builtin .interpreted later.arguments) :=
        interpret_group group later.arguments
      _ = group.interpretation.followedBy later.interpretation := by rw [ih]
      _ = (later.startingWith group).interpretation :=
        (ArgumentReading.interpretation_startingWith group later).symm

/-- Every list of arguments has exactly one reading in the grammar, and the built-in flags make
of the list what that reading says. -/
theorem interpret_builtin_exact (arguments : List String) :
    ∃ reading : ArgumentReading,
      (∀ other : ArgumentReading, other.arguments = arguments ↔ other = reading) ∧
        interpret Flag.builtin .interpreted arguments = reading.interpretation := by
  let reading := ArgumentReading.ofArguments arguments
  refine ⟨reading, fun other => ArgumentReading.arguments_eq_iff, ?_⟩
  have read : reading.arguments = arguments := ArgumentReading.arguments_ofArguments arguments
  rw [← read]
  exact interpret_reading reading

/-- A separator that is taken as a value separates nothing. -/
example : interpret Flag.builtin .interpreted ["-j", "--", "/?", "--", "-j"] =
    ⟨some "--", ["-?", "-j"], [.help], .relayed⟩ := by decide

end JavaLauncher
