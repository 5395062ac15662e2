import JavaLauncher.Proofs.Arguments.Grammar
import JavaLauncher.Proofs.Launch.Assembly
import JavaLauncher.Proofs.Settings.Files
import JavaLauncher.Proofs.Settings.Layers

/-!
# Where the extra arguments come from

The extra arguments of the Java virtual machine are a text that three sources may set: the user, the
configuration file that all launchers share, and the launcher's own configuration file. The first of
them that sets a text has the say, even if it sets the empty one, and only where none does there is
a default; the environment is no source. The text is the first thing on the command line, unless it
is empty (`make_extra_precedence`).
-/
namespace JavaLauncher

/-- The user gives a text for the virtual machine: among the groups that the arguments are read as,
it is the value of the last one that has a value. A launcher that runs scripts reads none. -/
def UserGives (identity : Identity) (arguments : List String) (text : String) : Prop :=
  identity.runsScripts = false ∧
    ∃ (before after : List ArgumentGroup) (group : ArgumentGroup) (ending : ArgumentEnding),
      (⟨before ++ group :: after, ending⟩ : ArgumentReading).arguments = arguments ∧
        group.value? = some text ∧ ∀ later ∈ after, later.value? = none

/-- The configuration file with a name holds settings that set extra arguments. -/
def FileSets (tree : FileTree) (identity : Identity) (name text : String) : Prop :=
  ∃ found, Settings.HoldsSettings tree (identity.settingsFile name) found ∧
    found.jvmArguments = some text

/-- A text is the extra arguments of a launch: the user gives it, or else the shared file sets it,
or else the launcher's own file where that is another one, or else it is the default. -/
def ExtraText (tree : FileTree) (identity : Identity) (arguments : List String) : String → Prop :=
  FirstSet (if identity.runsScripts then "-client" else "")
    [UserGives identity arguments,
      FileSets tree identity "esxx",
      fun text => identity.baseName ≠ "esxx" ∧ FileSets tree identity identity.baseName text]

/-- The value of a reading is that of the last of its groups that has one. -/
theorem ArgumentReading.jvmArguments_eq_some {reading : ArgumentReading} {text : String} :
    reading.interpretation.jvmArguments = some text ↔
      ∃ (before after : List ArgumentGroup) (group : ArgumentGroup),
        reading.groups = before ++ group :: after ∧ group.value? = some text ∧
          ∀ later ∈ after, later.value? = none := by
  simp only [interpretation, List.getLast?_filterMap]
  exact findSome?_reverse_eq_some_iff

/-- What the user gives is what interpretation finds. -/
theorem userGives_iff {identity : Identity} {arguments : List String} {text : String} :
    UserGives identity arguments text ↔
      (interpret Flag.builtin identity.firstTreatment arguments).jvmArguments = some text := by
  cases script : identity.runsScripts with
  | true => simp [UserGives, Identity.firstTreatment, script, interpret_relayed]
  | false =>
    let reading := ArgumentReading.ofArguments arguments
    have read : reading.arguments = arguments := ArgumentReading.arguments_ofArguments arguments
    have found : interpret Flag.builtin .interpreted arguments = reading.interpretation := by
      rw [← read]
      exact interpret_reading reading
    simp only [UserGives, Identity.firstTreatment, script, Bool.false_eq_true, ↓reduceIte, found,
      true_and, ArgumentReading.jvmArguments_eq_some]
    constructor
    · rintro ⟨before, after, group, ending, same, value, none⟩
      have only := ArgumentReading.arguments_eq_iff.1 same
      exact ⟨before, after, group, by simp only [reading, ← only], value, none⟩
    · rintro ⟨before, after, group, split, value, none⟩
      refine ⟨before, after, group, reading.ending, ?_, value, none⟩
      rw [← split]
      exact read

/-- The text that a launch makes of what interpretation finds and of the loaded settings. -/
def extraText (tree : FileTree) (identity : Identity) (arguments : List String) : String :=
  (interpret Flag.builtin identity.firstTreatment arguments).jvmArguments.getD
    ((Settings.load tree identity).1.jvmArguments.getD
      (if identity.runsScripts then scriptArguments else ""))

/-- A launch uses the one text that the sources set. -/
theorem extraText_iff {tree : FileTree} {identity : Identity} {arguments : List String}
    {text : String} :
    ExtraText tree identity arguments text ↔ text = extraText tree identity arguments := by
  let fileText := fun name =>
    Settings.setBy Settings.jvmArguments (Settings.loadFile tree (identity.settingsFile name))
  have fileSets {name given : String} :
      FileSets tree identity name given ↔ fileText name = some given := by
    simp only [fileText, FileSets, Settings.setBy_eq_some, Settings.loadFile_eq_some_iff]
  have ownSets {given : String} :
      identity.baseName ≠ "esxx" ∧ FileSets tree identity identity.baseName given ↔
        (if identity.baseName = "esxx" then none else fileText identity.baseName) = some given := by
    rw [fileSets]
    split <;> simp [*]
  have loaded : (Settings.load tree identity).1.jvmArguments = (fileText "esxx").or
      (if identity.baseName = "esxx" then none else fileText identity.baseName) :=
    Settings.layered_jvmArguments.load tree identity
  rw [extraText, loaded, Option.getD_or]
  exact firstSet_cons_iff userGives_iff
    (firstSet_cons_iff fileSets (firstSet_cons_iff ownSets firstSet_nil_iff))

/-- A text of extra arguments is written as it is, unless it is empty. -/
theorem Addition.text_extra (text : String) :
    (Addition.extra text).text = if text = "" then "" else " " ++ text := by
  by_cases empty : text = ""
  · simp [Addition.text, Addition.parts, empty]
  · simp [Addition.text, Addition.parts, Part.written, empty]

/-- A property is written between double quotes. -/
theorem Addition.text_property (name value : String) :
    (Addition.property name value).text = " \"" ++ Part.propertyText name value ++ "\"" := by
  apply String.toList_inj.1
  simp [Addition.text, Addition.parts, Part.written]

/-- The words of a text are its shell words or, where it has none, its runs between white space. -/
def IsWordsOf (words : List String) (text : String) : Prop :=
  Shell.words? text = some words ∨ Shell.words? text = none ∧ words = Text.blankWords text

/-- The empty text adds no argument, and any other text adds its words. -/
theorem Addition.arguments_extra (text : String) :
    (text = "" → (Addition.extra text).arguments = []) ∧
      (text ≠ "" → IsWordsOf (Addition.extra text).arguments text) := by
  constructor
  · rintro rfl
    rfl
  · intro nonempty
    have adds : (Addition.extra text).arguments = Part.extraWords text := by
      simp [Addition.arguments, Addition.parts, Part.arguments, nonempty]
    rw [adds, IsWordsOf, Part.extraWords]
    cases Shell.words? text with
    | none => exact .inr ⟨rfl, rfl⟩
    | some words => exact .inl rfl

/-- The extra arguments of a setup are those of the settings, or else the default. -/
theorem javaSetup_extraArguments (settings : Settings) (identity : Identity)
    (environment : Environment) :
    (settings.javaSetup identity environment).extraArguments =
      settings.jvmArguments.getD (if identity.runsScripts then scriptArguments else "") := rfl

/-- A command line begins with extra arguments and a property: a text that is not empty stands as it
is between the program and the property, and its words before the property, and an empty one leaves
no trace. -/
def BeginsWith (commandLine : CommandLine) (text property : String) : Prop :=
  (text = "" →
    (∃ rest, commandLine.line =
      "\"" ++ commandLine.program ++ "\" \"" ++ property ++ "\"" ++ rest) ∧
    ∃ rest, commandLine.arguments = property :: rest) ∧
  (text ≠ "" →
    (∃ rest, commandLine.line =
      "\"" ++ commandLine.program ++ "\" " ++ text ++ " \"" ++ property ++ "\"" ++ rest) ∧
    ∃ words rest, IsWordsOf words text ∧ commandLine.arguments = words ++ property :: rest)

/-- An assembly from extra arguments and a property begins with them. -/
theorem beginsWith_assembled (program text name value : String) (later : List Addition) :
    BeginsWith (.assembled program (.extra text :: .property name value :: later)) text
      (Part.propertyText name value) := by
  have line : (CommandLine.assembled program
      (.extra text :: .property name value :: later)).line =
        "\"" ++ program ++ "\"" ++ ((Addition.extra text).text ++
          ((Addition.property name value).text ++ String.join (later.map Addition.text))) := by
    simp only [CommandLine.line_assembled, List.map_cons, String.join_cons]
  have arguments : (CommandLine.assembled program
      (.extra text :: .property name value :: later)).arguments =
        (Addition.extra text).arguments ++
          Part.propertyText name value :: later.flatMap Addition.arguments :=
    CommandLine.arguments_assembled _ _
  obtain ⟨nothing, words⟩ := Addition.arguments_extra text
  rw [Addition.text_extra, Addition.text_property] at line
  rw [BeginsWith, CommandLine.program_assembled, line, arguments]
  let written := String.join (later.map Addition.text)
  constructor
  · intro empty
    rw [if_pos empty, nothing empty]
    refine ⟨⟨written, ?_⟩, _, rfl⟩
    apply String.toList_inj.1
    simp [written]
  · intro nonempty
    rw [if_neg nonempty]
    refine ⟨⟨written, ?_⟩, _, _, words nonempty, rfl⟩
    apply String.toList_inj.1
    simp [written]

/-- In every launch with the settings of its configuration files, one text is set by the first
source of extra arguments that sets any, whatever the environment, and the command line begins with
this text and the search path. -/
theorem make_extra_precedence (tree : FileTree) (identity : Identity) (arguments : List String) :
    ∃ text, (∀ other, ExtraText tree identity arguments other ↔ other = text) ∧
      ∀ environment : Environment,
        let settings := (Settings.load tree identity).1
        let setup := settings.javaSetup identity environment
        BeginsWith (LaunchPlan.make tree identity arguments settings environment).commandLine text
          ("-Desxx.app.include_path=" ++ joinedSearchPath setup.searchPath) := by
  refine ⟨extraText tree identity arguments, fun other => extraText_iff, fun environment => ?_⟩
  intro settings setup
  have text : (interpret Flag.builtin identity.firstTreatment arguments).jvmArguments.getD
      (settings.javaSetup identity environment).extraArguments =
        extraText tree identity arguments := by
    simp only [settings, javaSetup_extraArguments, extraText]
  rw [LaunchPlan.make_commandLine, text]
  exact beginsWith_assembled _ _ _ _ _

end JavaLauncher
