import JavaLauncher.Launch.Plan
import JavaLauncher.Proofs.Arguments.Composition

/-!
# Relayed arguments

Arguments are relayed where nothing acts upon them: all of them by a launcher that runs scripts,
and otherwise those after the separator. A launch with relayed arguments is the launch without them
in which they are added at the end of the command line (`make_of_script`, `make_of_separator`), so
that their contents reach no other part of it: not the program, the arguments in front, their place
on the line, or the text that is shown.
-/
namespace JavaLauncher

/-- Arguments as they are relayed on a line: each of them quoted, after a space. -/
def relayedText (arguments : List String) : String :=
  String.join (arguments.map fun argument => " " ++ Shell.quote argument)

namespace CommandLine

/-- Arguments may be added one list after the other. -/
theorem addArguments_append (commandLine : CommandLine) (first second : List String) :
    commandLine.addArguments (first ++ second) =
      (commandLine.addArguments first).addArguments second := by
  simp [addArguments, add]

/-- Added arguments stand at the end of the arguments as they are. -/
theorem arguments_addArguments (commandLine : CommandLine) (added : List String) :
    (commandLine.addArguments added).arguments = commandLine.arguments ++ added := by
  rw [addArguments, arguments_add, List.flatMap_map]
  simp [Part.arguments]

/-- Added arguments stand at the end of the line, quoted. -/
theorem line_addArguments (commandLine : CommandLine) (added : List String) :
    (commandLine.addArguments added).line = commandLine.line ++ relayedText added := by
  rw [addArguments, line_add, List.map_map]
  rfl

end CommandLine

/-- The separator is the built-in flag that ends the options. -/
theorem interpret_separator (relayed : List String) :
    interpret Flag.builtin .interpreted ("--" :: relayed) = ⟨none, relayed, [], .relayed⟩ := by
  have found : lookupFlag Flag.builtin "--" = some (Flag.builtin[3], none) := by decide
  rw [interpret_end found rfl, interpret_relayed]

/-- Arguments that are interpreted to their end, with no flag left that waits for its value, stay
what they are when the separator and arguments to relay follow them. -/
theorem interpret_append_separator_relayed {own : List String}
    (ends : (interpret Flag.builtin .interpreted own).treatment = .interpreted)
    (complete : ¬Dangles Flag.builtin .interpreted own) (relayed : List String) :
    interpret Flag.builtin .interpreted (own ++ ["--"] ++ relayed) =
      (interpret Flag.builtin .interpreted own).followedBy ⟨none, relayed, [], .relayed⟩ := by
  obtain ⟨stop, reads⟩ :=
    (readThrough_or_dangles Flag.builtin .interpreted own).resolve_right complete
  obtain rfl : .interpreted = stop := ends.symm.trans reads.treatment_eq
  rw [List.append_assoc, List.singleton_append, reads.interpret_append, interpret_separator]

namespace LaunchPlan

/-- A plan with arguments added at the end of its command line. -/
def relaying (plan : LaunchPlan) (relayed : List String) : LaunchPlan :=
  { plan with commandLine := plan.commandLine.addArguments relayed }

/-- Two lists of arguments that ask for the same, but that the second forwards more, plan the same,
but that the second adds what it forwards more. -/
theorem ofSetup_eq_relaying {identity : Identity} {own more relayed : List String}
    (asked : interpret Flag.builtin identity.firstTreatment more =
      (interpret Flag.builtin identity.firstTreatment own).followedBy
        ⟨none, relayed, [], .relayed⟩)
    (setup : JavaSetup) (archives : List RawText) :
    ofSetup identity setup archives more =
      (ofSetup identity setup archives own).relaying relayed := by
  simp only [ofSetup, asked, Interpretation.followedBy, Option.none_or, List.append_nil, relaying,
    commandLineFor, CommandLine.addArguments_append]

/-- A launcher that runs scripts adds its arguments to the launch without any. -/
theorem make_of_script {identity : Identity} (script : identity.runsScripts = true)
    (tree : FileTree) (settings : Settings) (environment : Environment)
    (relayed : List String) :
    make tree identity relayed settings environment =
      (make tree identity [] settings environment).relaying relayed := by
  apply ofSetup_eq_relaying
  simp [Identity.firstTreatment, script, interpret_relayed, Interpretation.followedBy]

/-- Any other launcher adds the arguments after the separator to the launch of those before. -/
theorem make_of_separator {identity : Identity} (plain : identity.runsScripts = false)
    {own : List String}
    (ends : (interpret Flag.builtin .interpreted own).treatment = .interpreted)
    (complete : ¬Dangles Flag.builtin .interpreted own) (tree : FileTree)
    (settings : Settings) (environment : Environment) (relayed : List String) :
    make tree identity (own ++ ["--"] ++ relayed) settings environment =
      (make tree identity own settings environment).relaying relayed := by
  have first : identity.firstTreatment = .interpreted := by simp [Identity.firstTreatment, plain]
  apply ofSetup_eq_relaying
  rw [first]
  exact interpret_append_separator_relayed ends complete relayed

/-- Without arguments, a launcher that runs scripts shows nothing and announces them at the end. -/
theorem make_nil_of_script {identity : Identity} (script : identity.runsScripts = true)
    (tree : FileTree) (settings : Settings) (environment : Environment) :
    ["--script", "--"] <:+ (make tree identity [] settings environment).commandLine.arguments ∧
      (make tree identity [] settings environment).output = "" := by
  constructor
  · simp only [make, ofSetup, commandLineFor, Identity.firstTreatment, script, ↓reduceIte,
      interpret_relayed, CommandLine.arguments_addArguments, CommandLine.addScriptMarker,
      List.append_nil]
    rw [CommandLine.arguments_add]
    exact List.suffix_append _ _
  · simp [make, ofSetup, outputFor, Identity.firstTreatment, script, interpret_relayed]

end LaunchPlan

/-- The launches of arguments that are relayed after those of a plan: they run the program of the
plan with its arguments and then the relayed ones, on the line of the plan and then the relayed
ones quoted, and they show the text of the plan. -/
structure RelaysAfter (plan : LaunchPlan) (launch : List String → LaunchPlan) : Prop where
  /-- The program does not depend on relayed arguments. -/
  program : ∀ relayed, (launch relayed).commandLine.program = plan.commandLine.program
  /-- Relayed arguments follow the others as they are. -/
  arguments : ∀ relayed,
    (launch relayed).commandLine.arguments = plan.commandLine.arguments ++ relayed
  /-- Relayed arguments follow the line of the others, quoted. -/
  line : ∀ relayed,
    (launch relayed).commandLine.line = plan.commandLine.line ++ relayedText relayed
  /-- The text to show does not depend on relayed arguments. -/
  output : ∀ relayed, (launch relayed).output = plan.output

/-- Launches that only add arguments to a plan relay them. -/
theorem relaysAfter_of_eq_relaying {plan : LaunchPlan} {launch : List String → LaunchPlan}
    (adds : ∀ relayed, launch relayed = plan.relaying relayed) : RelaysAfter plan launch where
  program relayed := by rw [adds]; rfl
  arguments relayed := by
    rw [adds]
    exact plan.commandLine.arguments_addArguments relayed
  line relayed := by
    rw [adds]
    exact plan.commandLine.line_addArguments relayed
  output relayed := by rw [adds]; rfl

namespace LaunchPlan

/-- Whatever the file tree, the settings and the environment, a launcher that runs scripts relays
all arguments after a plan that ends in the script marker and shows nothing, and any other launcher
relays all arguments after the separator, behind the plan of those before it, provided that these
are interpreted to their end and that no flag among them still waits for its value. -/
theorem make_relays (tree : FileTree) (identity : Identity) (settings : Settings)
    (environment : Environment) :
    (identity.runsScripts = true →
      ["--script", "--"] <:+ (make tree identity [] settings environment).commandLine.arguments ∧
      (make tree identity [] settings environment).output = "" ∧
      RelaysAfter (make tree identity [] settings environment)
        fun relayed => make tree identity relayed settings environment) ∧
    (identity.runsScripts = false → ∀ own : List String,
      (interpret Flag.builtin .interpreted own).treatment = .interpreted →
      ¬Dangles Flag.builtin .interpreted own →
        RelaysAfter (make tree identity own settings environment)
          fun relayed => make tree identity (own ++ ["--"] ++ relayed) settings environment) := by
  constructor
  · intro script
    obtain ⟨announced, silent⟩ := make_nil_of_script script tree settings environment
    exact ⟨announced, silent,
      relaysAfter_of_eq_relaying (make_of_script script tree settings environment)⟩
  · intro plain own ends complete
    exact relaysAfter_of_eq_relaying
      (make_of_separator plain ends complete tree settings environment)

/-- A copy that runs scripts relays a request for help that the launcher itself would act upon, and
the launcher does so after a separator; the separator before that one is a value. -/
theorem make_relays_requests :
    let copy : Identity := ⟨"/opt/esxx/bin/", "ESXX-js.exe"⟩
    let launcher : Identity := ⟨"/opt/esxx/bin/", "esxx"⟩
    let launched := fun identity arguments =>
      make .empty identity arguments Settings.unset fun _ => none
    copy.runsScripts = true ∧ (launched copy ["--help", "--", ""]).output = "" ∧
      launcher.runsScripts = false ∧
      (interpret Flag.builtin .interpreted ["-j", "--", "a"]).treatment = .interpreted ∧
      ¬Dangles Flag.builtin .interpreted ["-j", "--", "a"] ∧
      (launched launcher ["-j", "--", "a", "--", "--help", "--"]).commandLine.arguments =
        (launched launcher ["-j", "--", "a"]).commandLine.arguments ++ ["--help", "--"] := by
  intro copy launcher launched
  have script : copy.runsScripts = true := by decide
  have plain : launcher.runsScripts = false := by decide
  have ends : (interpret Flag.builtin .interpreted ["-j", "--", "a"]).treatment = .interpreted := by
    decide
  have complete : ¬Dangles Flag.builtin .interpreted ["-j", "--", "a"] := by
    rintro ⟨front, flag, split, _, definition, found, _⟩
    obtain rfl : "a" = flag := by simpa using congrArg List.getLast? split
    cases found
  obtain ⟨_, silent, relays⟩ :=
    (make_relays .empty copy Settings.unset fun _ => none).1 script
  have after := (make_relays .empty launcher Settings.unset fun _ => none).2 plain
    ["-j", "--", "a"] ends complete
  exact ⟨script, (relays.output _).trans silent, plain, ends, complete,
    after.arguments ["--help", "--"]⟩

end LaunchPlan

end JavaLauncher
