import JavaLauncher.Launch.Plan
import JavaLauncher.Proofs.CommandLine.Agreement

/-!
# How a launch is assembled

The command line of a launch is assembled from its extra arguments, the search path, the class path
and the rest (`make_commandLine`). So the program is the interpreter of the setup (`program_make`),
and among the arguments the search path is followed at once by the class path, whoever launches what
(`infix_arguments_make`).
-/
namespace JavaLauncher

/-- What an addition writes on a line: each of its parts, after a space. -/
def Addition.text (addition : Addition) : String :=
  String.join (addition.parts.map fun part => " " ++ part.written)

/-- The arguments that an addition adds. -/
def Addition.arguments (addition : Addition) : List String :=
  addition.parts.flatMap Part.arguments

namespace CommandLine

/-- The line of an assembly is the program between double quotes and what each addition writes. -/
theorem line_assembled (program : String) (additions : List Addition) :
    (assembled program additions).line =
      "\"" ++ program ++ "\"" ++ String.join (additions.map Addition.text) := by
  apply String.toList_inj.1
  simp [line, writtenProgram, tail, program_assembled, parts_assembled, Addition.text,
    List.flatMap_map, List.flatMap_assoc]

/-- The arguments of an assembly are those that each addition adds. -/
theorem arguments_assembled (program : String) (additions : List Addition) :
    (assembled program additions).arguments = additions.flatMap Addition.arguments := by
  rw [arguments, parts_assembled, List.flatMap_assoc]
  rfl

end CommandLine

namespace LaunchPlan

/-- What a launch adds to its command line after its lists. -/
def lastAdditions (identity : Identity) (arguments : List String) : List Addition :=
  [.mainArchive (identity.installedPath mainArchive), .scriptMarker identity.runsScripts,
    .programArguments (interpret Flag.builtin identity.firstTreatment arguments).forwarded]

section

variable (tree : FileTree) (identity : Identity) (arguments : List String) (settings : Settings)
  (environment : Environment)

/-- A launch adds the extra arguments that it interprets or those of its setup, then the search path
and the archives, and then the rest. -/
theorem make_commandLine :
    let setup := settings.javaSetup identity environment
    (make tree identity arguments settings environment).commandLine =
      CommandLine.assembled setup.interpreter
        (.extra ((interpret Flag.builtin identity.firstTreatment arguments).jvmArguments.getD
            setup.extraArguments) ::
          .property includePathProperty (joinedSearchPath setup.searchPath) ::
          .property classPathProperty
            (ClassPath.joined (ClassPath.archives tree setup.searchPath)) ::
          lastAdditions identity arguments) := rfl

/-- A launch runs the interpreter of its setup. -/
theorem program_make :
    (make tree identity arguments settings environment).commandLine.program =
      (settings.javaSetup identity environment).interpreter := by
  rw [make_commandLine]
  exact CommandLine.program_assembled _ _

/-- A launch tells the search path of its setup and, right after it, the archives of this search
path; what it runs comes next. -/
theorem infix_arguments_make :
    let setup := settings.javaSetup identity environment
    ["-Desxx.app.include_path=" ++ joinedSearchPath setup.searchPath,
        "-Done-jar.class.path=" ++ ClassPath.joined (ClassPath.archives tree setup.searchPath),
        "-jar", identity.installedPath "sbin/esxx.jar"] <:+:
      (make tree identity arguments settings environment).commandLine.arguments := by
  intro setup
  have assembly := congrArg CommandLine.arguments
    (make_commandLine tree identity arguments settings environment)
  rw [CommandLine.arguments_assembled, lastAdditions, List.flatMap_cons, List.flatMap_cons,
    List.flatMap_cons, List.flatMap_cons] at assembly
  exact ⟨_, _, (List.append_assoc _ _ _).trans assembly.symm⟩

end

end LaunchPlan

end JavaLauncher
