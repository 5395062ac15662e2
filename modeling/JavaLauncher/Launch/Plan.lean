import JavaLauncher.Arguments.Interpretation
import JavaLauncher.Flag.Usage
import JavaLauncher.Settings.Setup
import JavaLauncher.ClassPath
import JavaLauncher.CommandLine

/-!
# Launch plans

The plan of a launch is the command line to run and the text to show before it runs. The command
line has the extra arguments of the Java virtual machine first, of which those given by the user
replace those of the setup, then the search path and the class path as properties, the archive
of the program, and the arguments for the program. A launcher that runs scripts announces these
arguments and relays all of them.
-/
namespace JavaLauncher

/-- The property that holds the search path. -/
def includePathProperty : String := "esxx.app.include_path"

/-- The property that holds the class path. -/
def classPathProperty : String := "one-jar.class.path"

/-- The archive of the program, below the installation directory. -/
def mainArchive : String := "sbin/esxx.jar"

/-- A search path as one text. -/
def joinedSearchPath (searchPath : List String) : String := ";".intercalate searchPath

/-- The first treatment of the arguments of a launcher. -/
def Identity.firstTreatment (identity : Identity) : Treatment :=
  if identity.runsScripts then .relayed else .interpreted

/-- The text that a request about a program with a registry of flags is answered with. -/
def Request.text (program : String) (registry : List Flag) : Request → String
  | .help => usageMessage program registry
  | .version => versionMessage program

/-- What a launch runs and shows. -/
structure LaunchPlan where
  /-- The command line to run. -/
  commandLine : CommandLine
  /-- The text to show before. -/
  output : String
  deriving DecidableEq, Repr

namespace LaunchPlan

/-- The command line for a Java setup, the archives of a class path, the extra arguments that
the user gives, if any, and the arguments to forward. -/
def commandLineFor (identity : Identity) (setup : JavaSetup) (archives : List RawText)
    (jvmArguments : Option String) (forwarded : List String) : CommandLine :=
  CommandLine.ofProgram setup.interpreter
    |>.addExtra (jvmArguments.getD setup.extraArguments)
    |>.addProperty includePathProperty (joinedSearchPath setup.searchPath)
    |>.addProperty classPathProperty (ClassPath.joined archives)
    |>.addMainArchive (identity.installedPath mainArchive)
    |>.addScriptMarker identity.runsScripts
    |>.addArguments forwarded

/-- The text that requests are answered with, in their order. -/
def outputFor (identity : Identity) (requests : List Request) : String :=
  String.join (requests.map (Request.text identity.program Flag.builtin))

/-- The plan for a Java setup and the archives of a class path. -/
def ofSetup (identity : Identity) (setup : JavaSetup) (archives : List RawText)
    (arguments : List String) : LaunchPlan :=
  let interpretation := interpret Flag.builtin identity.firstTreatment arguments
  { commandLine :=
      commandLineFor identity setup archives interpretation.jvmArguments interpretation.forwarded
    output := outputFor identity interpretation.requests }

/-- The plan of a launch in a file tree. -/
def make (tree : FileTree) (identity : Identity) (arguments : List String)
    (settings : Settings) (environment : Environment) : LaunchPlan :=
  let setup := settings.javaSetup identity environment
  ofSetup identity setup (ClassPath.archives tree setup.searchPath) arguments

end LaunchPlan

end JavaLauncher
