import JavaLauncher.Settings.Basic
import JavaLauncher.Identity
import JavaLauncher.Text.Segments

/-!
# The Java setup of a launch

What the configuration files leave open is taken from the environment, and what that leaves
open has a default. A Java installation and a search path count only where they are not empty;
extra arguments count wherever they are set, and the environment has no say in them.
-/
namespace JavaLauncher

/-- The values of environment variables; a variable that is not set has none. -/
abbrev Environment := String → Option String

/-- How Java is run: everything that settings and environment decide together. -/
structure JavaSetup where
  /-- The program that runs Java. -/
  interpreter : String
  /-- The extra arguments of the Java virtual machine, as one text. -/
  extraArguments : String
  /-- The directories that hold libraries. -/
  searchPath : List String
  deriving DecidableEq, Repr

/-- The variable that names the Java installation. -/
def javaHomeVariable : String := "JAVA_HOME"

/-- The variable that lists library directories, separated by semicolons. -/
def searchPathVariable : String := "ESXX_PATH"

/-- The program that runs Java where no installation is named. -/
def defaultInterpreter : String := "java"

/-- The extra arguments of a launcher that runs scripts. -/
def scriptArguments : String := "-client"

/-- The library directories of an installation. -/
def Identity.defaultSearchPath (identity : Identity) : List String :=
  [identity.installedPath "share", identity.installedPath "share/site"]

/-- A text without the slashes and backslashes at its end. -/
def dropTrailingSeparators (text : String) : String :=
  String.ofList (text.toList.reverse.dropWhile Identity.isSeparator).reverse

/-- The program that runs Java in an installation. -/
def javaIn (home : String) : String := dropTrailingSeparators home ++ "/bin/java"

/-- The value of a variable, unless it is empty. -/
def Environment.nonempty? (environment : Environment) (name : String) : Option String :=
  (environment name).filter (· ≠ "")

namespace Settings

/-- The Java installation that counts. -/
def javaHome? (settings : Settings) (environment : Environment) : Option String :=
  (settings.javaHome.filter (· ≠ "")).or (environment.nonempty? javaHomeVariable)

/-- The entries of a list that are not empty, if there are any. -/
def nonemptyEntries? (entries : List String) : Option (List String) :=
  let kept := entries.filter (· ≠ "")
  if kept = [] then none else some kept

/-- The library directories that count, unless only the defaults are left. -/
def searchPath? (settings : Settings) (environment : Environment) : Option (List String) :=
  (settings.searchPath.bind nonemptyEntries?).or
    ((environment searchPathVariable).bind fun text =>
      nonemptyEntries? (Text.fields (· == ';') text))

/-- The Java setup that settings, an installation and the environment come to. -/
def javaSetup (settings : Settings) (identity : Identity) (environment : Environment) : JavaSetup :=
  { interpreter :=
      ((settings.javaHome? environment).map javaIn).getD defaultInterpreter
    extraArguments :=
      settings.jvmArguments.getD (if identity.runsScripts then scriptArguments else "")
    searchPath := (settings.searchPath? environment).getD identity.defaultSearchPath }

end Settings

end JavaLauncher
