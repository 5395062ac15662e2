import JavaLauncher.Launch.Plan
import JavaLauncher.Launch.Failure
import JavaLauncher.Launch.Output
import JavaLauncher.Warning

/-!
# Running a launch

A launch shows its text, starts its command line once and passes on the exit code of the
program. What cannot be shown is warned about and changes nothing else; what keeps the program
from running or from telling its exit code is told in one diagnostic.

The output and the starting itself are parameters. Starting is any function that takes a command
line and a state of the world to an outcome and another state.
-/
namespace JavaLauncher

/-- How a command line ends: with an exit code or in a failure. -/
abbrev Outcome := Except LaunchFailure Int32

/-- Starts a command line and waits for its end. -/
abbrev Starter (World : Type) := CommandLine → World → Outcome × World

/-- What a launch acts upon. -/
structure Stage (Console World : Type) where
  /-- The state of the output. -/
  console : Console
  /-- The text of the diagnostics so far. -/
  diagnostics : String
  /-- The warnings so far, in order. -/
  warnings : List Warning
  /-- The state of the world in which programs are started. -/
  world : World

section

variable {Console World : Type}

/-- Nothing has been told yet. -/
def Stage.opening (console : Console) (world : World) : Stage Console World :=
  ⟨console, "", [], world⟩

/-- Adds warnings. -/
def warn (warnings : List Warning) : StateM (Stage Console World) Unit :=
  modify fun stage => { stage with warnings := stage.warnings ++ warnings }

/-- Prints a text, and warns where the output does not take it. -/
def present (output : Output Console) (text : String) : StateM (Stage Console World) Unit := do
  let (result, console) := output.print text (← get).console
  modify fun stage => { stage with console }
  if let .error reason := result then warn [.outputRefused reason]

/-- Starts a command line. -/
def await (start : Starter World) (commandLine : CommandLine) :
    StateM (Stage Console World) Outcome :=
  modifyGet fun stage =>
    let (outcome, world) := start commandLine stage.world
    (outcome, { stage with world })

/-- Tells a failure in a line of its own, and gives its exit code. -/
def giveUp (failure : LaunchFailure) : StateM (Stage Console World) Int32 := do
  modify fun stage => { stage with diagnostics := stage.diagnostics ++ failure.message ++ "\n" }
  return failure.exitCode

/-- Starts a command line and passes its exit code on, or tells why there is none. -/
def runCommand (start : Starter World) (commandLine : CommandLine) :
    StateM (Stage Console World) Int32 := do
  match ← await start commandLine with
  | .ok code => return code
  | .error failure => giveUp failure

/-- Runs a launch: prints its text, unless that is empty, and runs its command line. -/
def LaunchPlan.run (plan : LaunchPlan) (output : Output Console) (start : Starter World) :
    StateM (Stage Console World) Int32 := do
  unless plan.output = "" do present output plan.output
  runCommand start plan.commandLine

/-- Runs the launcher installed at a path: finds out who it is, loads its settings, and runs
the launch they come to. A path that gives no identity starts nothing. -/
def runLauncher (tree : FileTree) (path : String) (arguments : List String)
    (environment : Environment) (output : Output Console) (start : Starter World) :
    StateM (Stage Console World) Int32 := do
  match Identity.ofPath path with
  | .error cause => giveUp (.path cause)
  | .ok identity =>
    let (settings, reasons) := Settings.load tree identity
    warn (reasons.map .ignoredConfig)
    (LaunchPlan.make tree identity arguments settings environment).run output start

end

/-- What a launcher leaves behind. -/
structure Report where
  /-- The exit code of the launcher. -/
  code : Int32
  /-- The bytes that the output took. -/
  output : List UInt8
  /-- The text of the diagnostics. -/
  diagnostics : String
  /-- The warnings, in order. -/
  warnings : List Warning

/-- Runs the launcher installed at a path with a pipe as its output, which has room for a number of
bytes, or for any. -/
def launch {World : Type} (tree : FileTree) (path : String) (arguments : List String)
    (environment : Environment) (start : Starter World) (room : Option Nat) (world : World) :
    Report × World :=
  let (code, stage) :=
    Id.run ((runLauncher tree path arguments environment Pipe.output start).run
      (.opening ⟨[], room⟩ world))
  (⟨code, stage.console.taken, stage.diagnostics, stage.warnings⟩, stage.world)

end JavaLauncher
