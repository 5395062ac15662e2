import JavaLauncher.Identity

/-!
# Launch failures

Whatever keeps a launcher from telling how its program ended is a launch failure. Each has a
diagnostic, and all of them end the launcher with the same exit code.
-/
namespace JavaLauncher

/-- Why a launcher cannot tell how its program ended. -/
inductive LaunchFailure where
  /-- The launcher does not know where it is installed. -/
  | path (cause : PathError)
  /-- The program cannot be started; the code is zero where the system gave none. -/
  | spawn (program : String) (code : Int32)
  /-- The program ended without an exit code. -/
  | noExitCode (program : String)
  deriving DecidableEq, Repr

namespace LaunchFailure

/-- The diagnostic of a launch failure. -/
def message : LaunchFailure → String
  | .path cause => cause.message
  | .spawn program code =>
    "Failed to launch " ++ program ++ ": error code " ++ toString code.toInt ++ "."
  | .noExitCode program =>
    "Child process " ++ program ++ " terminated without an exit code"

/-- The exit code of every launch failure. -/
def exitCode (_ : LaunchFailure) : Int32 := 10

end LaunchFailure

end JavaLauncher
