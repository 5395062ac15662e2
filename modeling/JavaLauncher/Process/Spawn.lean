import JavaLauncher.Launch.Run
import JavaLauncher.Process.Script

/-!
# Starting programs in a file tree

A program given by a path is started from the file there, which must be an executable script; a
program given by a bare name is not found. A NUL in the program or an argument is refused before
the system is asked, so that the error has no code of the system.
-/
namespace JavaLauncher

/-- The most bytes that one argument may have. -/
def argumentLimit : Nat := 131071

/-- A text has no NUL. -/
def isNulFree (text : String) : Bool := !text.toList.contains '\x00'

/-- The script that a program is. -/
def FileTree.executable (tree : FileTree) (program : String) :
    Except SystemError (List UInt8) := do
  if program.toList.contains '/' then
    match tree.entry? (← tree.resolve program) with
    | some (.file contents true) =>
      if [0x23, 0x21].isPrefixOf contents then .ok contents else .error .notExecutable
    | some _ => .error .permissionDenied
    | none => .error .missing
  else .error .missing

/-- Starts a command line in a file tree and waits for the end of its script. -/
def FileTree.start : Starter FileTree := fun commandLine tree =>
  let program := commandLine.program
  let arguments := commandLine.arguments
  if (program :: arguments).all isNulFree then
    match tree.executable program with
    | .error cause => (.error (.spawn program cause.code), tree)
    | .ok contents =>
      if arguments.all fun argument => argument.utf8ByteSize ≤ argumentLimit then
        let commands := ScriptCommand.ofScript contents
        let (status, after) := ScriptCommand.run arguments commands tree
        (.ok (Int32.ofNat status), after)
      else (.error (.spawn program SystemError.argumentTooLong.code), tree)
  else (.error (.spawn program 0), tree)

end JavaLauncher
