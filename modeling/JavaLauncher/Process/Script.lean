import JavaLauncher.FileTree.Access

/-!
# Recording scripts

A recording script stands in for an interpreter: it writes the arguments it is given to the end
of a file, each followed by a NUL, and ends with a fixed status. It is a shell script of which
two commands are understood, the loop that records and `exit`; other lines do nothing.
-/
namespace JavaLauncher

/-- A command of a recording script. -/
inductive ScriptCommand where
  /-- Writes the arguments to the end of the file at a path. -/
  | record (path : RawText)
  /-- Ends the script with a status. -/
  | exit (status : Nat)
  deriving DecidableEq, Repr

namespace ScriptCommand

/-- The part of the recording loop before the path. -/
def recordFront : RawText := "for a in \"$@\"; do printf '%s\\0' \"$a\" >> "

/-- The part of the recording loop after the path. -/
def recordBack : RawText := "; done"

/-- The command that ends a script, before its status. -/
def exitFront : RawText := "exit "

/-- What stands between two texts that a line begins and ends with. -/
def between? (front back line : RawText) : Option RawText :=
  let rest := line.bytes.drop front.size
  if front.bytes.isPrefixOf line.bytes && back.bytes.isSuffixOf rest then
    some ⟨rest.take (rest.length - back.size)⟩
  else none

/-- The command on a line. -/
def ofLine? (line : RawText) : Option ScriptCommand :=
  match between? recordFront recordBack line with
  | some path => some (.record path)
  | none => do
    let digits ← between? exitFront "" line
    return .exit (← digits.shown.toNat?)

/-- The commands of a script. -/
def ofScript (script : List UInt8) : List ScriptCommand :=
  (RawText.split 0x0a ⟨script⟩).filterMap ofLine?

/-- The bytes that recording writes. -/
def recorded (arguments : List String) : List UInt8 :=
  arguments.flatMap fun argument => Text.Utf8.encode argument ++ [0]

/-- Runs commands with arguments: the status they end with, and the tree after them. -/
def run (arguments : List String) : List ScriptCommand → FileTree → Nat × FileTree
  | [], tree => (0, tree)
  | .exit status :: _, tree => (status % 256, tree)
  | .record path :: rest, tree =>
    match arguments, tree.opened path with
    | [], _ => run arguments rest tree
    | _, .ok (location, .file contents executable) =>
      run arguments rest
        (tree.put location (.file (contents ++ recorded arguments) executable))
    | _, .error .missing =>
      run arguments rest (tree.put (tree.locate path) (.file (recorded arguments) false))
    | _, _ => run arguments rest tree

end ScriptCommand

end JavaLauncher
