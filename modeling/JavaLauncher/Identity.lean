import JavaLauncher.Text.LowerCase

/-!
# The identity of a launcher

A launcher knows itself by the path of its executable: the directory it is installed in, with
the separator at its end, and the name of its file. Slashes and backslashes both separate, and
the last of either ends the directory. The base name, the file name up to its first dot in
lower case, selects the configuration file and the mode.
-/
namespace JavaLauncher

/-- Why the path of the executable gives no identity. -/
inductive PathError where
  /-- The system does not tell the path. -/
  | unknown (reason : String)
  /-- The path has more bytes than the limit. -/
  | tooLong (length limit : Nat)
  /-- The path is not valid text; it is given as far as it can be shown. -/
  | notText (path : String)
  /-- The path has neither a slash nor a backslash. -/
  | bareName (path : String)
  deriving DecidableEq, Repr

/-- The diagnostic of a path error. -/
def PathError.message : PathError → String
  | .unknown reason => "Unable to determine launcher path: " ++ reason
  | .tooLong length limit =>
    "Launcher path is " ++ toString length ++ " bytes long, limit is " ++ toString limit
  | .notText path => "Launcher path " ++ path ++ " is not valid Unicode"
  | .bareName path => "Expected at least one (back-) slash in module name " ++ path ++ "."

/-- Where a launcher is installed and what it is called. -/
structure Identity where
  /-- The installation directory, with the separator at its end. -/
  directory : String
  /-- The name of the executable file. -/
  program : String
  deriving DecidableEq, Repr

namespace Identity

/-- The most bytes that the path of the executable may have. -/
def pathLimit : Nat := 1023

/-- A slash or a backslash. -/
def isSeparator (c : Char) : Bool := c == '/' || c == '\\'

/-- A path without the name after its last separator. -/
def directoryPart (path : List Char) : List Char :=
  (path.reverse.dropWhile (!isSeparator ·)).reverse

/-- The name after the last separator of a path. -/
def namePart (path : List Char) : List Char :=
  (path.reverse.takeWhile (!isSeparator ·)).reverse

/-- The identity of the launcher at a path. A path over the limit is refused whether or not it
has a separator. -/
def ofPath (path : String) : Except PathError Identity :=
  if pathLimit < path.utf8ByteSize then .error (.tooLong path.utf8ByteSize pathLimit)
  else if path.toList.any isSeparator then
    .ok ⟨String.ofList (directoryPart path.toList), String.ofList (namePart path.toList)⟩
  else .error (.bareName path)

/-- The file name up to its first dot. -/
def stem (identity : Identity) : String :=
  String.ofList (identity.program.toList.takeWhile (· != '.'))

/-- The stem in lower case. -/
def baseName (identity : Identity) : String := Text.lowerCase identity.stem

/-- The base name of a launcher that relays every argument to a script. -/
def scriptName : String := "esxx-js"

/-- The launcher relays every argument as it is. -/
def runsScripts (identity : Identity) : Bool := identity.baseName == scriptName

/-- The path of a file of the installation, given below the installation directory. -/
def installedPath (identity : Identity) (below : String) : String := identity.directory ++ below

/-- The directory and the name together are the path. -/
theorem directoryPart_append_namePart (path : List Char) :
    directoryPart path ++ namePart path = path := by
  rw [directoryPart, namePart, ← List.reverse_append, List.takeWhile_append_dropWhile,
    List.reverse_reverse]

/-- The name holds no separator. -/
theorem isSeparator_of_mem_namePart {path : List Char} {c : Char} (member : c ∈ namePart path) :
    isSeparator c = false := by
  rw [namePart, List.mem_reverse] at member
  simpa using List.all_eq_true.1 List.all_takeWhile c member

end Identity

end JavaLauncher
