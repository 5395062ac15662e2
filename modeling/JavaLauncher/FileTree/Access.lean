import JavaLauncher.FileTree.Basic

/-!
# Paths in a file tree

A path is a list of names between slashes. It is walked from the working directory, or from the root
where it begins with a slash; an empty name and `.` stay where they are and `..` goes up, but only
from a directory. Any name but the empty one is looked up, also `.` and `..`, and so it needs a
directory that is open to searching. Files are read and directories are listed by path, and what
goes wrong is told as one of the errors of the system.

What is read of a file tree comes to an end. A file system is a tree in which some of the special
files do not: whoever reads one of them waits for ever.
-/
namespace JavaLauncher

/-- The errors that the system reports. -/
inductive SystemError where
  /-- Nothing stands at the path. -/
  | missing
  /-- An argument is longer than a program may be given. -/
  | argumentTooLong
  /-- The file is no program. -/
  | notExecutable
  /-- The file may not be read or executed, or the directory not be searched. -/
  | permissionDenied
  /-- A file stands where the path needs a directory. -/
  | notDirectory
  /-- A directory stands where a file is needed. -/
  | isDirectory
  /-- The path or one of its names is too long. -/
  | nameTooLong
  deriving DecidableEq, Repr

namespace SystemError

/-- The number of an error. -/
def code : SystemError → Int32
  | .missing => 2
  | .argumentTooLong => 7
  | .notExecutable => 8
  | .permissionDenied => 13
  | .notDirectory => 20
  | .isDirectory => 21
  | .nameTooLong => 36

/-- The name of an error. -/
def description : SystemError → String
  | .missing => "No such file or directory"
  | .argumentTooLong => "Argument list too long"
  | .notExecutable => "Exec format error"
  | .permissionDenied => "Permission denied"
  | .notDirectory => "Not a directory"
  | .isDirectory => "Is a directory"
  | .nameTooLong => "File name too long"

/-- An error with its name and number. -/
def message (error : SystemError) : String :=
  error.description ++ " (os error " ++ toString error.code.toInt ++ ")"

end SystemError

namespace FileTree

/-- The most bytes that a path may have. -/
def pathLimit : Nat := 4095

/-- The names of a path, empty ones included. -/
def pathNames (path : RawText) : List RawText := path.split slash

/-- The location reached from another by one name. -/
def step (tree : FileTree) (here : Location) (name : RawText) : Except SystemError Location :=
  if tree.isDirectory here then
    if name = "" then .ok here
    else if tree.unsearchable.contains here then .error .permissionDenied
    else if name = "." then .ok here
    else if name = ".." then .ok here.dropLast
    else if nameLimit < name.size then .error .nameTooLong
    else if (tree.entry? (here ++ [name])).isSome then .ok (here ++ [name])
    else .error .missing
  else .error .notDirectory

/-- The location reached from another by a list of names. -/
def walk (tree : FileTree) (here : Location) (names : List RawText) :
    Except SystemError Location :=
  names.foldlM tree.step here

/-- The location in which a path starts. -/
def origin (tree : FileTree) (path : RawText) : Location :=
  if path.bytes.head? = some slash then [] else tree.workingDirectory

/-- The location that a path leads to. An empty path and one with a NUL lead nowhere. -/
def resolve (tree : FileTree) (path : RawText) : Except SystemError Location :=
  if path = "" ∨ path.bytes.contains 0 then .error .missing
  else if pathLimit < path.size then .error .nameTooLong
  else tree.walk (tree.origin path) (pathNames path)

/-- Something is found at a path: the path leads somewhere, and something stands there. -/
def pathExists (tree : FileTree) (path : RawText) : Bool :=
  match tree.resolve path with
  | .ok location => (tree.entry? location).isSome
  | .error _ => false

/-- A regular file is found at a path. -/
def isFile (tree : FileTree) (path : RawText) : Bool :=
  match tree.resolve path with
  | .ok location =>
    match tree.entry? location with
    | some (.file _ _) => true
    | _ => false
  | .error _ => false

/-- What stands at a path, with its location, opened for reading. -/
def opened (tree : FileTree) (path : RawText) : Except SystemError (Location × Entry) := do
  let location ← tree.resolve path
  match tree.entry? location with
  | some entry =>
    if tree.unreadable.contains location then .error .permissionDenied else .ok (location, entry)
  | none => .error .missing

/-- The bytes of the file at a path. -/
def read (tree : FileTree) (path : RawText) : Except SystemError (List UInt8) := do
  match ← tree.opened path with
  | (_, .file contents _) => .ok contents
  | (_, .special supply) => .ok supply
  | (_, .directory) => .error .isDirectory

/-- The names in the directory at a path, in the order in which the directory tells them. -/
def list (tree : FileTree) (path : RawText) : Except SystemError (List RawText) := do
  match ← tree.opened path with
  | (location, .directory) => .ok (tree.namesIn location)
  | (_, .file _ _) | (_, .special _) => .error .notDirectory

/-- The location named by a path whether or not anything stands there. -/
def locate (tree : FileTree) (path : RawText) : Location :=
  (pathNames path).foldl
    (fun here (name : RawText) =>
      if name = "" ∨ name = "." then here
      else if name = ".." then here.dropLast
      else here ++ [name])
    (tree.origin path)

/-- Walking a list of names is a step and walking the rest from there. -/
theorem walk_cons (tree : FileTree) (here : Location) (name : RawText) (rest : List RawText) :
    tree.walk here (name :: rest) = tree.step here name >>= fun there => tree.walk there rest :=
  List.foldlM_cons

/-- Walking two lists of names is walking the second from where the first leads. -/
theorem walk_append (tree : FileTree) (here : Location) (front back : List RawText) :
    tree.walk here (front ++ back) = tree.walk here front >>= fun there => tree.walk there back :=
  List.foldlM_append

/-- A pipe or a device stands at a location. -/
def isSpecial (tree : FileTree) (location : Location) : Bool :=
  match tree.entry? location with
  | some (.special _) => true
  | _ => false

end FileTree

/-- A file tree in which some pipes and devices come to no end when they are read. -/
structure FileSystem where
  /-- The files and directories. -/
  tree : FileTree
  /-- The pipes to which nobody writes and the devices that always have more. -/
  endless : List Location
  /-- Only pipes and devices come to no end. -/
  special : ∀ location ∈ endless, tree.isSpecial location = true

/-- The file system in which all that is read comes to an end. -/
def FileTree.system (tree : FileTree) : FileSystem := ⟨tree, [], nofun⟩

/-- Reading at a path comes to an end, be it with bytes or with an error. -/
def FileSystem.readEnds (system : FileSystem) (path : RawText) : Bool :=
  match system.tree.opened path with
  | .ok (location, _) => !system.endless.contains location
  | .error _ => true

end JavaLauncher
