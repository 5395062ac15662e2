import JavaLauncher.FileTree.Access

/-!
# The class path

Every directory of a search path may have a directory `lib` in it, and the archives there are the
regular files whose names end in `.jar`. The class path lists the archives of each entry, in the
order of the entries; an entry without a `lib` directory has none, and an entry that is listed twice
brings its archives twice. The paths of archives are raw, like the names in them. As one text, a
class path shows them.
-/
namespace JavaLauncher.ClassPath

/-- The character between two archives of a class path. -/
def separator : String := "|"

/-- A name below a directory. Nothing separates them where the directory is empty or ends in a
slash. -/
def below (directory name : RawText) : RawText :=
  if directory = "" ∨ directory.bytes.getLast? = some slash then directory ++ name
  else directory ++ "/" ++ name

/-- The directory that holds the archives of an entry. -/
def libraryOf (entry : String) : RawText := below entry "lib"

/-- A name ends in `.jar` as it is shown. -/
def isArchive (name : RawText) : Bool := ".jar".toList.isSuffixOf name.shown.toList

/-- The archives among the names in a directory: the paths that lead to regular files. -/
def archivesAmong (tree : FileTree) (directory : RawText) (names : List RawText) : List RawText :=
  ((names.filter isArchive).map (below directory)).filter tree.isFile

/-- The archives of one entry, in the order in which the directory tells them; a directory that
cannot be read has none. -/
def archivesOf (tree : FileTree) (entry : String) : List RawText :=
  match tree.list (libraryOf entry) with
  | .ok names => archivesAmong tree (libraryOf entry) names
  | .error _ => []

/-- The archives of a search path. -/
def archives (tree : FileTree) (searchPath : List String) : List RawText :=
  searchPath.flatMap (archivesOf tree)

/-- A class path as one text. -/
def joined (paths : List RawText) : String := separator.intercalate (paths.map RawText.shown)

/-- The archives of two search paths, one after the other, are the archives of each. -/
theorem archives_append (tree : FileTree) (first second : List String) :
    archives tree (first ++ second) = archives tree first ++ archives tree second := by
  simp [archives]

end JavaLauncher.ClassPath
