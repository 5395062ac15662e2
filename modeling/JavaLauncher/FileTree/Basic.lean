import JavaLauncher.Text.Raw

/-!
# File trees

A file tree lists its files and directories, each under the names that lead to it from the root. A
name is any bytes that the system takes for one, whether or not they encode a text. The order of the
list is the order in which a directory tells its names. No location is listed twice, and every name
on the way to one is a name that the system takes; the root itself is a directory that is never
listed.

There are two ways in which a place may be closed. A file or directory that is closed to reading
does not give its bytes or tell its names. A directory that is closed to searching may tell its
names, but nothing is looked up in it, so that no path leads on from there. Putting an entry
somewhere makes the directories above it, and removing one removes everything below it.
-/
namespace JavaLauncher

/-- The names that lead from the root to a file or directory. -/
abbrev Location := List RawText

/-- What stands at a location. -/
inductive Entry where
  /-- A directory. -/
  | directory
  /-- A regular file: its bytes, and whether it may be executed. -/
  | file (contents : List UInt8) (executable : Bool)
  /-- A pipe or a device: the bytes that reading it to its end gives. -/
  | special (supply : List UInt8)
  deriving DecidableEq, Repr

/-- The byte that ends a name in a path. -/
def slash : UInt8 := 0x2f

/-- The most bytes that one name may have. -/
def nameLimit : Nat := 255

/-- Bytes may name a file or directory: they are not too many, none of them ends a name, and they
are none of the names that walking a path gives a meaning of their own. -/
def isName (raw : RawText) : Bool :=
  !((["", ".", ".."] : List RawText).contains raw) && !raw.bytes.contains slash &&
    !raw.bytes.contains 0 && decide (raw.size ≤ nameLimit)

/-- The files and directories below a root. -/
structure FileTree where
  /-- Each file and directory with its location. -/
  entries : List (Location × Entry)
  /-- No location is listed twice. -/
  distinct : (entries.map Prod.fst).Nodup
  /-- Only names lead to a location. -/
  named : ∀ location ∈ entries.map Prod.fst, location.all isName = true
  /-- The directory in which relative paths start. -/
  workingDirectory : Location
  /-- The files that do not give their bytes and the directories that do not tell their names. -/
  unreadable : List Location
  /-- The directories in which nothing is looked up. -/
  unsearchable : List Location

namespace FileTree

/-- The tree that has nothing but its root. -/
def empty : FileTree := ⟨[], List.nodup_nil, (fun _ listed => nomatch listed), [], [], []⟩

/-- The entry at a location. -/
def entry? (tree : FileTree) (location : Location) : Option Entry :=
  if location = [] then some .directory else tree.entries.lookup location

/-- A location holds a directory. -/
def isDirectory (tree : FileTree) (location : Location) : Bool :=
  tree.entry? location == some .directory

/-- The names directly inside a location, in the order in which the directory tells them. -/
def namesIn (tree : FileTree) (location : Location) : List RawText :=
  tree.entries.filterMap fun listed =>
    if listed.1.dropLast = location then listed.1.getLast? else none

/-- What is listed in place of an entry when the entry of a location is replaced. -/
def replaced (location : Location) (entry : Entry) (listed : Location × Entry) :
    Location × Entry :=
  if listed.1 = location then (location, entry) else listed

/-- Replacing the entry of a location leaves every location in its place. -/
theorem map_fst_replaced (location : Location) (entry : Entry)
    (entries : List (Location × Entry)) :
    (entries.map (replaced location entry)).map Prod.fst = entries.map Prod.fst := by
  rw [List.map_map]
  apply List.map_congr_left
  intro listed _
  by_cases here : listed.1 = location
  · simp [replaced, here]
  · simp [replaced, here]

/-- A new location at the end leaves the locations distinct. -/
theorem nodup_append_new {location : Location} {entries : List (Location × Entry)}
    (distinct : (entries.map Prod.fst).Nodup) (new : location ∉ entries.map Prod.fst)
    (entry : Entry) : ((entries ++ [(location, entry)]).map Prod.fst).Nodup := by
  rw [List.map_append, List.nodup_append]
  refine ⟨distinct, by simp, ?_⟩
  intro listed member other last
  simp only [List.map_cons, List.map_nil, List.mem_singleton] at last
  rintro rfl
  exact new (last ▸ member)

/-- A new location at the end keeps a property of all locations that it has. -/
theorem forall_append_new {holds : Location → Prop} {location : Location}
    {entries : List (Location × Entry)} (all : ∀ listed ∈ entries.map Prod.fst, holds listed)
    (new : holds location) (entry : Entry) :
    ∀ listed ∈ (entries ++ [(location, entry)]).map Prod.fst, holds listed := by
  intro listed member
  rw [List.map_append, List.mem_append] at member
  rcases member with old | last
  · exact all listed old
  · rw [List.map_singleton, List.mem_singleton] at last
    exact last ▸ new

/-- The tree with one entry set; the location keeps its place in the order if it has one. Nothing
is set where the system takes no name. -/
def set (tree : FileTree) (location : Location) (entry : Entry) : FileTree :=
  if named : location.all isName = true then
    if known : location ∈ tree.entries.map Prod.fst then
      { tree with
        entries := tree.entries.map (replaced location entry)
        distinct := map_fst_replaced location entry tree.entries ▸ tree.distinct
        named := map_fst_replaced location entry tree.entries ▸ tree.named }
    else
      { tree with
        entries := tree.entries ++ [(location, entry)]
        distinct := nodup_append_new tree.distinct known entry
        named := forall_append_new tree.named named entry }
  else tree

/-- The tree with a directory at a location; a directory that is there is left alone. -/
def makeDirectory (tree : FileTree) (location : Location) : FileTree :=
  if tree.isDirectory location then tree else tree.set location .directory

/-- The locations above a location other than the root, the highest first. -/
def locationsAbove (location : Location) : List Location :=
  (List.range' 1 (location.length - 1)).map (location.take ·)

/-- The tree with the directories above a location. -/
def makeParents (tree : FileTree) (location : Location) : FileTree :=
  (locationsAbove location).foldl makeDirectory tree

/-- The tree with an entry at a location, below directories. -/
def put (tree : FileTree) (location : Location) (entry : Entry) : FileTree :=
  if location = [] then tree else (tree.makeParents location).set location entry

/-- The tree that has nothing but a working directory and what is above it. -/
def startingIn (location : Location) : FileTree :=
  { empty.put location .directory with workingDirectory := location }

/-- A place is left when a location is removed: it is the root, or it is not below the location. -/
def isLeft (location place : Location) : Bool := place.isEmpty || !location.isPrefixOf place

/-- The tree without a location and everything below it. -/
def remove (tree : FileTree) (location : Location) : FileTree :=
  { tree with
    entries := tree.entries.filter fun listed => isLeft location listed.1
    distinct := tree.distinct.sublist (List.filter_sublist.map _)
    named := fun listed member => tree.named listed ((List.filter_sublist.map _).subset member)
    unreadable := tree.unreadable.filter (isLeft location)
    unsearchable := tree.unsearchable.filter (isLeft location) }

/-- The root is a directory. -/
theorem isDirectory_nil (tree : FileTree) : tree.isDirectory [] = true := by
  simp [isDirectory, entry?]

end FileTree

end JavaLauncher
