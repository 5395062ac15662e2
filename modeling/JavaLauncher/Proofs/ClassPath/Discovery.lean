import JavaLauncher.Proofs.FileTree.Walking
import JavaLauncher.Proofs.Launch.Assembly

/-!
# What discovery finds

Each entry of a search path has a group of archives: the regular files directly inside its library
directory whose names end in `.jar`, once each and in the order in which the directory tells them.
Where there is no such directory, or it is closed to reading, the group is empty. Two things keep
archives out whose names are told all the same: in a library directory that is closed to searching
none is found, and anywhere none whose path is over the limit of the system.

The group of an entry says nothing about other entries, and discovery is the groups of all entries,
one after the other (`archives_exact`). Since a launch tells the archives of the very search path
that it tells, its two properties list the same entries. What it tells of an archive is the path as
it is shown, which is the path where that encodes a text.
-/
namespace JavaLauncher.ClassPath

/-- A directory that may be read is at the end of a path, at a location. -/
structure OpenDirectory (tree : FileTree) (path : RawText) (location : Location) : Prop where
  /-- The path leads to the location. -/
  leads : tree.resolve path = .ok location
  /-- The location holds a directory. -/
  directory : tree.entry? location = some .directory
  /-- The directory tells its names. -/
  readable : location ∉ tree.unreadable

/-- The archives directly inside a location: regular files whose names end in `.jar`. -/
def HoldsArchive (tree : FileTree) (location : Location) (name : RawText) : Prop :=
  tree.HoldsFile (location ++ [name]) ∧ ∃ stem : RawText, name = stem ++ ".jar"

/-- The archives of an entry of a search path. -/
inductive ArchiveGroup (tree : FileTree) (entry : String) : List RawText → Prop where
  /-- The library directory of the entry tells its names and is open to searching: the group is of
  the archives in it whose paths are not too long, each of them once and in the order of the
  directory. -/
  | told {location : Location} {group : List RawText}
      (opened : OpenDirectory tree (below entry "lib") location)
      (searchable : location ∉ tree.unsearchable)
      (exact : ∀ path, path ∈ group ↔ ∃ name, HoldsArchive tree location name ∧
        path = below (below entry "lib") name ∧ path.size ≤ FileTree.pathLimit)
      (once : group.Nodup)
      (ordered : group.Sublist ((tree.namesIn location).map (below (below entry "lib")))) :
      ArchiveGroup tree entry group
  /-- The library directory tells its names, but none of them can be looked up in it. -/
  | unsearched {location : Location} (opened : OpenDirectory tree (below entry "lib") location)
      (closed : location ∈ tree.unsearchable) : ArchiveGroup tree entry []
  /-- There is no library directory that may be read. -/
  | none (closed : ∀ location, ¬OpenDirectory tree (below entry "lib") location) :
      ArchiveGroup tree entry []

/-- A name ends in `.jar` as it is shown exactly where its bytes do. -/
theorem isArchive_iff {name : RawText} :
    isArchive name = true ↔ ∃ stem : RawText, name = stem ++ ".jar" := by
  have encoded : Text.Utf8.encode ".jar" = [0x2e, 0x6a, 0x61, 0x72] := by decide
  rw [← RawText.exists_shown_append_iff encoded (by decide) (by decide), isArchive,
    List.isSuffixOf_iff_suffix]
  constructor
  · rintro ⟨stem, ends⟩
    refine ⟨String.ofList stem, String.toList_inj.1 ?_⟩
    rw [String.toList_append, String.toList_ofList, ends]
  · rintro ⟨stem, ends⟩
    rw [ends, String.toList_append]
    exact List.suffix_append _ _

/-- What is below a directory is one name further, unless the directory ends in a slash. -/
theorem below_eq_child {directory : RawText} {last : UInt8}
    (ends : directory.bytes.getLast? = some last) (apart : last ≠ slash) (name : RawText) :
    below directory name = FileTree.child directory name := by
  have nonempty : directory ≠ "" := by
    rintro rfl
    cases ends
  have unslashed : directory.bytes.getLast? ≠ some slash := by
    rw [ends]
    exact fun same => apart (Option.some.inj same)
  rw [below, if_neg (not_or.2 ⟨nonempty, unslashed⟩)]
  rfl

/-- What is below a library directory is one name further. -/
theorem below_libraryOf (entry : String) (name : RawText) :
    below (libraryOf entry) name = FileTree.child (libraryOf entry) name := by
  have lib : ("lib" : RawText).bytes = [0x6c, 0x69, 0x62] := by decide
  have ends : (libraryOf entry).bytes.getLast? = some 0x62 := by
    rw [libraryOf, below]
    split <;> simp [lib, List.getLast?_append]
  exact below_eq_child ends (by decide) name

/-- Different names below a library directory have different paths. -/
theorem below_libraryOf_inj {entry : String} {first second : RawText}
    (same : below (libraryOf entry) first = below (libraryOf entry) second) : first = second := by
  rw [below_libraryOf, below_libraryOf, FileTree.child, FileTree.child] at same
  have tails := congrArg RawText.bytes same
  simp only [RawText.bytes_append, List.append_cancel_left_eq] at tails
  exact RawText.ext tails

/-- The paths of the names that a directory tells are distinct. -/
theorem nodup_map_below (tree : FileTree) (entry : String) (location : Location) :
    ((tree.namesIn location).map (below (libraryOf entry))).Nodup := by
  refine List.pairwise_map.2 ((tree.nodup_namesIn location).imp ?_)
  intro first second different same
  exact different (below_libraryOf_inj same)

/-- A path tells names when it is that of a directory that may be read. -/
theorem list_eq_ok_iff {tree : FileTree} {path : RawText} {names : List RawText} :
    tree.list path = .ok names ↔
      ∃ location, OpenDirectory tree path location ∧ names = tree.namesIn location := by
  rw [FileTree.list]
  constructor
  · intro told
    cases found : tree.opened path with
    | error cause =>
      rw [found] at told
      cases told
    | ok held =>
      obtain ⟨location, entry⟩ := held
      rw [found] at told
      obtain ⟨leads, stands, readable⟩ := FileTree.opened_eq_ok_iff.1 found
      cases entry with
      | directory => exact ⟨location, ⟨leads, stands, readable⟩, (Except.ok.inj told).symm⟩
      | file contents executable => cases told
      | special supply => cases told
  · rintro ⟨location, opened, rfl⟩
    rw [FileTree.opened_eq_ok_iff.2 ⟨opened.leads, opened.directory, opened.readable⟩]
    rfl

section

variable {tree : FileTree} {entry : String} {location : Location}

/-- A library directory that may be read has the archives among the names that it tells. -/
theorem archivesOf_of_openDirectory (opened : OpenDirectory tree (libraryOf entry) location) :
    archivesOf tree entry = archivesAmong tree (libraryOf entry) (tree.namesIn location) := by
  rw [archivesOf, list_eq_ok_iff.2 ⟨location, opened, rfl⟩]

/-- Without a library directory that may be read there are no archives. -/
theorem archivesOf_of_not_openDirectory
    (closed : ∀ location, ¬OpenDirectory tree (libraryOf entry) location) :
    archivesOf tree entry = [] := by
  rw [archivesOf]
  cases told : tree.list (libraryOf entry) with
  | error cause => rfl
  | ok names =>
    obtain ⟨location, opened, _⟩ := list_eq_ok_iff.1 told
    exact absurd opened (closed location)

/-- What stands directly inside a library directory that is open to searching is found at its path,
as long as the path is not too long. -/
theorem resolve_below (opened : OpenDirectory tree (libraryOf entry) location)
    (searchable : location ∉ tree.unsearchable) {name : RawText}
    (told : name ∈ tree.namesIn location)
    (short : (below (libraryOf entry) name).size ≤ FileTree.pathLimit) :
    tree.resolve (below (libraryOf entry) name) = .ok (location ++ [name]) := by
  rw [below_libraryOf] at short ⊢
  have directory : tree.isDirectory location = true := beq_iff_eq.2 opened.directory
  exact FileTree.resolve_child opened.leads directory searchable
    (FileTree.isName_of_mem_namesIn told) (FileTree.mem_namesIn.1 told) short

/-- The archives of a library directory that may be read and searched are those in it whose paths
are not too long. -/
theorem mem_archivesOf (opened : OpenDirectory tree (libraryOf entry) location)
    (searchable : location ∉ tree.unsearchable) {path : RawText} :
    path ∈ archivesOf tree entry ↔ ∃ name, HoldsArchive tree location name ∧
      path = below (libraryOf entry) name ∧ path.size ≤ FileTree.pathLimit := by
  rw [archivesOf_of_openDirectory opened, archivesAmong, List.mem_filter, List.mem_map]
  constructor
  · rintro ⟨⟨name, member, rfl⟩, file⟩
    obtain ⟨told, suffix⟩ := List.mem_filter.1 member
    obtain ⟨there, leads, holds⟩ := FileTree.isFile_iff.1 file
    have short := (FileTree.resolve_eq_ok_iff.1 leads).2.2.1
    have inside := resolve_below opened searchable told short
    obtain rfl : there = location ++ [name] := Except.ok.inj (leads.symm.trans inside)
    exact ⟨name, ⟨holds, isArchive_iff.1 suffix⟩, rfl, short⟩
  · rintro ⟨name, ⟨holds, suffix⟩, rfl, short⟩
    have told : name ∈ tree.namesIn location := by
      obtain ⟨contents, executable, stands⟩ := holds
      rw [FileTree.mem_namesIn, stands]
      rfl
    have listed : name ∈ (tree.namesIn location).filter isArchive :=
      List.mem_filter.2 ⟨told, isArchive_iff.2 suffix⟩
    exact ⟨⟨name, listed, rfl⟩,
      FileTree.isFile_iff.2 ⟨_, resolve_below opened searchable told short, holds⟩⟩

/-- A library directory that is closed to searching has no archives, whatever names it tells. -/
theorem archivesOf_of_unsearchable (opened : OpenDirectory tree (libraryOf entry) location)
    (closed : location ∈ tree.unsearchable) : archivesOf tree entry = [] := by
  rw [archivesOf_of_openDirectory opened, archivesAmong, List.filter_eq_nil_iff]
  intro path member file
  obtain ⟨name, listed, rfl⟩ := List.mem_map.1 member
  have named := FileTree.isName_of_mem_namesIn (List.mem_filter.1 listed).1
  obtain ⟨there, leads, _⟩ := FileTree.isFile_iff.1 file
  rw [below_libraryOf] at leads
  exact FileTree.not_resolve_child opened.leads closed named there leads

/-- The archives of a library directory that may be read stand in the order of the names that it
tells. -/
theorem archivesOf_sublist (opened : OpenDirectory tree (libraryOf entry) location) :
    (archivesOf tree entry).Sublist
      ((tree.namesIn location).map (below (libraryOf entry))) := by
  rw [archivesOf_of_openDirectory opened, archivesAmong]
  exact List.filter_sublist.trans (List.filter_sublist.map _)

end

/-- What discovery finds for an entry is its group. -/
theorem archiveGroup_archivesOf (tree : FileTree) (entry : String) :
    ArchiveGroup tree entry (archivesOf tree entry) := by
  by_cases present : ∃ location, OpenDirectory tree (libraryOf entry) location
  · obtain ⟨location, opened⟩ := present
    by_cases closed : location ∈ tree.unsearchable
    · rw [archivesOf_of_unsearchable opened closed]
      exact .unsearched opened closed
    · have ordered := archivesOf_sublist opened
      exact .told opened closed (fun _ => mem_archivesOf opened closed)
        ((nodup_map_below tree entry location).sublist ordered) ordered
  · have closed := not_exists.1 present
    rw [archivesOf_of_not_openDirectory closed]
    exact .none closed

/-- An entry has one group. -/
theorem archiveGroup_iff {tree : FileTree} {entry : String} {group : List RawText} :
    ArchiveGroup tree entry group ↔ group = archivesOf tree entry := by
  constructor
  · intro grouped
    cases grouped with
    | told opened searchable exact once ordered =>
      refine eq_of_sublist_of_mem_iff (nodup_map_below tree entry _) ordered
        (archivesOf_sublist opened) fun path => ?_
      exact (exact path).trans (mem_archivesOf opened searchable).symm
    | unsearched opened closed => exact (archivesOf_of_unsearchable opened closed).symm
    | none closed => exact (archivesOf_of_not_openDirectory closed).symm
  · rintro rfl
    exact archiveGroup_archivesOf tree entry

/-- The groups of a search path are those that discovery finds, entry by entry. -/
theorem forall₂_archiveGroup_iff {tree : FileTree} {searchPath : List String}
    {groups : List (List RawText)} :
    List.Forall₂ (ArchiveGroup tree) searchPath groups ↔
      searchPath.map (archivesOf tree) = groups :=
  forall₂_iff_map_eq (archivesOf tree) fun _ _ => archiveGroup_iff.trans eq_comm

/-- The texts that raw texts are shown as are unique. -/
theorem forall₂_shownAs_iff {paths : List RawText} {texts : List String} :
    List.Forall₂ RawText.ShownAs paths texts ↔ paths.map RawText.shown = texts :=
  forall₂_iff_map_eq RawText.shown fun _ _ => RawText.shownAs_iff

/-- In every file tree each entry has exactly one group, and discovery finds the groups of all
entries, one after the other, so that two search paths may be searched apart. Whatever supplies the
search path of a launch, the launch tells this search path in one property and what the paths in the
groups of its entries are shown as in the other. These texts encode the paths exactly where each
path encodes a text. -/
theorem archives_exact (tree : FileTree) :
    (∀ entry, ∃! group, ArchiveGroup tree entry group) ∧
    (∀ searchPath found, found = archives tree searchPath ↔
      ∃ groups, List.Forall₂ (ArchiveGroup tree) searchPath groups ∧ found = groups.flatten) ∧
    (∀ first second,
      archives tree (first ++ second) = archives tree first ++ archives tree second) ∧
    ∀ (identity : Identity) (arguments : List String) (settings : Settings)
      (environment : Environment),
      let searchPath := (settings.javaSetup identity environment).searchPath
      ∃ groups texts, List.Forall₂ (ArchiveGroup tree) searchPath groups ∧
        List.Forall₂ RawText.ShownAs groups.flatten texts ∧
        (texts.map RawText.ofText = groups.flatten ↔ ∀ path ∈ groups.flatten, path.IsText) ∧
        ["-Desxx.app.include_path=" ++ ";".intercalate searchPath,
            "-Done-jar.class.path=" ++ "|".intercalate texts,
            "-jar", identity.installedPath "sbin/esxx.jar"] <:+:
          (LaunchPlan.make tree identity arguments settings environment).commandLine.arguments := by
  refine ⟨fun entry => ?_, fun searchPath found => ?_, archives_append tree, ?_⟩
  · exact ⟨_, archiveGroup_archivesOf tree entry, fun _ grouped => archiveGroup_iff.1 grouped⟩
  · simp only [forall₂_archiveGroup_iff, exists_eq_left', archives, List.flatMap_def]
  · intro identity arguments settings environment searchPath
    refine ⟨_, _, forall₂_archiveGroup_iff.2 rfl, forall₂_shownAs_iff.2 rfl,
      RawText.map_ofText_map_shown_iff, ?_⟩
    rw [← List.flatMap_def]
    exact LaunchPlan.infix_arguments_make tree identity arguments settings environment

/-- Every path that is found leads to a regular file. -/
theorem isFile_of_mem_archives {tree : FileTree} {searchPath : List String}
    {path : RawText}
    (found : path ∈ archives tree searchPath) : tree.isFile path = true := by
  obtain ⟨entry, _, found⟩ := List.mem_flatMap.1 found
  rw [archivesOf] at found
  split at found
  · exact (List.mem_filter.1 found).2
  · cases found

/-- A path over the limit of the system is not found to be that of a regular file. -/
theorem not_mem_archives_of_long {tree : FileTree} {searchPath : List String}
    {path : RawText}
    (long : FileTree.pathLimit < path.size) : path ∉ archives tree searchPath := by
  intro found
  obtain ⟨location, leads, _⟩ := FileTree.isFile_iff.1 (isFile_of_mem_archives found)
  exact absurd (FileTree.resolve_eq_ok_iff.1 leads).2.2.1 (Nat.not_le.2 long)

/-- The path of an archive that is found is not empty. -/
theorem ne_empty_of_mem_archives {tree : FileTree} {searchPath : List String}
    {path : RawText}
    (found : path ∈ archives tree searchPath) : path ≠ "" := by
  obtain ⟨location, leads, _⟩ := FileTree.isFile_iff.1 (isFile_of_mem_archives found)
  exact (FileTree.resolve_eq_ok_iff.1 leads).1

/-- A path with steps at its end that stay is the text with as many slashes and dots. -/
theorem ofText_detour (path : String) (steps : Nat) :
    ((path ++ String.join (List.replicate steps "/.") : String) : RawText) =
      FileTree.detour path steps := by
  induction steps with
  | zero => simp [FileTree.detour]
  | succ steps ih =>
    have longer : path ++ String.join (List.replicate (steps + 1) "/.") =
        path ++ String.join (List.replicate steps "/.") ++ "/." := by
      apply String.toList_inj.1
      simp [List.replicate_succ']
    have step : ("/." : RawText) = "/" ++ "." := by decide
    rw [longer, RawText.ofText_append, ih, step, FileTree.detour]
    exact RawText.ext (List.append_assoc _ _ _).symm

/-- A tree with one file, in the library directory of `s`. -/
def oneArchive (name : RawText) : FileTree :=
  FileTree.empty.put ["s", "lib", name] (.file [] false)

/-- An archive stands in a library directory that may be read, but is not found: from the entry, a
path with many steps that stay, the way to the directory is within the limit for a path, and the way
to the archive is not. -/
theorem archives_of_detour :
    let tree := oneArchive "x.jar"
    let entry := "s" ++ String.join (List.replicate 2043 "/.")
    OpenDirectory tree (below entry "lib") ["s", "lib"] ∧
      HoldsArchive tree ["s", "lib"] "x.jar" ∧
      below (below entry "lib") "x.jar" ∉ archives tree [entry] := by
  intro tree entry
  have way : (entry : RawText) = FileTree.detour "s" 2043 := ofText_detour "s" 2043
  have entrySize : (entry : RawText).size = 4087 := way ▸ FileTree.size_detour "s" 2043
  have ends : (entry : RawText).bytes.getLast? = some 0x2e := by
    rw [way, FileTree.detour, FileTree.child, RawText.bytes_append]
    exact List.getLast?_concat
  have library : below entry "lib" = FileTree.child entry "lib" :=
    below_eq_child ends (by decide) "lib"
  have librarySize : (below entry "lib").size = 4091 := by
    rw [library, FileTree.size_child, entrySize]
    decide
  have archiveSize : (below (below entry "lib") "x.jar").size = 4097 := by
    rw [show below entry "lib" = libraryOf entry from rfl] at librarySize ⊢
    rw [below_libraryOf, FileTree.size_child, librarySize]
    decide
  have leads : tree.resolve entry = .ok ["s"] := by
    have first : tree.resolve "s" = .ok ["s"] := by decide
    rw [way]
    exact FileTree.resolve_detour first (by decide) (by decide) (by rw [← way, entrySize]; decide)
  have opened : OpenDirectory tree (below entry "lib") ["s", "lib"] := by
    refine ⟨?_, by decide, by decide⟩
    rw [library] at librarySize ⊢
    exact FileTree.resolve_child leads (by decide) (by decide) (isName_iff.1 (by decide))
      (by decide) (by rw [librarySize]; decide)
  refine ⟨opened, ⟨⟨[], false, by decide⟩, "x", by decide⟩, not_mem_archives_of_long ?_⟩
  rw [archiveSize]
  decide

/-- An archive that stands in a library directory that may be read is not found by a path with many
steps that stay, nor where the directory is closed to searching. An archive is found whose name
begins with a byte in error, but the class path, as it is shown, names another file. -/
theorem archives_exceptions :
    let stray : RawText := ⟨[0xff]⟩ ++ ".jar"
    let far := "s" ++ String.join (List.replicate 2043 "/.")
    let closed := { oneArchive "x.jar" with unsearchable := [["s", "lib"]] }
    (OpenDirectory (oneArchive "x.jar") (below far "lib") ["s", "lib"] ∧
      HoldsArchive (oneArchive "x.jar") ["s", "lib"] "x.jar" ∧
      below (below far "lib") "x.jar" ∉ archives (oneArchive "x.jar") [far]) ∧
    (OpenDirectory closed (below "s" "lib") ["s", "lib"] ∧
      HoldsArchive closed ["s", "lib"] "x.jar" ∧ archives closed ["s"] = []) ∧
    archives (oneArchive stray) ["s"] = [below (below "s" "lib") stray] ∧
      joined (archives (oneArchive stray) ["s"]) = "s/lib/\ufffd.jar" ∧
      ("s/lib/\ufffd.jar" : RawText) ∉ archives (oneArchive stray) ["s"] := by
  intro stray far closed
  have opened : OpenDirectory closed (below "s" "lib") ["s", "lib"] :=
    ⟨by decide, by decide, by decide⟩
  have holds : HoldsArchive closed ["s", "lib"] "x.jar" := ⟨⟨[], false, by decide⟩, "x", by decide⟩
  exact ⟨archives_of_detour, ⟨opened, holds, by decide⟩, by decide, by decide, by decide⟩

end JavaLauncher.ClassPath
