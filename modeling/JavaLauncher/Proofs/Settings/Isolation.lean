import JavaLauncher.Proofs.FileTree.Pruning
import JavaLauncher.Proofs.Settings.Files
import JavaLauncher.Proofs.Settings.Layers
import Mathlib.Data.List.Basic

/-!
# Bad files among good ones

Loading ends unless one of the configuration files is a pipe or a device that comes to no end. Where
it ends, each of the files does one of three things: nothing is found at its path and it is passed
over, it holds settings and they are laid over those before, or it is refused for a reason, of which
there is one warning (`load_isolated`). Nothing that a refused file says counts, and so it might as
well be removed, with one exception: where the way to a good file leads through a bad one, which is
then a directory, the good file is lost with it. A file that the system lets nobody find, because a
directory on the way is closed to searching, is passed over, be it good or bad. These are the
exceptions that `load_isolation_exceptions` shows.
-/
namespace JavaLauncher.Settings

/-- The last of some files that holds settings and sets one of them sets it to a value. -/
def LastSets {α : Type} (tree : FileTree) (setting : Settings → Option α) (paths : List String)
    (value : α) : Prop :=
  ∃ (before after : List String) (path : String), paths = before ++ path :: after ∧
    (∃ found, HoldsSettings tree path found ∧ setting found = some value) ∧
    ∀ later ∈ after, ∀ found, HoldsSettings tree later found → setting found = none

/-- Some files are warned of for some reasons: once for each file that is refused, in order. -/
inductive Warned (tree : FileTree) : List String → List Rejection → Prop where
  /-- No file is left. -/
  | nil : Warned tree [] []
  /-- A file that is not refused brings no warning. -/
  | quiet {path : String} {rest : List String} {reasons : List Rejection}
      (accepted : ∀ reason, ¬Refuses tree path reason) (others : Warned tree rest reasons) :
      Warned tree (path :: rest) reasons
  /-- A file that is refused brings one warning. -/
  | warn {path : String} {rest : List String} {reason : Rejection} {reasons : List Rejection}
      (refuses : Refuses tree path reason) (others : Warned tree rest reasons) :
      Warned tree (path :: rest) (reason :: reasons)

/-- What a file adds to the settings. -/
def contribution : Except Rejection (Option Settings) → Option Settings
  | .ok found => found
  | .error _ => none

/-- What a file adds to the reasons. -/
def objection : Except Rejection (Option Settings) → Option Rejection
  | .ok _ => none
  | .error reason => some reason

/-- Files are combined by laying what they add to the settings over each other, and by listing what
they add to the reasons. -/
theorem combine_eq (files : List (Except Rejection (Option Settings))) :
    combine files =
      ((files.filterMap contribution).foldl overlaid unset, files.filterMap objection) := by
  suffices loads : ∀ loaded : Settings × List Rejection, files.foldl withFile loaded =
      ((files.filterMap contribution).foldl overlaid loaded.1,
        loaded.2 ++ files.filterMap objection) by
    exact loads (unset, [])
  induction files with
  | nil => intro loaded; simp
  | cons file files ih =>
    intro loaded
    rw [List.foldl_cons, ih]
    cases file with
    | error reason => simp [withFile, contribution, objection, List.filterMap_cons]
    | ok found => cases found <;> simp [withFile, contribution, objection, List.filterMap_cons]

/-- Loading lays what the configuration files add to the settings over each other, and lists what
they add to the reasons. -/
theorem load_eq (tree : FileTree) (identity : Identity) :
    load tree identity =
      ((identity.settingsFiles.filterMap fun path => contribution (loadFile tree path)).foldl
          overlaid unset,
        identity.settingsFiles.filterMap fun path => objection (loadFile tree path)) := by
  rw [load, combine_eq, List.filterMap_map, List.filterMap_map]
  rfl

/-- What a file adds to the settings are those that it holds. -/
theorem contribution_eq_some_iff {tree : FileTree} {path : String} {found : Settings} :
    contribution (loadFile tree path) = some found ↔ HoldsSettings tree path found := by
  rw [← loadFile_eq_some_iff]
  cases loadFile tree path with
  | error reason => simp [contribution]
  | ok found => simp [contribution]

/-- What a file adds to the reasons is the one for which it is refused. -/
theorem objection_eq_some_iff {tree : FileTree} {path : String} {reason : Rejection} :
    objection (loadFile tree path) = some reason ↔ Refuses tree path reason := by
  rw [← loadFile_eq_error_iff]
  cases loadFile tree path with
  | error reason => simp [objection]
  | ok found => simp [objection]

/-- A setting that follows the layers is that of the last file that sets it. -/
theorem Layered.load_eq_some_iff {α : Type} {setting : Settings → Option α}
    (layered : Layered setting) {tree : FileTree} {identity : Identity} {value : α} :
    setting (Settings.load tree identity).1 = some value ↔
      LastSets tree setting identity.settingsFiles value := by
  have sets {path : String} {given : α} : setBy setting (loadFile tree path) = some given ↔
      ∃ found, HoldsSettings tree path found ∧ setting found = some given := by
    simp only [setBy_eq_some, loadFile_eq_some_iff]
  have unset {path : String} : setBy setting (loadFile tree path) = none ↔
      ∀ found, HoldsSettings tree path found → setting found = none := by
    rw [Option.eq_none_iff_forall_ne_some]
    constructor
    · intro free found holds
      rw [Option.eq_none_iff_forall_ne_some]
      exact fun given same => free given (sets.2 ⟨found, holds, same⟩)
    · intro free given same
      obtain ⟨found, holds, set⟩ := sets.1 same
      rw [free found holds] at set
      cases set
  rw [Settings.load, layered.combine, ← List.map_reverse, List.findSome?_map,
    findSome?_reverse_eq_some_iff]
  simp only [Function.comp_apply, sets, unset, LastSets]

/-- The reasons of loading are the warnings. -/
theorem warned_iff {tree : FileTree} {paths : List String} {reasons : List Rejection} :
    Warned tree paths reasons ↔
      reasons = paths.filterMap fun path => objection (loadFile tree path) := by
  constructor
  · intro warned
    induction warned with
    | nil => rfl
    | @quiet path rest reasons accepted _ ih =>
      have silent : objection (loadFile tree path) = none :=
        Option.eq_none_iff_forall_ne_some.2 fun reason told =>
          accepted reason (objection_eq_some_iff.1 told)
      rw [ih, List.filterMap_cons, silent]
    | warn refuses _ ih =>
      rw [ih, List.filterMap_cons, objection_eq_some_iff.2 refuses]
  · rintro rfl
    induction paths with
    | nil => exact .nil
    | cons path rest ih =>
      rw [List.filterMap_cons]
      cases told : objection (loadFile tree path) with
      | none =>
        refine .quiet (fun reason refuses => ?_) ih
        rw [objection_eq_some_iff.2 refuses] at told
        cases told
      | some reason => exact .warn (objection_eq_some_iff.1 told) ih

/-- The locations of the files of a launcher that are refused. -/
def refusedLocations (tree : FileTree) (identity : Identity) : List Location :=
  identity.settingsFiles.filterMap fun path =>
    match loadFile tree path, tree.resolve path with
    | .error _, .ok location => some location
    | _, _ => none

/-- A location is that of a refused file if the path of a refused file leads there. -/
theorem mem_refusedLocations {tree : FileTree} {identity : Identity} {location : Location} :
    location ∈ refusedLocations tree identity ↔
      ∃ path ∈ identity.settingsFiles, (∃ reason, Refuses tree path reason) ∧
        tree.resolve path = .ok location := by
  rw [refusedLocations, List.mem_filterMap]
  constructor
  · rintro ⟨path, member, found⟩
    split at found
    · rename_i reason there refused leads
      obtain rfl : there = location := Option.some.inj found
      exact ⟨path, member, ⟨reason, loadFile_eq_error_iff.1 refused⟩, leads⟩
    · cases found
  · rintro ⟨path, member, ⟨reason, refuses⟩, leads⟩
    refine ⟨path, member, ?_⟩
    rw [refuses.loadFile, leads]

/-- What a file holds in a pruned tree it held before, and it still holds what it held where the way
to it does not come to anything that is gone. -/
theorem holdsSettings_iff_of_pruned {gone : Location → Prop} {before after : FileTree}
    (pruned : FileTree.Pruned gone before after) {path : String} {found : Settings}
    (clear : HoldsSettings before path found →
      ∀ place, before.Passes path place → ¬gone place) :
    HoldsSettings after path found ↔ HoldsSettings before path found := by
  constructor
  · rintro ⟨bytes, text, table, read, holds⟩
    exact ⟨bytes, text, table, pruned.read read, holds⟩
  · intro holds
    have passes := clear holds
    obtain ⟨bytes, text, table, read, settings⟩ := holds
    exact ⟨bytes, text, table, pruned.read_of_clear passes read, settings⟩

/-- The way to a file that holds settings comes neither to a refused file nor below one. -/
def WaysClear (tree : FileTree) (identity : Identity) : Prop :=
  ∀ path ∈ identity.settingsFiles, ∀ found, HoldsSettings tree path found →
    ∀ place, tree.Passes path place →
      ¬∃ location ∈ refusedLocations tree identity, location <+: place

/-- Where no way to a good file leads through a refused one, the refused files might as well be
removed. -/
theorem load_without_refused {tree : FileTree} {identity : Identity}
    (clear : WaysClear tree identity) :
    (load (tree.without (refusedLocations tree identity)) identity).1 =
      (load tree identity).1 := by
  let cleaned := tree.without (refusedLocations tree identity)
  have pruned := tree.pruned_without (refusedLocations tree identity)
  have same : ∀ path ∈ identity.settingsFiles,
      contribution (loadFile cleaned path) = contribution (loadFile tree path) := by
    intro path member
    apply Option.ext
    intro found
    rw [contribution_eq_some_iff, contribution_eq_some_iff]
    refine holdsSettings_iff_of_pruned pruned fun holds place passes => ?_
    rintro ⟨location, refused, _, below⟩
    exact clear path member found holds place passes ⟨location, refused, below⟩
  have kept := List.filterMap_congr same
  rw [load_eq, load_eq, kept]

/-- A file of a file system comes to what it does in its tree, if nobody waits for it for ever. -/
theorem loadFile?_eq_some_iff {system : FileSystem} {path : String}
    {file : Except Rejection (Option Settings)} :
    loadFile? system path = some file ↔
      ¬system.Hangs path ∧ loadFile system.tree path = file := by
  rw [loadFile?, ← FileSystem.readEnds_iff]
  cases system.readEnds path <;> simp

/-- Loading in a file system comes to what it does in its tree, if nobody waits for ever. -/
theorem load?_eq_some_iff {system : FileSystem} {identity : Identity}
    {loaded : Settings × List Rejection} :
    load? system identity = some loaded ↔
      (∀ path ∈ identity.settingsFiles, ¬system.Hangs path) ∧
        load system.tree identity = loaded := by
  have taken {files : List (Except Rejection (Option Settings))} :
      identity.settingsFiles.mapM (loadFile? system) = some files ↔
        (∀ path ∈ identity.settingsFiles, ¬system.Hangs path) ∧
          identity.settingsFiles.map (loadFile system.tree) = files := by
    simp only [mapM_eq_some_iff, loadFile?_eq_some_iff, List.forall₂_and_left]
    rw [forall₂_iff_map_eq (loadFile system.tree) fun _ _ => Iff.rfl]
  simp only [load?, Option.map_eq_some_iff, taken]
  constructor
  · rintro ⟨files, ⟨ends, whole⟩, combined⟩
    exact ⟨ends, by rw [load, whole, combined]⟩
  · rintro ⟨ends, whole⟩
    exact ⟨_, ⟨ends, rfl⟩, whole⟩

/-- Loading ends exactly where no configuration file keeps its reader waiting for ever. Then each
setting is that of the last configuration file that holds settings and sets it. Each file that is
refused is warned of once, in the order of the files, and nothing else is. Provided that no way to a
good file leads through a refused one, the settings stay what they are when all refused files are
removed. A file is passed over without a warning only where its path leads to nothing, and none is
both good and refused. -/
theorem load_isolated (system : FileSystem) (identity : Identity) :
    ((∃ loaded, load? system identity = some loaded) ↔
      ∀ path ∈ identity.settingsFiles, ¬system.Hangs path) ∧
    (∀ settings reasons, load? system identity = some (settings, reasons) →
      (∀ value, settings.javaHome = some value ↔
        LastSets system.tree javaHome identity.settingsFiles value) ∧
      (∀ value, settings.jvmArguments = some value ↔
        LastSets system.tree jvmArguments identity.settingsFiles value) ∧
      (∀ value, settings.searchPath = some value ↔
        LastSets system.tree searchPath identity.settingsFiles value) ∧
      (∀ others, Warned system.tree identity.settingsFiles others ↔ others = reasons) ∧
      (WaysClear system.tree identity → ∃ remaining,
        load? (system.without (refusedLocations system.tree identity)) identity =
          some (settings, remaining))) ∧
    (∀ path : String,
      (∀ location, system.tree.resolve path = .ok location → system.tree.entry? location = none) ↔
        (∀ found, ¬HoldsSettings system.tree path found) ∧
          ∀ reason, ¬Refuses system.tree path reason) ∧
    (∀ path found reason,
      ¬(HoldsSettings system.tree path found ∧ Refuses system.tree path reason)) ∧
    ∀ location, location ∈ refusedLocations system.tree identity ↔
      ∃ path ∈ identity.settingsFiles, (∃ reason, Refuses system.tree path reason) ∧
        system.tree.resolve path = .ok location := by
  refine ⟨?_, fun settings reasons loaded => ?_, fun path => ?_, ?_, fun _ => mem_refusedLocations⟩
  · simp only [load?_eq_some_iff]
    exact ⟨fun ⟨_, ends, _⟩ => ends, fun ends => ⟨_, ends, rfl⟩⟩
  · obtain ⟨ends, loaded⟩ := load?_eq_some_iff.1 loaded
    have settingsLoaded : (load system.tree identity).1 = settings := congrArg Prod.fst loaded
    have reasonsLoaded : (load system.tree identity).2 = reasons := congrArg Prod.snd loaded
    refine ⟨?_, ?_, ?_, fun others => ?_, fun clear => ?_⟩
    · exact fun _ => settingsLoaded ▸ layered_javaHome.load_eq_some_iff
    · exact fun _ => settingsLoaded ▸ layered_jvmArguments.load_eq_some_iff
    · exact fun _ => settingsLoaded ▸ layered_searchPath.load_eq_some_iff
    · rw [warned_iff, ← reasonsLoaded, load_eq]
    · have kept := load_without_refused clear
      have remain : ∀ path ∈ identity.settingsFiles,
          ¬(system.without (refusedLocations system.tree identity)).Hangs path :=
        fun path member hangs => ends path member hangs.of_without
      simp only [load?_eq_some_iff, FileSystem.tree_without, Prod.ext_iff, kept, settingsLoaded]
      exact ⟨_, remain, trivial, rfl⟩
  · rw [← FileTree.pathExists_eq_false_iff, ← loadFile_eq_none_iff]
    simp only [← loadFile_eq_some_iff, ← loadFile_eq_error_iff]
    cases loadFile system.tree path with
    | error reason => simp
    | ok found => cases found <;> simp
  · rintro path found reason ⟨holds, refuses⟩
    exact absurd (holds.loadFile.symm.trans refuses.loadFile) (by simp)

/-- Where the own file of a launcher would be. -/
def ownPlace : Location := ["etc", "x.toml"]

/-- A shared configuration file with one setting, and a directory where the launcher's own file
would be. -/
def obstructed : FileTree :=
  (FileTree.empty.put ownPlace .directory).put ["etc", "esxx.toml"]
    (.file (Text.Utf8.encode "jvmargs=''") false)

/-- The settings of the shared file. -/
def sharedSettings : Settings := { unset with jvmArguments := some "" }

/-- Whatever path leads there, the shared file holds its setting. -/
theorem holdsSettings_obstructed {path : String}
    (read : obstructed.read path = .ok (Text.Utf8.encode "jvmargs=''")) :
    HoldsSettings obstructed path sharedSettings := by
  have parsed : Toml.parse? "jvmargs=''" = some [("jvmargs", .string "")] := by rfl
  have settings : ofTable [("jvmargs", .string "")] = .ok sharedSettings := by
    simp [ofTable, ordered]
    rfl
  exact ⟨_, "jvmargs=''", _, read, by decide, parsed, settings⟩

/-- What loading gives where the first of two files is a directory and the second is the shared
file. -/
theorem load_obstructed {identity : Identity} {own shared : String}
    (files : identity.settingsFiles = [own, shared])
    (leads : obstructed.resolve own = .ok ownPlace)
    (read : obstructed.read shared = .ok (Text.Utf8.encode "jvmargs=''")) :
    refusedLocations obstructed identity = [ownPlace] ∧
      load obstructed identity = (sharedSettings, [.unreadable own (.system .isDirectory)]) := by
  have present : obstructed.pathExists own = true := by
    rw [FileTree.pathExists, leads]
    rfl
  have closed : obstructed.read own = .error .isDirectory := by
    rw [FileTree.read, FileTree.opened, leads]
    rfl
  have refused := (Refuses.unreadable present closed).loadFile
  have held := (holdsSettings_obstructed read).loadFile
  constructor
  · rw [refusedLocations, files]
    simp only [List.filterMap_cons, List.filterMap_nil, refused, held, leads]
  · rw [load_eq, files]
    simp only [List.filterMap_cons, List.filterMap_nil, refused, held]
    exact Prod.ext rfl rfl

/-- Loading ends where nothing is there that comes to no end. -/
theorem load?_system (tree : FileTree) (identity : Identity) :
    load? tree.system identity = some (load tree identity) :=
  load?_eq_some_iff.2 ⟨fun path _ => FileSystem.not_hangs_system tree path, rfl⟩

/-- Beside a directory that stands in the place of the launcher's own file, the shared file is good.
The way to it does not lead through the directory, which might as well be removed. -/
theorem load_isolated_beside :
    let beside : Identity := ⟨"./", "x"⟩
    let reason : Rejection := .unreadable "./etc/x.toml" (.system .isDirectory)
    load? obstructed.system beside = some (sharedSettings, [reason]) ∧
      refusedLocations obstructed beside = [ownPlace] ∧ WaysClear obstructed beside ∧
      LastSets obstructed jvmArguments beside.settingsFiles "" ∧
      Warned obstructed beside.settingsFiles [reason] ∧
      ∃ remaining, load? (obstructed.system.without [ownPlace]) beside =
        some (sharedSettings, remaining) := by
  intro beside reason
  have files : beside.settingsFiles = ["./etc/x.toml", "./etc/esxx.toml"] := by decide
  obtain ⟨refused, loaded⟩ := load_obstructed files rfl rfl
  have clear : WaysClear obstructed beside := by
    rintro path member found ⟨_, _, _, read, _⟩ place ⟨front, part, leads⟩ ⟨location, bad, below⟩
    rw [files, List.mem_pair] at member
    rw [refused, List.mem_singleton] at bad
    subst bad
    rcases member with rfl | rfl
    · have closed : obstructed.read "./etc/x.toml" = .error .isDirectory := rfl
      rw [closed] at read
      cases read
    · have names : FileTree.pathNames "./etc/esxx.toml" =
          ([".", "etc", "esxx.toml"] : List RawText) := by decide
      rw [names] at part
      simp only [List.prefix_cons_iff, List.prefix_nil] at part
      obtain rfl | ⟨_, rfl, rfl | ⟨_, rfl, rfl | ⟨_, rfl, rfl⟩⟩⟩ := part
      all_goals
        cases leads
        revert below
        decide
  have loads : load? obstructed.system beside = some (sharedSettings, [reason]) := by
    rw [load?_system, loaded]
  obtain ⟨_, sets, _, warns, cleaned⟩ :=
    (load_isolated obstructed.system beside).2.1 sharedSettings [reason] loads
  rw [FileSystem.tree_system, refused] at cleaned
  exact ⟨loads, refused, clear, (sets "").1 rfl, (warns _).2 rfl, cleaned clear⟩

/-- Where the launcher was started by a path through that directory, the way to the shared file
leads through it too. Once the directory is removed, the good file is lost with it. -/
theorem load_without_refused_detour :
    let detoured : Identity := ⟨"etc/x.toml/../../", "x"⟩
    let reason : Rejection := .unreadable "etc/x.toml/../../etc/x.toml" (.system .isDirectory)
    refusedLocations obstructed detoured = [ownPlace] ∧
      load obstructed detoured = (sharedSettings, [reason]) ∧
      load (obstructed.without [ownPlace]) detoured = (unset, []) := by
  intro detoured reason
  have files : detoured.settingsFiles =
      ["etc/x.toml/../../etc/x.toml", "etc/x.toml/../../etc/esxx.toml"] := by decide
  obtain ⟨refused, loaded⟩ := load_obstructed files rfl rfl
  refine ⟨refused, loaded, ?_⟩
  rw [load_eq, files]
  simp only [List.filterMap_cons, List.filterMap_nil]
  rw [loadFile_of_absent (by decide), loadFile_of_absent (by decide)]
  exact Prod.ext rfl rfl

/-- A shared configuration file that is no text, in a directory that is closed to searching. -/
def closedOff : FileTree :=
  { FileTree.empty.put ["etc", "esxx.toml"] (.file [0xff] false) with unsearchable := [["etc"]] }

/-- A pipe to which nobody writes, where the shared configuration file would be. -/
def piped : FileSystem where
  tree := FileTree.empty.put ["etc", "esxx.toml"] (.special [])
  endless := [["etc", "esxx.toml"]]
  special := by decide

/-- A launcher that was started by a path through a directory in the place of its own file loses a
good file when the bad one is removed. A bad file that stands in a directory closed to searching
brings no warning. Where the configuration file is a pipe to which nobody writes, loading does not
end. -/
theorem load_isolation_exceptions :
    (∃ detoured, Identity.ofPath "etc/x.toml/../../x" = .ok detoured ∧
      refusedLocations obstructed detoured = [ownPlace] ∧
      (∃ reasons, load? obstructed.system detoured = some (sharedSettings, reasons)) ∧
      load? (obstructed.without [ownPlace]).system detoured = some (unset, [])) ∧
    ∃ shared, Identity.ofPath "./esxx" = .ok shared ∧
      (closedOff.HoldsFile ["etc", "esxx.toml"] ∧
        load? closedOff.system shared = some (unset, [])) ∧
      ∀ loaded, load? piped shared ≠ some loaded := by
  constructor
  · obtain ⟨refused, loaded, lost⟩ := load_without_refused_detour
    refine ⟨⟨"etc/x.toml/../../", "x"⟩, rfl, refused, ?_, ?_⟩
    · rw [load?_system, loaded]
      exact ⟨_, rfl⟩
    · rw [load?_system, lost]
  · have files : (⟨"./", "esxx"⟩ : Identity).settingsFiles = ["./etc/esxx.toml"] := by decide
    refine ⟨⟨"./", "esxx"⟩, rfl, ⟨⟨[0xff], false, by decide⟩, ?_⟩, fun loaded loads => ?_⟩
    · rw [load?_system, load_eq, files]
      simp only [List.filterMap_cons, List.filterMap_nil]
      rw [loadFile_of_absent (by decide)]
      rfl
    · refine (load?_eq_some_iff.1 loads).1 "./etc/esxx.toml" (by rw [files]; simp) ?_
      exact ⟨["etc", "esxx.toml"], by decide, rfl, by decide⟩

end JavaLauncher.Settings
