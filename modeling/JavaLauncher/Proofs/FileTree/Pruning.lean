import JavaLauncher.Proofs.FileTree.Walking

/-!
# Pruned trees

A pruned tree is another one without some of its locations and all that is below them. Nothing new
stands in it, so that whatever is read in the pruned tree is read in the other as well
(`Pruned.read`). The converse needs more than that the end of the path is still there: a path may
pass a location that is gone and go up from it again. A path that passes no such location leads
where it led, and the same is read there (`Pruned.read_of_clear`). Nobody waits for ever in a pruned
file system who did not before (`Hangs.of_without`).
-/
namespace JavaLauncher.FileTree

/-- A place goes with a location that is removed: it is the location or below it, and not the
root. -/
def GoesWith (location place : Location) : Prop := place ≠ [] ∧ location <+: place

/-- A place is left where it does not go with the location that is removed. -/
theorem isLeft_iff {location place : Location} :
    isLeft location place = true ↔ ¬GoesWith location place := by
  rw [isLeft, GoesWith, Bool.or_eq_true, List.isEmpty_iff, Bool.not_eq_true', ← Bool.not_eq_true,
    List.isPrefixOf_iff_prefix, Classical.not_and_iff_not_or_not, ne_eq, Classical.not_not]

/-- A tree is another one without some locations and all that is below them. -/
structure Pruned (gone : Location → Prop) (before after : FileTree) : Prop where
  /-- What is not gone stands where it stood. -/
  kept : ∀ {place}, ¬gone place → after.entry? place = before.entry? place
  /-- Nothing stands where something is gone. -/
  cleared : ∀ {place}, gone place → after.entry? place = none
  /-- What is not gone may be read if it could be. -/
  readable : ∀ {place}, ¬gone place → (place ∈ after.unreadable ↔ place ∈ before.unreadable)
  /-- What is not gone may be searched if it could be. -/
  searchable :
    ∀ {place}, ¬gone place → (place ∈ after.unsearchable ↔ place ∈ before.unsearchable)
  /-- Relative paths start where they did. -/
  start : after.workingDirectory = before.workingDirectory

/-- Looking up a key in a list from which the pairs with certain keys were taken. -/
theorem lookup_filter_fst {α β : Type} [BEq α] [LawfulBEq α] (keep : α → Bool) (key : α)
    (pairs : List (α × β)) :
    (pairs.filter fun pair => keep pair.1).lookup key =
      if keep key then pairs.lookup key else none := by
  induction pairs with
  | nil => simp
  | cons pair rest ih =>
    obtain ⟨first, value⟩ := pair
    by_cases same : key = first
    · subst same
      cases kept : keep key <;> simp [kept, ih]
    · have other : (key == first) = false := beq_eq_false_iff_ne.2 same
      cases kept : keep first <;> simp [kept, List.lookup_cons, other, ih]

/-- Removing a location prunes the tree of it and all that is below. -/
theorem pruned_remove (tree : FileTree) (location : Location) :
    Pruned (GoesWith location) tree (tree.remove location) where
  kept {place} clear := by
    simp only [remove, entry?]
    rw [lookup_filter_fst (isLeft location), if_pos (isLeft_iff.2 clear)]
  cleared {place} gone := by
    simp only [remove, entry?]
    rw [lookup_filter_fst (isLeft location), if_neg fun left => isLeft_iff.1 left gone,
      if_neg gone.1]
  readable {place} clear := by
    simp only [remove, List.mem_filter]
    exact and_iff_left (isLeft_iff.2 clear)
  searchable {place} clear := by
    simp only [remove, List.mem_filter]
    exact and_iff_left (isLeft_iff.2 clear)
  start := rfl

/-- A tree pruned twice is pruned of what is gone either time. -/
theorem Pruned.trans {first second : Location → Prop} {tree middle after : FileTree}
    (once : Pruned first tree middle) (twice : Pruned second middle after) :
    Pruned (fun place => first place ∨ second place) tree after where
  kept clear :=
    (twice.kept (not_or.1 clear).2).trans (once.kept (not_or.1 clear).1)
  cleared {place} gone := by
    by_cases later : second place
    · exact twice.cleared later
    · rw [twice.kept later]
      exact once.cleared (gone.resolve_right later)
  readable clear :=
    (twice.readable (not_or.1 clear).2).trans (once.readable (not_or.1 clear).1)
  searchable clear :=
    (twice.searchable (not_or.1 clear).2).trans (once.searchable (not_or.1 clear).1)
  start := twice.start.trans once.start

/-- The tree without some locations and all that is below them. -/
def without (tree : FileTree) (locations : List Location) : FileTree :=
  locations.foldl remove tree

/-- Removing several locations prunes the tree of them and all that is below. -/
theorem pruned_without (tree : FileTree) (locations : List Location) :
    Pruned (fun place => ∃ location ∈ locations, GoesWith location place) tree
      (tree.without locations) := by
  induction locations generalizing tree with
  | nil => exact ⟨fun _ => rfl, nofun, fun _ => Iff.rfl, fun _ => Iff.rfl, rfl⟩
  | cons location rest ih =>
    have both : Pruned _ tree (tree.without (location :: rest)) :=
      (tree.pruned_remove location).trans (ih (tree.remove location))
    simpa only [List.mem_cons, exists_eq_or_imp] using both

/-- On its way, a path passes a location; its start and its end are on the way. -/
def Passes (tree : FileTree) (path : RawText) (place : Location) : Prop :=
  ∃ front, front <+: pathNames path ∧ tree.walk (tree.origin path) front = .ok place

/-- A path passes the location that it leads to. -/
theorem passes_of_resolve {tree : FileTree} {path : RawText} {location : Location}
    (leads : tree.resolve path = .ok location) : tree.Passes path location :=
  ⟨pathNames path, List.prefix_rfl, (resolve_eq_ok_iff.1 leads).2.2.2⟩

namespace Pruned

variable {gone : Location → Prop} {before after : FileTree}

/-- What stands in a pruned tree is not gone. -/
theorem not_gone (pruned : Pruned gone before after) {place : Location} {entry : Entry}
    (stands : after.entry? place = some entry) : ¬gone place := by
  intro lost
  rw [pruned.cleared lost] at stands
  cases stands

/-- Nothing new stands in a pruned tree. -/
theorem entry? (pruned : Pruned gone before after) {place : Location} {entry : Entry}
    (stands : after.entry? place = some entry) : before.entry? place = some entry :=
  (pruned.kept (pruned.not_gone stands)).symm.trans stands

/-- A directory of a pruned tree was one before. -/
theorem isDirectory (pruned : Pruned gone before after) {place : Location}
    (directory : after.isDirectory place = true) : before.isDirectory place = true :=
  beq_iff_eq.2 (pruned.entry? (beq_iff_eq.1 directory))

/-- A step in a pruned tree could be taken before. -/
theorem step (pruned : Pruned gone before after) {here there : Location} {name : RawText}
    (leads : after.step here name = .ok there) : before.step here name = .ok there := by
  obtain ⟨directory, steps⟩ := step_eq_ok_iff.1 leads
  have searched : here ∉ after.unsearchable → here ∉ before.unsearchable :=
    mt (pruned.searchable (pruned.not_gone (beq_iff_eq.1 directory))).2
  refine step_eq_ok_iff.2 ⟨pruned.isDirectory directory, ?_⟩
  cases steps with
  | pause empty => exact .pause empty
  | stay searchable same => exact .stay (searched searchable) same
  | up searchable parent => exact .up (searched searchable) parent
  | down searchable nonempty moves descends short present =>
    obtain ⟨entry, stands⟩ := Option.isSome_iff_exists.1 present
    exact .down (searched searchable) nonempty moves descends short
      (Option.isSome_iff_exists.2 ⟨entry, pruned.entry? stands⟩)

/-- A step between locations that are not gone can still be taken. -/
theorem step_of_clear (pruned : Pruned gone before after) {here there : Location} {name : RawText}
    (source : ¬gone here) (target : ¬gone there) (leads : before.step here name = .ok there) :
    after.step here name = .ok there := by
  obtain ⟨directory, steps⟩ := step_eq_ok_iff.1 leads
  have directory : after.isDirectory here = true := by
    rw [FileTree.isDirectory, pruned.kept source]
    exact directory
  have searched : here ∉ before.unsearchable → here ∉ after.unsearchable :=
    mt (pruned.searchable source).1
  refine step_eq_ok_iff.2 ⟨directory, ?_⟩
  cases steps with
  | pause empty => exact .pause empty
  | stay searchable same => exact .stay (searched searchable) same
  | up searchable parent => exact .up (searched searchable) parent
  | down searchable nonempty moves descends short present =>
    exact .down (searched searchable) nonempty moves descends short (by rwa [pruned.kept target])

/-- A walk in a pruned tree could be taken before. -/
theorem walk (pruned : Pruned gone before after) {here there : Location} {names : List RawText}
    (leads : after.walk here names = .ok there) : before.walk here names = .ok there := by
  induction names generalizing here with
  | nil => exact leads
  | cons name rest ih =>
    obtain ⟨next, first, onward⟩ := walk_cons_eq_ok_iff.1 leads
    exact walk_cons_eq_ok_iff.2 ⟨next, pruned.step first, ih onward⟩

/-- A walk that comes to no location that is gone can still be taken. -/
theorem walk_of_clear (pruned : Pruned gone before after) {here there : Location}
    {names : List RawText}
    (clear : ∀ front, front <+: names → ∀ place, before.walk here front = .ok place → ¬gone place)
    (leads : before.walk here names = .ok there) : after.walk here names = .ok there := by
  induction names generalizing here with
  | nil => exact leads
  | cons name rest ih =>
    obtain ⟨next, first, onward⟩ := walk_cons_eq_ok_iff.1 leads
    have later : ∀ front, front <+: rest → ∀ place, before.walk next front = .ok place →
        ¬gone place := by
      intro front within place reaches
      exact clear (name :: front) (List.cons_prefix_cons.2 ⟨rfl, within⟩) place
        (walk_cons_eq_ok_iff.2 ⟨next, first, reaches⟩)
    have source : ¬gone here := clear [] List.nil_prefix here rfl
    have target : ¬gone next := later [] List.nil_prefix next rfl
    exact walk_cons_eq_ok_iff.2
      ⟨next, pruned.step_of_clear source target first, ih later onward⟩

/-- Paths start where they did. -/
theorem origin (pruned : Pruned gone before after) (path : RawText) :
    after.origin path = before.origin path := by
  rw [FileTree.origin, FileTree.origin, pruned.start]

/-- Where a path leads in a pruned tree it led before. -/
theorem resolve (pruned : Pruned gone before after) {path : RawText} {location : Location}
    (leads : after.resolve path = .ok location) : before.resolve path = .ok location := by
  obtain ⟨nonempty, legible, short, walked⟩ := resolve_eq_ok_iff.1 leads
  rw [pruned.origin] at walked
  exact resolve_eq_ok_iff.2 ⟨nonempty, legible, short, pruned.walk walked⟩

/-- A path that passes no location that is gone leads where it led. -/
theorem resolve_of_clear (pruned : Pruned gone before after) {path : RawText}
    {location : Location} (clear : ∀ place, before.Passes path place → ¬gone place)
    (leads : before.resolve path = .ok location) : after.resolve path = .ok location := by
  obtain ⟨nonempty, legible, short, walked⟩ := resolve_eq_ok_iff.1 leads
  refine resolve_eq_ok_iff.2 ⟨nonempty, legible, short, ?_⟩
  rw [pruned.origin]
  exact pruned.walk_of_clear
    (fun front within place reaches => clear place ⟨front, within, reaches⟩) walked

/-- What is opened in a pruned tree could be opened before. -/
theorem opened (pruned : Pruned gone before after) {path : RawText} {location : Location}
    {entry : Entry} (found : after.opened path = .ok (location, entry)) :
    before.opened path = .ok (location, entry) := by
  obtain ⟨leads, stands, readable⟩ := opened_eq_ok_iff.1 found
  have unclosed := mt (pruned.readable (pruned.not_gone stands)).2 readable
  exact opened_eq_ok_iff.2 ⟨pruned.resolve leads, pruned.entry? stands, unclosed⟩

/-- What could be opened at a path that passes no location that is gone can still be opened. -/
theorem opened_of_clear (pruned : Pruned gone before after) {path : RawText} {location : Location}
    {entry : Entry} (clear : ∀ place, before.Passes path place → ¬gone place)
    (found : before.opened path = .ok (location, entry)) :
    after.opened path = .ok (location, entry) := by
  obtain ⟨leads, stands, readable⟩ := opened_eq_ok_iff.1 found
  have there : ¬gone location := clear location (passes_of_resolve leads)
  exact opened_eq_ok_iff.2 ⟨pruned.resolve_of_clear clear leads,
    (pruned.kept there).trans stands, mt (pruned.readable there).1 readable⟩

/-- What is read in a pruned tree was read before. -/
theorem read (pruned : Pruned gone before after) {path : RawText} {bytes : List UInt8}
    (found : after.read path = .ok bytes) : before.read path = .ok bytes := by
  obtain ⟨location, entry, opened, given⟩ := read_eq_ok_iff.1 found
  exact read_eq_ok_iff.2 ⟨location, entry, pruned.opened opened, given⟩

/-- What was read at a path that passes no location that is gone is read still. -/
theorem read_of_clear (pruned : Pruned gone before after) {path : RawText} {bytes : List UInt8}
    (clear : ∀ place, before.Passes path place → ¬gone place)
    (found : before.read path = .ok bytes) : after.read path = .ok bytes := by
  obtain ⟨location, entry, opened, given⟩ := read_eq_ok_iff.1 found
  exact read_eq_ok_iff.2 ⟨location, entry, pruned.opened_of_clear clear opened, given⟩

end Pruned

end JavaLauncher.FileTree

namespace JavaLauncher.FileSystem

variable {system : FileSystem}

/-- Whoever reads at a path waits for ever: it leads to a pipe or a device that may be read and
comes to no end. -/
def Hangs (system : FileSystem) (path : RawText) : Prop :=
  ∃ location ∈ system.endless, system.tree.resolve path = .ok location ∧
    location ∉ system.tree.unreadable

/-- The file system of a tree has the tree. -/
@[simp] theorem tree_system (tree : FileTree) : tree.system.tree = tree := rfl

/-- Nobody waits for ever where nothing comes to no end. -/
theorem not_hangs_system (tree : FileTree) (path : RawText) : ¬tree.system.Hangs path := by
  rintro ⟨location, member, _⟩
  cases member

/-- Reading ends where nobody waits for ever. -/
theorem readEnds_iff {path : RawText} : system.readEnds path = true ↔ ¬system.Hangs path := by
  rw [readEnds]
  cases opened : system.tree.opened path with
  | error cause =>
    -- What comes to no end stands there as a pipe or a device, so that it could be opened.
    refine iff_of_true rfl ?_
    rintro ⟨location, member, leads, readable⟩
    obtain ⟨supply, stands⟩ := FileTree.isSpecial_iff.1 (system.special location member)
    rw [FileTree.opened_eq_ok_iff.2 ⟨leads, stands, readable⟩] at opened
    cases opened
  | ok held =>
    obtain ⟨location, entry⟩ := held
    obtain ⟨leads, stands, readable⟩ := FileTree.opened_eq_ok_iff.1 opened
    simp only [Bool.not_eq_true', ← Bool.not_eq_true, List.contains_iff_mem]
    refine not_congr ⟨fun member => ⟨location, member, leads, readable⟩, ?_⟩
    rintro ⟨there, member, other, _⟩
    obtain rfl := Except.ok.inj (leads.symm.trans other)
    exact member

/-- A file system without some locations and all that is below them. -/
def without (system : FileSystem) (locations : List Location) : FileSystem where
  tree := system.tree.without locations
  endless := system.endless.filter fun place =>
    locations.all fun location => FileTree.isLeft location place
  special place member := by
    obtain ⟨endless, left⟩ := List.mem_filter.1 member
    obtain ⟨supply, stands⟩ := FileTree.isSpecial_iff.1 (system.special place endless)
    have clear : ¬∃ location ∈ locations, FileTree.GoesWith location place := by
      rintro ⟨location, removed, goes⟩
      exact FileTree.isLeft_iff.1 (List.all_eq_true.1 left location removed) goes
    exact FileTree.isSpecial_iff.2
      ⟨supply, ((system.tree.pruned_without locations).kept clear).trans stands⟩

/-- A file system without some locations has the tree without them. -/
@[simp] theorem tree_without (system : FileSystem) (locations : List Location) :
    (system.without locations).tree = system.tree.without locations := rfl

/-- Nobody waits for ever in a pruned file system who did not before. -/
theorem Hangs.of_without {locations : List Location} {path : RawText}
    (hangs : (system.without locations).Hangs path) : system.Hangs path := by
  obtain ⟨location, member, leads, readable⟩ := hangs
  have pruned := system.tree.pruned_without locations
  obtain ⟨supply, stands⟩ :=
    FileTree.isSpecial_iff.1 ((system.without locations).special location member)
  exact ⟨location, (List.mem_filter.1 member).1, pruned.resolve leads,
    mt (pruned.readable (pruned.not_gone stands)).2 readable⟩

end JavaLauncher.FileSystem
