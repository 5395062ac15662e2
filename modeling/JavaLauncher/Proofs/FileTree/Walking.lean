import JavaLauncher.Proofs.Text.Showing
import JavaLauncher.FileTree.Access

/-!
# Walking paths

A step from one place to another by a name is taken from a directory, and by any name but the empty
one only where the directory is open to searching (`step_eq_ok_iff`). A path to such a directory can
be taken one name further: to a file or directory in it (`resolve_child`), or to the directory
itself by a step that stays (`resolve_detour`). Either way it gets longer, and past the limit of the
system it leads nowhere, whatever stands there. The names that a directory tells are those of the
files and directories in it (`mem_namesIn`), each of them once (`nodup_namesIn`); whether they can
be looked up is another matter (`not_resolve_child`).
-/
namespace JavaLauncher

/-- A raw text is a name of a file or directory. -/
structure IsName (raw : RawText) : Prop where
  /-- A name is not empty. -/
  nonempty : raw ≠ ""
  /-- A name does not stay where it is. -/
  moves : raw ≠ "."
  /-- A name does not go up. -/
  descends : raw ≠ ".."
  /-- Nothing in a name ends it. -/
  whole : slash ∉ raw.bytes
  /-- A name has no NUL. -/
  legible : 0 ∉ raw.bytes
  /-- A name is not too long. -/
  short : raw.size ≤ nameLimit

/-- The names that the system takes are told by a test. -/
theorem isName_iff {raw : RawText} : isName raw = true ↔ IsName raw := by
  simp only [isName, Bool.and_eq_true, Bool.not_eq_true', decide_eq_true_eq,
    List.contains_eq_mem, decide_eq_false_iff_not, List.mem_cons, List.not_mem_nil, or_false,
    not_or]
  constructor
  · rintro ⟨⟨⟨⟨nonempty, moves, descends⟩, whole⟩, legible⟩, short⟩
    exact ⟨nonempty, moves, descends, whole, legible, short⟩
  · intro named
    exact ⟨⟨⟨⟨named.nonempty, named.moves, named.descends⟩, named.whole⟩, named.legible⟩,
      named.short⟩

/-- What reading gives: the bytes of a regular file, or what a pipe or a device supplies. -/
inductive Entry.Gives : Entry → List UInt8 → Prop where
  /-- A regular file. -/
  | file (contents : List UInt8) (executable : Bool) : Gives (.file contents executable) contents
  /-- A pipe or a device. -/
  | special (supply : List UInt8) : Gives (.special supply) supply

namespace FileTree

variable {tree : FileTree}

/-- Where a name leads from a directory. -/
inductive StepsTo (tree : FileTree) (here : Location) (name : RawText) : Location → Prop where
  /-- An empty name stays. Nothing is looked up for it. -/
  | pause (empty : name = "") : StepsTo tree here name here
  /-- The name `.` stays, too, but it is looked up. -/
  | stay (searchable : here ∉ tree.unsearchable) (same : name = ".") : StepsTo tree here name here
  /-- The name `..` goes up, but not from the root. -/
  | up (searchable : here ∉ tree.unsearchable) (parent : name = "..") :
      StepsTo tree here name here.dropLast
  /-- Any other name leads to what stands under it, unless it is too long. -/
  | down (searchable : here ∉ tree.unsearchable) (nonempty : name ≠ "") (moves : name ≠ ".")
      (descends : name ≠ "..") (short : name.size ≤ nameLimit)
      (present : (tree.entry? (here ++ [name])).isSome = true) :
      StepsTo tree here name (here ++ [name])

/-- Steps are taken from directories, to where the name leads. -/
theorem step_eq_ok_iff {here there : Location} {name : RawText} :
    tree.step here name = .ok there ↔
      tree.isDirectory here = true ∧ StepsTo tree here name there := by
  rw [step]
  simp only [List.contains_iff_mem]
  constructor
  · intro leads
    split at leads
    · rename_i directory
      refine ⟨directory, ?_⟩
      split at leads
      · rename_i empty
        exact Except.ok.inj leads ▸ .pause empty
      rename_i nonempty
      split at leads
      · cases leads
      rename_i searchable
      split at leads
      · rename_i same
        exact Except.ok.inj leads ▸ .stay searchable same
      rename_i moves
      split at leads
      · rename_i parent
        exact Except.ok.inj leads ▸ .up searchable parent
      rename_i descends
      split at leads
      · cases leads
      rename_i short
      split at leads
      · rename_i present
        exact Except.ok.inj leads ▸
          .down searchable nonempty moves descends (Nat.not_lt.1 short) present
      · cases leads
    · cases leads
  · rintro ⟨directory, steps⟩
    rw [if_pos directory]
    cases steps with
    | pause empty => rw [if_pos empty]
    | stay searchable same =>
      subst same
      rw [if_neg (by decide), if_neg searchable, if_pos rfl]
    | up searchable parent =>
      subst parent
      rw [if_neg (by decide), if_neg searchable, if_neg (by decide), if_pos rfl]
    | down searchable nonempty moves descends short present =>
      rw [if_neg nonempty, if_neg searchable, if_neg moves, if_neg descends,
        if_neg (Nat.not_lt.2 short), if_pos present]

/-- A path leads somewhere when it is not empty, has no NUL, is not too long, and can be walked. -/
theorem resolve_eq_ok_iff {path : RawText} {location : Location} :
    tree.resolve path = .ok location ↔
      path ≠ "" ∧ 0 ∉ path.bytes ∧ path.size ≤ pathLimit ∧
        tree.walk (tree.origin path) (pathNames path) = .ok location := by
  simp only [resolve, List.contains_iff_mem]
  constructor
  · intro leads
    split at leads
    · cases leads
    · rename_i sound
      split at leads
      · cases leads
      · rename_i short
        exact ⟨fun empty => sound (.inl empty), fun nul => sound (.inr nul), Nat.not_lt.1 short,
          leads⟩
  · rintro ⟨nonempty, legible, short, leads⟩
    rw [if_neg (not_or.2 ⟨nonempty, legible⟩), if_neg (Nat.not_lt.2 short), leads]

/-- A walk is its first step and a walk from where that leads. -/
theorem walk_cons_eq_ok_iff {here there : Location} {name : RawText} {rest : List RawText} :
    tree.walk here (name :: rest) = .ok there ↔
      ∃ next, tree.step here name = .ok next ∧ tree.walk next rest = .ok there := by
  rw [walk_cons]
  cases first : tree.step here name with
  | error cause => exact iff_of_false nofun nofun
  | ok next =>
    constructor
    · exact fun onward => ⟨next, rfl, onward⟩
    · rintro ⟨_, same, onward⟩
      cases same
      exact onward

/-- A path with one more name at its end. -/
def child (path name : RawText) : RawText := path ++ "/" ++ name

/-- The bytes of a longer path are those of the path and the name, and one between them. -/
theorem size_child (path name : RawText) : (child path name).size = path.size + 1 + name.size := by
  have one : ("/" : RawText).size = 1 := by decide
  rw [child, RawText.size_append, RawText.size_append, one]

/-- The names of a longer path are those of the path and the one more. -/
theorem pathNames_child (path : RawText) {name : RawText} (whole : slash ∉ name.bytes) :
    pathNames (child path name) = pathNames path ++ [name] := by
  have parts : pathNames (child path name) = pathNames path ++ pathNames name :=
    RawText.split_append slash path name
  rw [parts, pathNames, pathNames, RawText.split_of_not_mem whole]

/-- A path that is not empty has a byte. -/
theorem bytes_ne_nil {path : RawText} (nonempty : path ≠ "") : path.bytes ≠ [] :=
  fun none => nonempty (RawText.ext none)

/-- A longer path starts where the path does. -/
theorem origin_child (tree : FileTree) {path : RawText} (nonempty : path ≠ "") (name : RawText) :
    tree.origin (child path name) = tree.origin path := by
  obtain ⟨first, rest, bytes⟩ := List.exists_cons_of_ne_nil (bytes_ne_nil nonempty)
  have same : (child path name).bytes.head? = path.bytes.head? := by
    rw [child, RawText.bytes_append, RawText.bytes_append, bytes]
    rfl
  rw [origin, origin, same]

/-- Where a path leads, a longer path goes on by one more step, as long as it does not get too long.
-/
theorem resolve_child_eq_ok_iff {path name : RawText} {here there : Location}
    (leads : tree.resolve path = .ok here) (whole : slash ∉ name.bytes)
    (legible : 0 ∉ name.bytes) :
    tree.resolve (child path name) = .ok there ↔
      (child path name).size ≤ pathLimit ∧ tree.step here name = .ok there := by
  obtain ⟨nonempty, clean, _, walked⟩ := resolve_eq_ok_iff.1 leads
  have long : child path name ≠ "" := by
    intro empty
    have none := congrArg RawText.size empty
    rw [size_child] at none
    have zero : ("" : RawText).size = 0 := by decide
    omega
  have legal : 0 ∉ (child path name).bytes := by
    simp only [child, RawText.bytes_append, List.mem_append, not_or]
    exact ⟨⟨clean, by decide⟩, legible⟩
  have goes : tree.walk (tree.origin (child path name)) (pathNames (child path name)) =
      tree.step here name := by
    rw [origin_child tree nonempty, pathNames_child path whole, walk_append, walked]
    exact (walk_cons tree here name []).trans (bind_pure (tree.step here name))
  rw [resolve_eq_ok_iff, goes]
  exact ⟨fun ⟨_, _, short, step⟩ => ⟨short, step⟩, fun ⟨short, step⟩ => ⟨long, legal, short, step⟩⟩

section

variable {path name : RawText} {location : Location}

/-- A path to a directory that is open to searching leads on to what is in it, as long as it does
not get too long. -/
theorem resolve_child (leads : tree.resolve path = .ok location)
    (directory : tree.isDirectory location = true) (searchable : location ∉ tree.unsearchable)
    (named : IsName name) (present : (tree.entry? (location ++ [name])).isSome = true)
    (short : (child path name).size ≤ pathLimit) :
    tree.resolve (child path name) = .ok (location ++ [name]) :=
  have step : tree.step location name = .ok (location ++ [name]) :=
    step_eq_ok_iff.2 ⟨directory,
      .down searchable named.nonempty named.moves named.descends named.short present⟩
  (resolve_child_eq_ok_iff leads named.whole named.legible).2 ⟨short, step⟩

/-- A path to a directory that is closed to searching leads to nothing in it. -/
theorem not_resolve_child (leads : tree.resolve path = .ok location)
    (closed : location ∈ tree.unsearchable) (named : IsName name) (there : Location) :
    tree.resolve (child path name) ≠ .ok there := by
  intro onward
  obtain ⟨_, step⟩ := (resolve_child_eq_ok_iff leads named.whole named.legible).1 onward
  cases (step_eq_ok_iff.1 step).2 with
  | pause empty => exact named.nonempty empty
  | stay searchable _ | up searchable _ | down searchable _ _ _ _ _ => exact searchable closed

/-- A path with steps at its end that stay where it leads. -/
def detour (path : RawText) : Nat → RawText
  | 0 => path
  | steps + 1 => child (detour path steps) "."

/-- Each step that stays takes two bytes. -/
theorem size_detour (path : RawText) (steps : Nat) :
    (detour path steps).size = path.size + 2 * steps := by
  induction steps with
  | zero => rfl
  | succ steps ih =>
    have dot : (("." : RawText)).size = 1 := by decide
    rw [detour, size_child, ih, dot]
    omega

/-- A path to a directory that is open to searching leads there as well with steps that stay, as
long as it does not get too long. -/
theorem resolve_detour (leads : tree.resolve path = .ok location)
    (directory : tree.isDirectory location = true) (searchable : location ∉ tree.unsearchable)
    {steps : Nat} (short : (detour path steps).size ≤ pathLimit) :
    tree.resolve (detour path steps) = .ok location := by
  induction steps with
  | zero => exact leads
  | succ steps ih =>
    have shorter : (detour path steps).size ≤ pathLimit := by
      rw [size_detour] at short ⊢
      omega
    have stays : tree.step location "." = .ok location :=
      step_eq_ok_iff.2 ⟨directory, .stay searchable rfl⟩
    exact (resolve_child_eq_ok_iff (ih shorter) (by decide) (by decide)).2 ⟨short, stays⟩

end

/-- A regular file stands at a location. -/
def HoldsFile (tree : FileTree) (location : Location) : Prop :=
  ∃ contents executable, tree.entry? location = some (.file contents executable)

/-- A path that leads to a location leads to a regular file if one stands there. -/
theorem isFile_iff {path : RawText} :
    tree.isFile path = true ↔
      ∃ location, tree.resolve path = .ok location ∧ tree.HoldsFile location := by
  rw [isFile]
  cases tree.resolve path with
  | error cause => simp
  | ok location =>
    simp only [Except.ok.injEq, exists_eq_left', HoldsFile]
    cases tree.entry? location with
    | none => simp
    | some entry => cases entry <;> simp

/-- What is opened at a path is what stands where the path leads, if it may be read. -/
theorem opened_eq_ok_iff {path : RawText} {location : Location} {entry : Entry} :
    tree.opened path = .ok (location, entry) ↔
      tree.resolve path = .ok location ∧ tree.entry? location = some entry ∧
        location ∉ tree.unreadable := by
  rw [opened]
  cases leads : tree.resolve path with
  | error cause => simp [bind, Except.bind]
  | ok there =>
    simp only [bind, Except.bind, Except.ok.injEq, List.contains_iff_mem]
    cases stands : tree.entry? there with
    | none =>
      constructor
      · intro found
        cases found
      · rintro ⟨rfl, found, _⟩
        rw [stands] at found
        cases found
    | some held =>
      by_cases closed : there ∈ tree.unreadable
      · simp only [if_pos closed]
        constructor
        · intro found
          cases found
        · rintro ⟨rfl, _, readable⟩
          exact absurd closed readable
      · simp only [if_neg closed, Except.ok.injEq, Prod.mk.injEq]
        constructor
        · rintro ⟨rfl, rfl⟩
          exact ⟨rfl, stands, closed⟩
        · rintro ⟨rfl, found, _⟩
          rw [stands] at found
          exact ⟨rfl, Option.some.inj found⟩

/-- What is read at a path is what the entry gives that is opened there. -/
theorem read_eq_ok_iff {path : RawText} {bytes : List UInt8} :
    tree.read path = .ok bytes ↔
      ∃ location entry, tree.opened path = .ok (location, entry) ∧ entry.Gives bytes := by
  rw [read]
  cases opened : tree.opened path with
  | error cause => simp [bind, Except.bind]
  | ok held =>
    obtain ⟨location, entry⟩ := held
    simp only [Except.ok.injEq, Prod.mk.injEq]
    constructor
    · intro found
      refine ⟨location, entry, ⟨rfl, rfl⟩, ?_⟩
      cases entry with
      | directory => cases found
      | file contents executable =>
        obtain rfl : contents = bytes := Except.ok.inj found
        exact .file contents executable
      | special supply =>
        obtain rfl : supply = bytes := Except.ok.inj found
        exact .special supply
    · rintro ⟨_, _, ⟨rfl, rfl⟩, given | given⟩ <;> rfl

/-- Something is found at a path that leads to where something stands, and at no other. -/
theorem pathExists_iff {path : RawText} :
    tree.pathExists path = true ↔
      ∃ location entry, tree.resolve path = .ok location ∧ tree.entry? location = some entry := by
  rw [pathExists]
  cases tree.resolve path with
  | error cause => simp
  | ok location => simp [Option.isSome_iff_exists]

/-- Nothing is found at a path that leads to nothing. -/
theorem pathExists_eq_false_iff {path : RawText} :
    tree.pathExists path = false ↔
      ∀ location, tree.resolve path = .ok location → tree.entry? location = none := by
  rw [← Bool.not_eq_true, pathExists_iff]
  constructor
  · intro nothing location leads
    cases stands : tree.entry? location with
    | none => rfl
    | some entry => exact absurd ⟨location, entry, leads, stands⟩ nothing
  · rintro nothing ⟨location, entry, leads, stands⟩
    rw [nothing location leads] at stands
    cases stands

/-- A pipe or a device supplies something. -/
theorem isSpecial_iff {location : Location} :
    tree.isSpecial location = true ↔ ∃ supply, tree.entry? location = some (.special supply) := by
  rw [isSpecial]
  cases tree.entry? location with
  | none => simp
  | some entry => cases entry <;> simp

/-- A location other than the root holds something when it is listed. -/
theorem isSome_entry?_iff {location : Location} (below : location ≠ []) :
    (tree.entry? location).isSome = true ↔ location ∈ tree.entries.map Prod.fst := by
  rw [FileTree.entry?, if_neg below, List.lookup_isSome_iff, List.mem_map]
  constructor
  · rintro ⟨listed, member, same⟩
    exact ⟨listed, member, (eq_of_beq same).symm⟩
  · rintro ⟨listed, member, rfl⟩
    exact ⟨listed, member, beq_self_eq_true _⟩

/-- A location is in another under a name when its last name is that and the others lead to the
other. -/
theorem nameIn_eq_some_iff {listed location : Location} {name : RawText} :
    (if listed.dropLast = location then listed.getLast? else none) = some name ↔
      listed = location ++ [name] := by
  constructor
  · intro found
    split at found
    · rename_i inside
      obtain ⟨front, rfl⟩ := List.getLast?_eq_some_iff.1 found
      rw [← inside, List.dropLast_concat]
    · cases found
  · rintro rfl
    rw [List.dropLast_concat, if_pos rfl, List.getLast?_concat]

/-- The names in a location are those under which something stands directly inside. -/
theorem mem_namesIn {location : Location} {name : RawText} :
    name ∈ tree.namesIn location ↔ (tree.entry? (location ++ [name])).isSome = true := by
  rw [isSome_entry?_iff (by simp), namesIn, List.mem_filterMap, List.mem_map]
  simp only [nameIn_eq_some_iff]

/-- No name is told twice. -/
theorem nodup_namesIn (tree : FileTree) (location : Location) :
    (tree.namesIn location).Nodup := by
  have distinct := List.pairwise_map.1 tree.distinct
  refine List.Pairwise.filterMap _ ?_ distinct
  intro listed other different name found second third same
  rw [nameIn_eq_some_iff] at found third
  apply different
  rw [found, third, same]

/-- What a directory tells are names. -/
theorem isName_of_mem_namesIn {location : Location} {name : RawText}
    (member : name ∈ tree.namesIn location) : IsName name := by
  rw [mem_namesIn, isSome_entry?_iff (by simp)] at member
  have all := tree.named _ member
  rw [List.all_append, Bool.and_eq_true] at all
  exact isName_iff.1 (by simpa using all.2)

end FileTree

end JavaLauncher
