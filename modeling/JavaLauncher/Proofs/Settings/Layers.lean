import JavaLauncher.Settings.Load

/-!
# Settings by layers

The settings of a launcher are laid over each other file by file, but each of them can be followed
by itself: it comes from the last file that loads and sets it (`Layered.combine`). What a file says
about the other settings, and whether another file is refused, plays no part in it. Where other
sources than files have a say, a value comes from the first of them that sets it (`FirstSet`).
-/
namespace JavaLauncher

/-- A value is the one that the first of some sources to set any sets, or else the default. -/
inductive FirstSet {α : Type} (default : α) : List (α → Prop) → α → Prop where
  /-- No source is left. -/
  | default : FirstSet default [] default
  /-- The first source sets the value. -/
  | here {source : α → Prop} {rest : List (α → Prop)} {value : α} :
      source value → FirstSet default (source :: rest) value
  /-- The first source sets nothing. -/
  | later {source : α → Prop} {rest : List (α → Prop)} {value : α} :
      (∀ other, ¬source other) → FirstSet default rest value →
        FirstSet default (source :: rest) value

/-- Where no source is left, the value is the default. -/
theorem firstSet_nil_iff {α : Type} {default value : α} :
    FirstSet default [] value ↔ value = default := by
  constructor
  · rintro ⟨⟩
    rfl
  · rintro rfl
    exact .default

/-- Where a source sets at most one value, that one is the first set, and the others count only
where there is none. -/
theorem firstSet_cons_iff {α : Type} {default value : α} {source : α → Prop} {found : Option α}
    (sets : ∀ {other}, source other ↔ found = some other) {rest : List (α → Prop)}
    {last : α} (others : FirstSet default rest value ↔ value = last) :
    FirstSet default (source :: rest) value ↔ value = found.getD last := by
  cases found with
  | none =>
    have unset : ∀ other, ¬source other := fun other set => nomatch sets.1 set
    constructor
    · rintro (_ | set | ⟨_, later⟩)
      · exact absurd set (unset value)
      · exact others.1 later
    · exact fun same => .later unset (others.2 same)
  | some first =>
    constructor
    · rintro (_ | set | ⟨unset, _⟩)
      · exact (Option.some.inj (sets.1 set)).symm
      · exact absurd (sets.2 rfl) (unset first)
    · rintro rfl
      exact .here (sets.2 rfl)

/-- A source that sets nothing does not count. -/
theorem firstSet_cons_of_unset {α : Type} {default value : α} {source : α → Prop}
    (unset : ∀ other, ¬source other) {rest : List (α → Prop)} :
    FirstSet default (source :: rest) value ↔ FirstSet default rest value := by
  constructor
  · rintro (_ | set | ⟨_, later⟩)
    · exact absurd set (unset value)
    · exact later
  · exact .later unset

/-- An optional value and another one that counts only where the first is missing are as good as the
one value that is left of them. -/
theorem firstSet_or_iff {α β : Type} {default value : α} {sets : Option β → α → Prop}
    (missing : ∀ other, ¬sets none other) (first second : Option β) {rest : List (α → Prop)} :
    FirstSet default (sets first :: (fun other => first = none ∧ sets second other) :: rest) value ↔
      FirstSet default (sets (first.or second) :: rest) value := by
  cases first with
  | none =>
    rw [firstSet_cons_of_unset missing]
    simp only [true_and, Option.none_or]
  | some found =>
    have silent : ∀ other, ¬(some found = none ∧ sets second other) := fun _ set => nomatch set.1
    rw [Option.some_or]
    constructor
    · rintro (_ | set | ⟨unset, later⟩)
      · exact .here set
      · exact .later unset ((firstSet_cons_of_unset silent).1 later)
    · rintro (_ | set | ⟨unset, later⟩)
      · exact .here set
      · exact .later unset (.later silent later)

/-- The first item from the back that has a value is one with a value that no later item has. -/
theorem findSome?_reverse_eq_some_iff {α β : Type} {items : List α} {value? : α → Option β}
    {value : β} :
    items.reverse.findSome? value? = some value ↔
      ∃ (before after : List α) (item : α), items = before ++ item :: after ∧
        value? item = some value ∧ ∀ later ∈ after, value? later = none := by
  rw [List.findSome?_eq_some_iff]
  constructor
  · rintro ⟨after, item, before, split, found, none⟩
    refine ⟨before.reverse, after.reverse, item, ?_, found, ?_⟩
    · have order := congrArg List.reverse split
      simpa using order
    · intro later member
      exact none later (List.mem_reverse.1 member)
  · rintro ⟨before, after, item, rfl, found, none⟩
    refine ⟨after.reverse, item, before.reverse, by simp, found, ?_⟩
    intro later member
    exact none later (List.mem_reverse.1 member)

namespace Settings

variable {α : Type}

/-- A setting follows the layers: it starts unset, and the upper of two layers has the say in it
where it sets it. -/
structure Layered (setting : Settings → Option α) : Prop where
  /-- Nothing is set at first. -/
  unset : setting Settings.unset = none
  /-- The upper layer wins where it sets anything. -/
  overlaid : ∀ base top, setting (base.overlaid top) = (setting top).or (setting base)

/-- The Java installation follows the layers. -/
theorem layered_javaHome : Layered javaHome := ⟨rfl, fun _ _ => rfl⟩

/-- The extra arguments follow the layers. -/
theorem layered_jvmArguments : Layered jvmArguments := ⟨rfl, fun _ _ => rfl⟩

/-- The search path follows the layers. -/
theorem layered_searchPath : Layered searchPath := ⟨rfl, fun _ _ => rfl⟩

/-- What a file sets, if it exists and is not refused. -/
def setBy (setting : Settings → Option α) : Except Rejection (Option Settings) → Option α
  | .ok (some found) => setting found
  | .ok none | .error _ => none

/-- A file sets something when it loads and its settings do. -/
theorem setBy_eq_some {setting : Settings → Option α} {file : Except Rejection (Option Settings)}
    {value : α} : setBy setting file = some value ↔
      ∃ found, file = .ok (some found) ∧ setting found = some value := by
  cases file with
  | error reason => simp [setBy]
  | ok found =>
    cases found with
    | none => simp [setBy]
    | some found => simp [setBy]

variable {setting : Settings → Option α}

/-- One more file has the say in a setting if it sets it. -/
theorem Layered.withFile (layered : Layered setting) (loaded : Settings × List Rejection)
    (file : Except Rejection (Option Settings)) :
    setting (withFile loaded file).1 = (setBy setting file).or (setting loaded.1) := by
  cases file with
  | error reason => simp [Settings.withFile, setBy]
  | ok found =>
    cases found with
    | none => simp [Settings.withFile, setBy]
    | some found => exact layered.overlaid loaded.1 found

/-- A setting comes from the last file that sets it. -/
theorem Layered.combine (layered : Layered setting)
    (files : List (Except Rejection (Option Settings))) :
    setting (combine files).1 = files.reverse.findSome? (setBy setting) := by
  -- Every file that follows is asked before what has been loaded so far.
  suffices loads : ∀ loaded : Settings × List Rejection,
      setting (files.foldl Settings.withFile loaded).1 =
        (files.reverse.findSome? (setBy setting)).or (setting loaded.1) by
    rw [Settings.combine, loads, layered.unset, Option.or_none]
  induction files with
  | nil => simp
  | cons file files ih =>
    intro loaded
    rw [List.foldl_cons, ih, layered.withFile, List.reverse_cons, List.findSome?_append,
      Option.or_assoc]
    simp

/-- A setting of a launcher is that of the file that all launchers share, or else that of its own
file, if it has another one. -/
theorem Layered.load (layered : Layered setting) (tree : FileTree) (identity : Identity) :
    setting (load tree identity).1 =
      (setBy setting (loadFile tree (identity.settingsFile sharedName))).or
        (if identity.baseName = sharedName then none
          else setBy setting (loadFile tree (identity.settingsFile identity.baseName))) := by
  rw [Settings.load, layered.combine, Identity.settingsFiles]
  cases shared : setBy setting (loadFile tree (identity.settingsFile sharedName)) with
  | some value => split <;> simp [shared]
  | none =>
    split
    · simp [shared]
    · cases own : setBy setting (loadFile tree (identity.settingsFile identity.baseName)) <;>
        simp [shared, own]

end Settings

end JavaLauncher
