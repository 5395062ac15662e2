import JavaLauncher.Proofs.FileTree.Walking
import JavaLauncher.Settings.Load

/-!
# What a configuration file comes to

A configuration file does one of three things: nothing is found at its path and it is passed over,
it holds settings, or what is found there is refused for a reason (`loads_loadFile`). Each of the
three is said of what is read at the path, and is all that loading the file can give
(`loadFile_eq_none_iff`, `loadFile_eq_some_iff`, `loadFile_eq_error_iff`).
-/
namespace JavaLauncher.Settings

/-- The file at a path holds settings. -/
def HoldsSettings (tree : FileTree) (path : String) (found : Settings) : Prop :=
  ∃ bytes text table, tree.read path = .ok bytes ∧ Text.Utf8.decode? bytes = some text ∧
    Toml.parse? text = some table ∧ ofTable table = .ok found

/-- What stands at a path is refused for a reason. -/
inductive Refuses (tree : FileTree) (path : String) : Rejection → Prop where
  /-- The system does not give its bytes. -/
  | unreadable {cause : SystemError} (present : tree.pathExists path = true)
      (closed : tree.read path = .error cause) :
      Refuses tree path (.unreadable path (.system cause))
  /-- Its bytes are no text. -/
  | notText {bytes : List UInt8} (present : tree.pathExists path = true)
      (read : tree.read path = .ok bytes) (illegible : Text.Utf8.decode? bytes = none) :
      Refuses tree path (.unreadable path .notText)
  /-- Its text is no document. -/
  | form {bytes : List UInt8} {text : String} (present : tree.pathExists path = true)
      (read : tree.read path = .ok bytes) (legible : Text.Utf8.decode? bytes = some text)
      (formless : Toml.parse? text = none) : Refuses tree path (.malformed path .form)
  /-- Its document holds something other than settings. -/
  | schema {bytes : List UInt8} {text : String} {table : Toml.Table} {cause : SchemaError}
      (present : tree.pathExists path = true) (read : tree.read path = .ok bytes)
      (legible : Text.Utf8.decode? bytes = some text) (parsed : Toml.parse? text = some table)
      (foreign : ofTable table = .error cause) : Refuses tree path (.malformed path (.schema cause))

/-- What loading a file gives: nothing, settings or a reason, as the file is not found, holds these
settings or is refused for this reason. -/
inductive Loads (tree : FileTree) (path : String) : Except Rejection (Option Settings) → Prop where
  /-- Nothing is found at the path. -/
  | absent (absent : tree.pathExists path = false) : Loads tree path (.ok none)
  /-- The file holds settings. -/
  | settings {found : Settings} (holds : HoldsSettings tree path found) :
      Loads tree path (.ok (some found))
  /-- What stands at the path is refused. -/
  | refused {reason : Rejection} (refuses : Refuses tree path reason) :
      Loads tree path (.error reason)

section

variable {tree : FileTree} {path : String}

/-- What can be read is found. -/
theorem pathExists_of_read {bytes : List UInt8} (read : tree.read path = .ok bytes) :
    tree.pathExists path = true := by
  obtain ⟨location, entry, opened, _⟩ := FileTree.read_eq_ok_iff.1 read
  obtain ⟨leads, stands, _⟩ := FileTree.opened_eq_ok_iff.1 opened
  exact FileTree.pathExists_iff.2 ⟨location, entry, leads, stands⟩

/-- Nothing is found at a path, or the file there holds settings, or what stands there is
refused. -/
theorem absent_or_holdsSettings_or_refuses (tree : FileTree) (path : String) :
    tree.pathExists path = false ∨ (∃ found, HoldsSettings tree path found) ∨
      ∃ reason, Refuses tree path reason := by
  cases present : tree.pathExists path with
  | false => exact .inl rfl
  | true =>
    refine .inr ?_
    cases read : tree.read path with
    | error cause => exact .inr ⟨_, .unreadable present read⟩
    | ok bytes =>
      cases legible : Text.Utf8.decode? bytes with
      | none => exact .inr ⟨_, .notText present read legible⟩
      | some text =>
        cases parsed : Toml.parse? text with
        | none => exact .inr ⟨_, .form present read legible parsed⟩
        | some table =>
          cases settings : ofTable table with
          | error cause => exact .inr ⟨_, .schema present read legible parsed settings⟩
          | ok found => exact .inl ⟨found, bytes, text, table, read, legible, parsed, settings⟩

/-- Where nothing is found nothing is loaded. -/
theorem loadFile_of_absent (absent : tree.pathExists path = false) :
    loadFile tree path = .ok none := by
  rw [loadFile, absent]
  rfl

/-- A file that holds settings loads as these. -/
theorem HoldsSettings.loadFile {found : Settings} (holds : HoldsSettings tree path found) :
    loadFile tree path = .ok (some found) := by
  obtain ⟨bytes, text, table, read, legible, parsed, settings⟩ := holds
  have loads : ofBytes path (tree.read path) = .ok found := by
    simp only [ofBytes, ofText, read, legible, parsed, settings]
    rfl
  rw [Settings.loadFile, if_pos (pathExists_of_read read), loads]
  rfl

/-- A file that is refused loads as the reason. -/
theorem Refuses.loadFile {reason : Rejection} (refuses : Refuses tree path reason) :
    loadFile tree path = .error reason := by
  cases refuses with
  | unreadable present closed =>
    rw [Settings.loadFile, if_pos present, closed]
    rfl
  | notText present read illegible =>
    rw [Settings.loadFile, if_pos present, read]
    simp only [ofBytes, illegible]
    rfl
  | form present read legible formless =>
    rw [Settings.loadFile, if_pos present, read]
    simp only [ofBytes, legible, ofText, formless]
    rfl
  | schema present read legible parsed foreign =>
    rw [Settings.loadFile, if_pos present, read]
    simp only [ofBytes, legible, ofText, parsed, foreign]
    rfl

/-- Loading a file tells which of the three it is. -/
theorem loads_loadFile (tree : FileTree) (path : String) :
    Loads tree path (loadFile tree path) := by
  rcases absent_or_holdsSettings_or_refuses tree path with absent | ⟨found, holds⟩ | ⟨_, refuses⟩
  · rw [loadFile_of_absent absent]
    exact .absent absent
  · rw [holds.loadFile]
    exact .settings holds
  · rw [refuses.loadFile]
    exact .refused refuses

/-- Nothing is loaded only where nothing is found. -/
theorem loadFile_eq_none_iff : loadFile tree path = .ok none ↔ tree.pathExists path = false := by
  refine ⟨fun loaded => ?_, loadFile_of_absent⟩
  have told := loads_loadFile tree path
  rw [loaded] at told
  cases told with
  | absent absent => exact absent

/-- Settings are loaded only from a file that holds them. -/
theorem loadFile_eq_some_iff {found : Settings} :
    loadFile tree path = .ok (some found) ↔ HoldsSettings tree path found := by
  refine ⟨fun loaded => ?_, HoldsSettings.loadFile⟩
  have told := loads_loadFile tree path
  rw [loaded] at told
  cases told with
  | settings holds => exact holds

/-- A file is ignored only if it is refused. -/
theorem loadFile_eq_error_iff {reason : Rejection} :
    loadFile tree path = .error reason ↔ Refuses tree path reason := by
  refine ⟨fun loaded => ?_, Refuses.loadFile⟩
  have told := loads_loadFile tree path
  rw [loaded] at told
  cases told with
  | refused refuses => exact refuses

end

end JavaLauncher.Settings
