import JavaLauncher.Proofs.ClassPath.Discovery
import JavaLauncher.Proofs.Settings.Sources

/-!
# Lists in properties

Two properties of a launch are lists, the entries of which are joined by a separator. A list can be
read back from its property exactly where no entry holds the separator and, as for the class path,
each entry is shown as it is (`lists_read_back`). The one exception is the class path without
archives: no other has an empty property, but splitting that gives one text and not none.
-/
namespace JavaLauncher

/-- A class path is split at bars into what its paths are shown as, where there is any and none of
them is shown with a bar. -/
theorem ClassPath.split_joined_eq_iff {paths : List RawText} :
    Text.split '|' (joined paths) = paths.map RawText.shown ↔
      paths ≠ [] ∧ ∀ path ∈ paths, '|' ∉ path.shown.toList := by
  have bar : separator = String.singleton '|' := by decide
  rw [joined, bar, Text.split_intercalate_eq_iff, List.forall_mem_map, ne_eq, List.map_eq_nil_iff]

/-- A bar is shown in a path that encodes a text exactly where a byte of the path is one. -/
theorem RawText.IsText.bar_mem_shown_iff {raw : RawText} (valid : raw.IsText) :
    '|' ∈ raw.shown.toList ↔ 0x7c ∈ raw.bytes := by
  obtain ⟨text, rfl⟩ := valid
  have ascii : (0x7c : UInt8).toNat < 0x80 := by decide
  rw [RawText.shown_ofText]
  exact (Text.Utf8.mem_encode_iff ascii).symm

/-- The paths of a class path are read back by splitting it at bars exactly where there is any, each
encodes a text and none holds a bar. -/
theorem ClassPath.map_split_joined_eq_iff {paths : List RawText} :
    (Text.split '|' (joined paths)).map RawText.ofText = paths ↔
      paths ≠ [] ∧ ∀ path ∈ paths, path.IsText ∧ 0x7c ∉ path.bytes := by
  constructor
  · intro same
    have valid : ∀ path ∈ paths, path.IsText := by
      intro path member
      rw [← same] at member
      obtain ⟨text, _, rfl⟩ := List.mem_map.1 member
      exact ⟨text, rfl⟩
    have back := RawText.map_ofText_map_shown_iff.2 valid
    have pieces : Text.split '|' (joined paths) = paths.map RawText.shown :=
      List.map_injective_iff.2 (fun _ _ => RawText.ofText_inj.1) (same.trans back.symm)
    obtain ⟨present, free⟩ := split_joined_eq_iff.1 pieces
    refine ⟨present, fun path member => ⟨valid path member, ?_⟩⟩
    rw [← (valid path member).bar_mem_shown_iff]
    exact free path member
  · rintro ⟨present, clean⟩
    have pieces : Text.split '|' (joined paths) = paths.map RawText.shown := by
      refine split_joined_eq_iff.2 ⟨present, fun path member => ?_⟩
      rw [(clean path member).1.bar_mem_shown_iff]
      exact (clean path member).2
    rw [pieces]
    exact RawText.map_ofText_map_shown_iff.2 fun path member => (clean path member).1

/-- A launch tells its search path in one property. Another launch of the same launcher that has no
settings and is given the property in the environment has the same search path exactly where no
entry holds a semicolon. A class path is split at bars into its archives exactly where there is any,
the path of each encodes a text and none holds a bar; and it is empty exactly where no archive was
found. -/
theorem LaunchPlan.lists_read_back :
    (∀ (identity : Identity) (settings : Settings) (environment : Environment),
      let searchPath := (settings.javaSetup identity environment).searchPath
      ∃ text,
        (∀ tree arguments, "-Desxx.app.include_path=" ++ text ∈
          (make tree identity arguments settings environment).commandLine.arguments) ∧
        text = ";".intercalate searchPath ∧
        ∀ others : Environment,
          (Settings.unset.javaSetup identity
              (Function.update others "ESXX_PATH" (some text))).searchPath = searchPath ↔
            ∀ entry ∈ searchPath, ';' ∉ entry.toList) ∧
    (∀ paths, (Text.split '|' (ClassPath.joined paths)).map RawText.ofText = paths ↔
      paths ≠ [] ∧ ∀ path ∈ paths, path.IsText ∧ 0x7c ∉ path.bytes) ∧
    ∀ tree searchPath, ClassPath.joined (ClassPath.archives tree searchPath) = "" ↔
      ClassPath.archives tree searchPath = [] := by
  refine ⟨?_, fun paths => ClassPath.map_split_joined_eq_iff, ?_⟩
  · intro identity settings environment searchPath
    refine ⟨_, fun tree arguments => ?_, rfl,
      Settings.searchPath_again_eq_iff settings identity environment⟩
    exact (infix_arguments_make tree identity arguments settings environment).subset
      List.mem_cons_self
  · intro tree searchPath
    have shown : ∀ text ∈ (ClassPath.archives tree searchPath).map RawText.shown, text ≠ "" := by
      rw [List.forall_mem_map]
      intro path member empty
      exact ClassPath.ne_empty_of_mem_archives member (RawText.shown_eq_empty_iff.1 empty)
    rw [ClassPath.joined, Text.intercalate_eq_empty_iff shown, List.map_eq_nil_iff]

/-- There is an archive, and its path holds no bar, but the class path is split into the path of
another file, since a byte in error is not shown as it is. -/
theorem LaunchPlan.class_path_of_stray :
    let stray : RawText := ⟨[0xff]⟩ ++ ".jar"
    let paths := ClassPath.archives (ClassPath.oneArchive stray) ["s"]
    paths ≠ [] ∧ (∀ path ∈ paths, 0x7c ∉ path.bytes) ∧
      (Text.split '|' (ClassPath.joined paths)).map RawText.ofText = ["s/lib/\ufffd.jar"] ∧
      paths ≠ ["s/lib/\ufffd.jar"] := by
  intro stray paths
  exact ⟨by decide, by decide, by decide, by decide⟩

end JavaLauncher
