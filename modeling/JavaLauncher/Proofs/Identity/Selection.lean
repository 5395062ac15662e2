import JavaLauncher.Launch.Plan
import JavaLauncher.Settings.Load
import JavaLauncher.Proofs.Identity.Location

/-!
# What the name of a launcher selects

The base name of a launcher selects whether its arguments are relayed and which configuration files
it consults. It is made by the lower-case mapping of Unicode, but the two names it is compared with
are plain, so that the selection sees the letters of ASCII only: no other character can stand in for
one of theirs (`runsScripts_iff`, `baseName_eq_sharedName_iff`). Since a base name has no dot and no
separator, every configuration file lies right in one directory of the installation, and its own
name never meets the shared one (`selection_exact`).
-/
namespace JavaLauncher

open Text (SameInAscii)

/-- A file lies directly in a directory, which is given with the separator at its end: what names
the file there has no separator and is not empty, and it is neither the directory nor the one
above. -/
def LiesIn (directory file : String) : Prop :=
  ∃ name : String, file = directory ++ name ∧ '/' ∉ name.toList ∧ '\\' ∉ name.toList ∧
    name ≠ "" ∧ name ≠ "." ∧ name ≠ ".."

namespace Identity

variable {identity : Identity}

/-- A launcher relays its arguments when its stem is the name for that, in letters of either
case. -/
theorem runsScripts_iff :
    identity.runsScripts = true ↔ SameInAscii identity.stem "esxx-js" := by
  have plain : "esxx-js".toList.all Text.isPlain = true := by decide
  rw [runsScripts, beq_iff_eq]
  exact Text.lowerCase_eq_iff plain

/-- A launcher has the shared base name when its stem is that name, in letters of either case. -/
theorem baseName_eq_sharedName_iff :
    identity.baseName = sharedName ↔ SameInAscii identity.stem "esxx" := by
  have plain : "esxx".toList.all Text.isPlain = true := by decide
  exact Text.lowerCase_eq_iff plain

/-- Arguments are relayed from the first one on exactly by a launcher that runs scripts. -/
theorem firstTreatment_eq_relayed_iff :
    identity.firstTreatment = .relayed ↔ identity.runsScripts = true := by
  unfold firstTreatment
  split
  · rename_i scripts
    exact iff_of_true rfl scripts
  · rename_i scripts
    exact iff_of_false (by decide) scripts

/-- One file is consulted under the shared base name, and two under every other one. -/
theorem settingsFiles_cases :
    (identity.baseName = sharedName ∧
        identity.settingsFiles = [identity.settingsFile sharedName]) ∨
      (identity.baseName ≠ sharedName ∧ identity.settingsFiles =
        [identity.settingsFile identity.baseName, identity.settingsFile sharedName]) := by
  by_cases shared : identity.baseName = sharedName
  · exact .inl ⟨shared, if_pos shared⟩
  · exact .inr ⟨shared, if_neg shared⟩

/-- A single file is consulted exactly under the shared base name. -/
theorem length_settingsFiles_eq_one_iff :
    identity.settingsFiles.length = 1 ↔ identity.baseName = sharedName := by
  rcases settingsFiles_cases with ⟨shared, files⟩ | ⟨own, files⟩
  · rw [files]
    exact iff_of_true rfl shared
  · rw [files]
    exact iff_of_false (fun single : 2 = 1 => absurd single (by decide)) own

/-- Different names give different configuration files. -/
theorem settingsFile_inj {name other : String}
    (same : identity.settingsFile name = identity.settingsFile other) : name = other := by
  unfold settingsFile installedPath at same
  have characters := congrArg String.toList same
  simp only [String.toList_append] at characters
  have below := List.append_cancel_left characters
  exact String.toList_inj.1 (List.append_cancel_left (List.append_cancel_right below))

/-- One file is consulted or two. -/
theorem length_settingsFiles_eq_one_or_two :
    identity.settingsFiles.length = 1 ∨ identity.settingsFiles.length = 2 := by
  rcases settingsFiles_cases with ⟨_, files⟩ | ⟨_, files⟩
  · left
    rw [files]
    rfl
  · right
    rw [files]
    rfl

/-- No file is consulted twice. -/
theorem nodup_settingsFiles : identity.settingsFiles.Nodup := by
  rcases settingsFiles_cases with ⟨_, files⟩ | ⟨own, files⟩
  · rw [files]
    exact List.nodup_singleton _
  · have different : identity.settingsFile identity.baseName ≠ identity.settingsFile sharedName :=
      fun same => own (settingsFile_inj same)
    rw [files, List.nodup_cons, List.mem_singleton]
    exact ⟨different, List.nodup_singleton _⟩

/-- The shared configuration file is the last one consulted. -/
theorem getLast?_settingsFiles :
    identity.settingsFiles.getLast? = some (identity.directory ++ "etc/esxx.toml") := by
  have shared : identity.settingsFile sharedName = identity.directory ++ "etc/esxx.toml" := rfl
  rw [← shared]
  rcases settingsFiles_cases with ⟨_, files⟩ | ⟨_, files⟩
  · rw [files]
    rfl
  · rw [files]
    rfl

/-- A configuration file lies in its directory under a name with an ending. -/
theorem liesIn_settingsFile {name : String} (slash : '/' ∉ name.toList)
    (backslash : '\\' ∉ name.toList) :
    LiesIn (identity.directory ++ "etc/") (identity.settingsFile name) := by
  have long : 5 ≤ (name ++ ".toml").toList.length := by
    rw [String.toList_append, List.length_append]
    exact Nat.le_add_left _ _
  have other {short : String} (brief : short.toList.length < 5) : name ++ ".toml" ≠ short := by
    rintro rfl
    omega
  refine ⟨name ++ ".toml", ?_, ?_, ?_, other (by decide), other (by decide), other (by decide)⟩
  · apply String.toList_inj.1
    simp [settingsFile, installedPath]
  · simpa using slash
  · simpa using backslash

/-- Every file consulted lies in that directory where the base name is free of separators. -/
theorem liesIn_of_mem_settingsFiles (slash : '/' ∉ identity.baseName.toList)
    (backslash : '\\' ∉ identity.baseName.toList) {file : String}
    (member : file ∈ identity.settingsFiles) : LiesIn (identity.directory ++ "etc/") file := by
  have shared : LiesIn (identity.directory ++ "etc/") (identity.settingsFile sharedName) :=
    liesIn_settingsFile (by decide) (by decide)
  rcases settingsFiles_cases with ⟨_, files⟩ | ⟨_, files⟩
  · rw [files, List.mem_singleton] at member
    rw [member]
    exact shared
  · rw [files, List.mem_cons, List.mem_singleton] at member
    rcases member with rfl | rfl
    · exact liesIn_settingsFile slash backslash
    · exact shared

/-- For every accepted path: scripts are run, and arguments relayed from the first one on, exactly
where the stem of the file name is `esxx-js` up to the case of letters in ASCII; a single file is
consulted exactly where it is `esxx`; a stem with a character outside ASCII does neither. One or two
different files are consulted, all of them lie in `etc`, and the shared one is the last. -/
theorem selection_exact {path : String} (accepted : ofPath path = .ok identity) :
    (identity.runsScripts = true ↔ SameInAscii identity.stem "esxx-js") ∧
      (identity.firstTreatment = .relayed ↔ SameInAscii identity.stem "esxx-js") ∧
      (identity.settingsFiles.length = 1 ↔ SameInAscii identity.stem "esxx") ∧
      (∀ c ∈ identity.stem.toList, 0x80 ≤ c.toNat →
        identity.runsScripts = false ∧ identity.settingsFiles.length ≠ 1) ∧
      (identity.settingsFiles.length = 1 ∨ identity.settingsFiles.length = 2) ∧
      identity.settingsFiles.Nodup ∧
      (∀ file ∈ identity.settingsFiles, LiesIn (identity.directory ++ "etc/") file) ∧
      identity.settingsFiles.getLast? = some (identity.directory ++ "etc/esxx.toml") := by
  have scripts : identity.runsScripts = true ↔ SameInAscii identity.stem "esxx-js" :=
    runsScripts_iff
  have single : identity.settingsFiles.length = 1 ↔ SameInAscii identity.stem "esxx" :=
    length_settingsFiles_eq_one_iff.trans baseName_eq_sharedName_iff
  obtain ⟨slash, backslash⟩ := program_free accepted
  obtain ⟨_, slashFree, backslashFree⟩ := baseName_free slash backslash
  refine ⟨scripts, firstTreatment_eq_relayed_iff.trans scripts, single, ?_,
    length_settingsFiles_eq_one_or_two, nodup_settingsFiles, ?_, getLast?_settingsFiles⟩
  · intro c member high
    have differs {name : String} (plain : name.toList.all Text.isPlain = true) :
        ¬SameInAscii identity.stem name := by
      intro same
      have ascii := Text.ascii_of_sameInAscii plain same member
      omega
    constructor
    · rw [← Bool.not_eq_true, scripts]
      exact differs (by decide)
    · rw [ne_eq, single]
      exact differs (by decide)
  · intro file member
    exact liesIn_of_mem_settingsFiles slashFree backslashFree member

/-- A name in mixed case selects the scripts and, since it is not the shared one, two files; a long
s selects nothing, although its capital is that of the letter in the shared name. -/
theorem selection_exact_mixed :
    ofPath "/opt/bin/EsXx-jS.v2.exe" = .ok ⟨"/opt/bin/", "EsXx-jS.v2.exe"⟩ ∧
      runsScripts ⟨"/opt/bin/", "EsXx-jS.v2.exe"⟩ = true ∧
      firstTreatment ⟨"/opt/bin/", "EsXx-jS.v2.exe"⟩ = .relayed ∧
      (settingsFiles ⟨"/opt/bin/", "EsXx-jS.v2.exe"⟩).length = 2 ∧
      (settingsFiles ⟨"/opt/bin/", "EsXx-jS.v2.exe"⟩).getLast? =
        some "/opt/bin/etc/esxx.toml" ∧
      ofPath "/eſxx" = .ok ⟨"/", "eſxx"⟩ ∧ runsScripts ⟨"/", "eſxx"⟩ = false ∧
      (settingsFiles ⟨"/", "eſxx"⟩).length ≠ 1 := by
  have lastMixed : "/opt/bin/".toList.getLast? = some '/' := by decide
  have mixed : ofPath "/opt/bin/EsXx-jS.v2.exe" = .ok ⟨"/opt/bin/", "EsXx-jS.v2.exe"⟩ :=
    ofPath_eq_iff.2
      (.installed (by decide) (by decide) lastMixed (.inl rfl) (by decide) (by decide))
  have lastLong : "/".toList.getLast? = some '/' := by decide
  have long : ofPath "/eſxx" = .ok ⟨"/", "eſxx"⟩ :=
    ofPath_eq_iff.2 (.installed (by decide) (by decide) lastLong (.inl rfl) (by decide) (by decide))
  obtain ⟨scripts, relayed, single, _, count, _, _, shared⟩ := selection_exact mixed
  have same : SameInAscii (stem ⟨"/opt/bin/", "EsXx-jS.v2.exe"⟩) "esxx-js" := by decide
  have other : ¬SameInAscii (stem ⟨"/opt/bin/", "EsXx-jS.v2.exe"⟩) "esxx" := by decide
  have pair := count.resolve_left fun one => other (single.1 one)
  obtain ⟨_, _, _, foreign, _⟩ := selection_exact long
  have neither := foreign 'ſ' (by decide) (by decide)
  exact ⟨mixed, scripts.2 same, relayed.2 same, pair, shared.trans (by decide), long, neither⟩

end Identity

end JavaLauncher
