import JavaLauncher.Proofs.Text.Splitting
import JavaLauncher.Settings.Setup
import Mathlib.Logic.Function.Basic

/-!
# Where a Java setup comes from

A setup has what the settings say, or else what the environment says, or else a default. Where the
settings have the say the environment has none, and it never has one but through two variables, of
which an empty one counts as unset (`javaSetup_eq_of_agrees`).

Wherever it comes from, a search path has an entry, and none that is empty. Given to another launch
in the environment it stays what it is exactly where no entry holds a semicolon
(`searchPath_again_eq_iff`).
-/
namespace JavaLauncher

/-- Two environments agree on a variable: it is unset or empty in both, or has the same value. -/
def Environment.Agree (first second : Environment) (name : String) : Prop :=
  ∀ value, value ≠ "" → (first name = some value ↔ second name = some value)

/-- Environments that agree on a variable tell the same value, unless it is empty. -/
theorem Environment.Agree.nonempty?_eq {first second : Environment} {name : String}
    (agree : first.Agree second name) : first.nonempty? name = second.nonempty? name := by
  apply Option.ext
  intro value
  simp only [nonempty?, Option.filter_eq_some_iff, decide_eq_true_eq]
  exact and_congr_left (agree value)

namespace Settings

/-- The settings name a Java installation. -/
def NamesJava (settings : Settings) : Prop :=
  ∃ home, settings.javaHome = some home ∧ home ≠ ""

/-- The settings list a library directory. -/
def ListsLibraries (settings : Settings) : Prop :=
  ∃ listed, settings.searchPath = some listed ∧ ∃ entry ∈ listed, entry ≠ ""

/-- Entries that are not empty are left where there are any. -/
theorem nonemptyEntries?_eq_some_iff {entries kept : List String} :
    nonemptyEntries? entries = some kept ↔ kept = entries.filter (· ≠ "") ∧ kept ≠ [] := by
  simp only [nonemptyEntries?]
  split
  · rename_i empty
    rw [empty]
    simp
  · rename_i present
    rw [Option.some_inj, eq_comm]
    exact ⟨fun same => ⟨same, same ▸ present⟩, And.left⟩

/-- Entries that are not empty are all left. -/
theorem nonemptyEntries?_of_nonempty {entries : List String} (present : entries ≠ [])
    (nonempty : ∀ entry ∈ entries, entry ≠ "") : nonemptyEntries? entries = some entries := by
  rw [nonemptyEntries?_eq_some_iff]
  refine ⟨(List.filter_eq_self.2 ?_).symm, present⟩
  simpa using nonempty

section

variable {settings : Settings} {first second : Environment}

/-- The environment has a say in the Java installation through one variable, and only where the
settings do not name it. -/
theorem javaHome?_eq_of_agree (home : settings.NamesJava ∨ first.Agree second javaHomeVariable) :
    settings.javaHome? first = settings.javaHome? second := by
  rw [javaHome?, javaHome?]
  rcases home with ⟨home, named, nonempty⟩ | agree
  · have kept : settings.javaHome.filter (· ≠ "") = some home := by
      rw [named]
      simpa using nonempty
    rw [kept, Option.some_or, Option.some_or]
  · rw [agree.nonempty?_eq]

/-- An empty variable lists nothing, so it makes no difference whether it counts as set. -/
theorem searchPath?_eq (settings : Settings) (environment : Environment) :
    settings.searchPath? environment =
      (settings.searchPath.bind nonemptyEntries?).or
        ((environment.nonempty? searchPathVariable).bind fun text =>
          nonemptyEntries? (Text.fields (· == ';') text)) := by
  have nothing : nonemptyEntries? (Text.fields (· == ';') "") = none := by decide
  rw [searchPath?, Environment.nonempty?]
  cases environment searchPathVariable with
  | none => rfl
  | some text =>
    by_cases empty : text = ""
    · subst empty
      rw [Option.bind_some, nothing]
      rfl
    · rw [Option.filter_some_pos (by simpa using empty)]

/-- The environment has a say in the search path through one variable, and only where the settings
list no library directory. -/
theorem searchPath?_eq_of_agree
    (libraries : settings.ListsLibraries ∨ first.Agree second searchPathVariable) :
    settings.searchPath? first = settings.searchPath? second := by
  rw [searchPath?_eq, searchPath?_eq]
  rcases libraries with ⟨listed, set, entry, member, nonempty⟩ | agree
  · have left : entry ∈ listed.filter (· ≠ "") :=
      List.mem_filter.2 ⟨member, by simpa using nonempty⟩
    have kept : settings.searchPath.bind nonemptyEntries? = some (listed.filter (· ≠ "")) := by
      rw [set, Option.bind_some, nonemptyEntries?_eq_some_iff]
      exact ⟨rfl, List.ne_nil_of_mem left⟩
    rw [kept, Option.some_or, Option.some_or]
  · rw [agree.nonempty?_eq]

/-- The environment has a say in a setup through two variables, and only where the settings leave
it one. -/
theorem javaSetup_eq_of_agree (identity : Identity)
    (home : settings.NamesJava ∨ first.Agree second javaHomeVariable)
    (libraries : settings.ListsLibraries ∨ first.Agree second searchPathVariable) :
    settings.javaSetup identity first = settings.javaSetup identity second := by
  rw [javaSetup, javaSetup, javaHome?_eq_of_agree home, searchPath?_eq_of_agree libraries]

end

section

variable {settings : Settings} {environment : Environment}

/-- A search path that settings or environment give has an entry, and none that is empty. -/
theorem nonempty_of_searchPath?_eq_some {kept : List String}
    (given : settings.searchPath? environment = some kept) :
    kept ≠ [] ∧ ∀ entry ∈ kept, entry ≠ "" := by
  have left : ∃ entries, nonemptyEntries? entries = some kept := by
    rw [searchPath?, Option.or_eq_some_iff, Option.bind_eq_some_iff, Option.bind_eq_some_iff]
      at given
    rcases given with ⟨entries, _, left⟩ | ⟨_, text, _, left⟩
    · exact ⟨entries, left⟩
    · exact ⟨_, left⟩
  obtain ⟨entries, left⟩ := left
  obtain ⟨rfl, present⟩ := nonemptyEntries?_eq_some_iff.1 left
  exact ⟨present, fun entry member => by simpa using (List.mem_filter.1 member).2⟩

/-- Wherever the launcher stands, its first default library directory has a character that is no
semicolon. -/
theorem mem_installedPath_share (identity : Identity) :
    's' ∈ (identity.installedPath "share").toList := by
  rw [Identity.installedPath, String.toList_append]
  exact List.mem_append_right _ (by decide)

/-- A search path has an entry, and none that is empty. -/
theorem nonempty_searchPath (settings : Settings) (identity : Identity)
    (environment : Environment) :
    (settings.javaSetup identity environment).searchPath ≠ [] ∧
      ∀ entry ∈ (settings.javaSetup identity environment).searchPath, entry ≠ "" := by
  simp only [javaSetup]
  cases given : settings.searchPath? environment with
  | some kept => exact nonempty_of_searchPath?_eq_some given
  | none =>
    refine ⟨List.cons_ne_nil _ _, fun entry member => ?_⟩
    simp only [Option.getD_none, Identity.defaultSearchPath, List.mem_cons, List.not_mem_nil,
      or_false] at member
    rcases member with rfl | rfl
    all_goals
      rw [Identity.installedPath, Ne, String.append_eq_empty_iff]
      exact fun empty => absurd empty.2 (by decide)

/-- Where the settings name no Java installation, the variable does if it is not empty. -/
theorem interpreter_of_variable (identity : Identity) {home : String}
    (bare : ¬settings.NamesJava) (given : environment javaHomeVariable = some home)
    (nonempty : home ≠ "") :
    (settings.javaSetup identity environment).interpreter = javaIn home := by
  have unnamed : settings.javaHome.filter (· ≠ "") = none := by
    rw [Option.filter_eq_none_iff]
    intro named set
    have empty : named = "" := Decidable.of_not_not fun other => bare ⟨named, set, other⟩
    simpa using empty
  have told : environment.nonempty? javaHomeVariable = some home := by
    rw [Environment.nonempty?, given, Option.filter_some_pos (by simpa using nonempty)]
  simp only [javaSetup, javaHome?, unnamed, told, Option.none_or]
  rfl

/-- Where the settings list no library directory, the search path is that of the variable, if it has
a field. -/
theorem searchPath_of_variable (identity : Identity) {text : String}
    (bare : ¬settings.ListsLibraries) (given : environment searchPathVariable = some text) :
    (settings.javaSetup identity environment).searchPath =
      if Text.fields (· == ';') text = [] then identity.defaultSearchPath
      else Text.fields (· == ';') text := by
  have unlisted : settings.searchPath.bind nonemptyEntries? = none := by
    rw [Option.bind_eq_none_iff]
    intro listed set
    rw [Option.eq_none_iff_forall_ne_some]
    intro kept left
    obtain ⟨rfl, present⟩ := nonemptyEntries?_eq_some_iff.1 left
    obtain ⟨entry, member⟩ := List.exists_mem_of_ne_nil _ present
    obtain ⟨inside, nonempty⟩ := List.mem_filter.1 member
    exact bare ⟨listed, set, entry, inside, by simpa using nonempty⟩
  simp only [javaSetup, searchPath?, given, unlisted, Option.none_or, Option.bind_some]
  split
  · rename_i empty
    rw [empty]
    rfl
  · rename_i present
    rw [nonemptyEntries?_of_nonempty present fun _ => Text.ne_empty_of_mem_fields]
    rfl

end

/-- A search path that is given to a launch in the environment as one text is the search path of
that launch exactly where no entry holds a semicolon. -/
theorem searchPath_again_eq_iff (settings : Settings) (identity : Identity)
    (environment others : Environment) :
    let searchPath := (settings.javaSetup identity environment).searchPath
    (unset.javaSetup identity (Function.update others searchPathVariable
        (some (";".intercalate searchPath)))).searchPath = searchPath ↔
      ∀ entry ∈ searchPath, ';' ∉ entry.toList := by
  intro searchPath
  obtain ⟨present, nonempty⟩ := nonempty_searchPath settings identity environment
  have bare : ¬unset.ListsLibraries := by
    rintro ⟨_, set, _⟩
    cases set
  rw [searchPath_of_variable identity bare (Function.update_self _ _ _)]
  have separator : ";" = String.singleton ';' := by decide
  constructor
  · intro same entry member
    -- The defaults are no accident: they have a character that would have made a field.
    have fields : Text.fields (· == ';') (";".intercalate searchPath) ≠ [] := by
      intro none
      rw [if_pos none] at same
      have first : identity.installedPath "share" ∈ searchPath := by
        rw [← same]
        exact List.mem_cons_self
      have inside : 's' ∈ (";".intercalate searchPath).toList :=
        Text.mem_intercalate first (mem_installedPath_share identity)
      exact Text.fields_ne_nil inside (by decide) none
    rw [if_neg fields] at same
    rw [← same] at member
    exact Text.not_mem_of_mem_fields member
  · intro free
    have fields : Text.fields (· == ';') (";".intercalate searchPath) = searchPath := by
      rw [separator]
      exact Text.fields_intercalate nonempty free
    rw [fields, if_neg present]

end Settings

end JavaLauncher
