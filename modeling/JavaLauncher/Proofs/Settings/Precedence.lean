import JavaLauncher.Proofs.Settings.Layers
import JavaLauncher.Proofs.Settings.Sources
import JavaLauncher.Proofs.Text.Runs

/-!
# Which source has the say

The Java installation and the search path of a launch come from the settings, or else from the
environment, or else there is a default; a source that has nothing but empty texts to offer is
passed over (`interpreter_iff`, `searchPath_iff`, `searchPath_exact`).

Between two layers of settings this is not so. The upper layer has the say wherever it sets
anything, an empty text or list included, and only what comes out of both is looked at for
emptiness (`javaSetup_overlaid_exact`). An empty setting of the upper layer so hides that of the
lower one without putting anything in its place (`javaSetup_overlaid_hidden`).
-/
namespace JavaLauncher

/-- A variable lists library directories: the stretches of its text between semicolons, of which
there are any. -/
def Environment.Lists (environment : Environment) (entries : List String) : Prop :=
  ∃ text, environment "ESXX_PATH" = some text ∧
    Text.Runs (· == ';') text.toList (entries.map String.toList) ∧ entries ≠ []

/-- A variable lists the fields of its text, if there are any. -/
theorem Environment.lists_iff {environment : Environment} {entries : List String} :
    environment.Lists entries ↔
      ((environment searchPathVariable).bind fun text =>
        Settings.nonemptyEntries? (Text.fields (· == ';') text)) = some entries := by
  have whole (text : String) : Settings.nonemptyEntries? (Text.fields (· == ';') text) =
      some entries ↔ Text.fields (· == ';') text = entries ∧ entries ≠ [] := by
    have kept : (Text.fields (· == ';') text).filter (· ≠ "") = Text.fields (· == ';') text := by
      rw [List.filter_eq_self]
      exact fun field member => by simpa using Text.ne_empty_of_mem_fields member
    rw [Settings.nonemptyEntries?_eq_some_iff, kept, eq_comm]
  rw [Option.bind_eq_some_iff]
  simp only [whole, Text.fields_eq_iff]
  exact Iff.rfl

namespace Settings

/-- A text names a Java installation, in which a program runs Java; the empty text names none. -/
def Names (home : Option String) (interpreter : String) : Prop :=
  ∃ directory, home = some directory ∧ directory ≠ "" ∧ javaIn directory = interpreter

/-- A list has some entries that are not empty, of which there are any. -/
def Lists (listed : Option (List String)) (entries : List String) : Prop :=
  ∃ all, listed = some all ∧ entries = all.filter (· ≠ "") ∧ entries ≠ []

/-- A text that is not empty names the installation at this place. -/
theorem names_iff {home : Option String} {interpreter : String} :
    Names home interpreter ↔ (home.filter (· ≠ "")).map javaIn = some interpreter := by
  simp only [Names, Option.map_eq_some_iff, Option.filter_eq_some_iff, decide_eq_true_eq, and_assoc]

/-- A list has the entries that are left of it. -/
theorem lists_iff {listed : Option (List String)} {entries : List String} :
    Lists listed entries ↔ listed.bind nonemptyEntries? = some entries := by
  rw [Option.bind_eq_some_iff]
  simp only [Lists, nonemptyEntries?_eq_some_iff]

/-- Settings list library directories where their list has an entry that is not empty. -/
theorem listsLibraries_iff {settings : Settings} :
    settings.ListsLibraries ↔ ∃ entries, Lists settings.searchPath entries := by
  constructor
  · rintro ⟨all, set, entry, member, nonempty⟩
    have kept : entry ∈ all.filter (· ≠ "") := List.mem_filter.2 ⟨member, by simpa using nonempty⟩
    exact ⟨_, all, set, rfl, List.ne_nil_of_mem kept⟩
  · rintro ⟨_, all, set, rfl, present⟩
    obtain ⟨entry, member⟩ := List.exists_mem_of_ne_nil _ present
    obtain ⟨inside, nonempty⟩ := List.mem_filter.1 member
    exact ⟨all, set, entry, inside, by simpa using nonempty⟩

/-- Nothing that is missing names an installation. -/
theorem not_names_none (interpreter : String) : ¬Names none interpreter := by
  rintro ⟨_, named, _⟩
  cases named

/-- Nothing that is missing has entries. -/
theorem not_lists_none (entries : List String) : ¬Lists none entries := by
  rintro ⟨_, set, _⟩
  cases set

/-- Java is run in the installation that the settings name, or else in the one that the environment
names, or else by its bare name. -/
theorem interpreter_iff (settings : Settings) (identity : Identity) (environment : Environment)
    {interpreter : String} :
    FirstSet "java" [Names settings.javaHome, Names (environment "JAVA_HOME")] interpreter ↔
      interpreter = (settings.javaSetup identity environment).interpreter := by
  have setup : (settings.javaSetup identity environment).interpreter =
      ((settings.javaHome.filter (· ≠ "")).map javaIn).getD
        ((((environment "JAVA_HOME").filter (· ≠ "")).map javaIn).getD "java") := by
    simp only [javaSetup, javaHome?, Option.map_or, Option.getD_or]
    rfl
  rw [setup]
  exact firstSet_cons_iff names_iff (firstSet_cons_iff names_iff firstSet_nil_iff)

/-- The search path is what the settings list, or else what the environment lists, or else two
directories of the installation. -/
theorem searchPath_iff (settings : Settings) (identity : Identity) (environment : Environment)
    {entries : List String} :
    FirstSet [identity.directory ++ "share", identity.directory ++ "share/site"]
        [Lists settings.searchPath, environment.Lists] entries ↔
      entries = (settings.javaSetup identity environment).searchPath := by
  have setup : (settings.javaSetup identity environment).searchPath =
      (settings.searchPath.bind nonemptyEntries?).getD
        (((environment searchPathVariable).bind fun text =>
          nonemptyEntries? (Text.fields (· == ';') text)).getD
            [identity.directory ++ "share", identity.directory ++ "share/site"]) := by
    simp only [javaSetup, searchPath?, Option.getD_or]
    rfl
  rw [setup]
  exact firstSet_cons_iff lists_iff
    (firstSet_cons_iff Environment.lists_iff firstSet_nil_iff)

/-- A search path from the environment has every character of the variable but the semicolons, in
their order, and no entry with a semicolon. -/
theorem searchPath_of_environment {settings : Settings} {environment : Environment}
    (identity : Identity) (bare : ¬settings.ListsLibraries) {text : String}
    (given : environment "ESXX_PATH" = some text) {c : Char} (member : c ∈ text.toList)
    (other : c ≠ ';') :
    let searchPath := (settings.javaSetup identity environment).searchPath
    (∀ entry ∈ searchPath, ';' ∉ entry.toList) ∧
      String.join searchPath = String.ofList (text.toList.filter (· != ';')) := by
  have fields : Text.fields (· == ';') text ≠ [] :=
    Text.fields_ne_nil member (beq_eq_false_iff_ne.2 other)
  simp only [searchPath_of_variable identity bare given, if_neg fields]
  exact ⟨fun _ => Text.not_mem_of_mem_fields, Text.join_fields _ _⟩

/-- The search path is the entries of the settings that are not empty, or else the stretches of a
variable between semicolons, or else two directories of the installation. It has an entry, and none
that is empty. Where the variable supplies it, no entry holds a semicolon, and the entries put
together are the text of the variable without its semicolons. -/
theorem searchPath_exact (settings : Settings) (identity : Identity) (environment : Environment) :
    let searchPath := (settings.javaSetup identity environment).searchPath
    (∀ entries, FirstSet [identity.directory ++ "share", identity.directory ++ "share/site"]
        [Lists settings.searchPath, environment.Lists] entries ↔ entries = searchPath) ∧
      searchPath ≠ [] ∧ (∀ entry ∈ searchPath, entry ≠ "") ∧
      ∀ text c, ¬settings.ListsLibraries → environment "ESXX_PATH" = some text →
        c ∈ text.toList → c ≠ ';' →
          (∀ entry ∈ searchPath, ';' ∉ entry.toList) ∧
            String.join searchPath = String.ofList (text.toList.filter (· != ';')) := by
  obtain ⟨present, nonempty⟩ := nonempty_searchPath settings identity environment
  refine ⟨fun _ => searchPath_iff settings identity environment, present, nonempty, ?_⟩
  intro text c bare given member other
  exact searchPath_of_environment identity bare given member other

/-- Settings that list nothing but an empty text leave the search path to a variable with semicolons
at its front, at its end and in a row. -/
theorem searchPath_exact_semicolons :
    let settings : Settings := { unset with searchPath := some [""] }
    let environment : Environment := fun name =>
      if name = "ESXX_PATH" then some ";/a b;;/c;" else none
    ¬settings.ListsLibraries ∧ environment "ESXX_PATH" = some ";/a b;;/c;" ∧
      '/' ∈ ";/a b;;/c;".toList ∧ '/' ≠ ';' ∧
      (settings.javaSetup ⟨"./", "x"⟩ environment).searchPath = ["/a b", "/c"] ∧
      String.join (settings.javaSetup ⟨"./", "x"⟩ environment).searchPath = "/a b/c" := by
  intro settings environment
  have bare : ¬settings.ListsLibraries := by
    rintro ⟨all, set, entry, member, nonempty⟩
    obtain rfl : [""] = all := Option.some.inj set
    exact nonempty (List.mem_singleton.1 member)
  have given : environment "ESXX_PATH" = some ";/a b;;/c;" := by decide
  obtain ⟨first, _, _, kept⟩ := searchPath_exact settings ⟨"./", "x"⟩ environment
  have joined := (kept _ '/' bare given (by decide) (by decide)).2
  have listed : environment.Lists ["/a b", "/c"] :=
    ⟨_, given, Text.fields_eq_iff.1 (by decide), by decide⟩
  have silent : ∀ other, ¬Lists settings.searchPath other := fun other set =>
    bare (listsLibraries_iff.2 ⟨other, set⟩)
  have split := (first _).1 (.later silent (.here listed))
  refine ⟨bare, given, by decide, by decide, split.symm, joined.trans ?_⟩
  decide

/-- Settings of two files, the upper ones laid over the lower: the upper ones have the say in the
Java installation and in the search path wherever they set it, and the environment has one only
where what is then set is empty. -/
theorem javaSetup_overlaid_exact (own shared : Settings) (identity : Identity)
    (environment : Environment) :
    let setup := (own.overlaid shared).javaSetup identity environment
    (∀ interpreter,
      FirstSet "java" [Names shared.javaHome,
          fun interpreter => shared.javaHome = none ∧ Names own.javaHome interpreter,
          Names (environment "JAVA_HOME")] interpreter ↔ interpreter = setup.interpreter) ∧
      (∀ entries,
        FirstSet [identity.directory ++ "share", identity.directory ++ "share/site"]
          [Lists shared.searchPath,
            fun entries => shared.searchPath = none ∧ Lists own.searchPath entries,
            environment.Lists] entries ↔ entries = setup.searchPath) ∧
      ((own.overlaid { shared with javaHome := some "" }).javaSetup identity
          environment).interpreter = (unset.javaSetup identity environment).interpreter ∧
      ∀ blanks,
        ((own.overlaid { shared with searchPath := some (List.replicate blanks "") }).javaSetup
          identity environment).searchPath =
            (unset.javaSetup identity environment).searchPath := by
  refine ⟨fun interpreter => ?_, fun entries => ?_, rfl, fun blanks => ?_⟩
  · rw [firstSet_or_iff not_names_none]
    exact interpreter_iff (own.overlaid shared) identity environment
  · rw [firstSet_or_iff not_lists_none]
    exact searchPath_iff (own.overlaid shared) identity environment
  · have nothing : nonemptyEntries? (List.replicate blanks "") = none := by
      simp [nonemptyEntries?]
    simp only [javaSetup, searchPath?, overlaid, unset, Option.some_or, Option.bind_some, nothing,
      Option.bind_none]

/-- Were an empty setting of the upper layer passed over, the lower layer would have the say in
both; but it is hidden, and nothing is left but the defaults. -/
theorem javaSetup_overlaid_hidden :
    let own : Settings := ⟨some "/jdk", none, some ["/lib"]⟩
    let shared : Settings := ⟨some "", none, some []⟩
    let environment : Environment := fun _ => none
    let setup := (own.overlaid shared).javaSetup ⟨"./", "app"⟩ environment
    FirstSet "java" [Names shared.javaHome, Names own.javaHome, Names (environment "JAVA_HOME")]
        "/jdk/bin/java" ∧ setup.interpreter = "java" ∧
      FirstSet ["./share", "./share/site"]
        [Lists shared.searchPath, Lists own.searchPath, environment.Lists] ["/lib"] ∧
      setup.searchPath = ["./share", "./share/site"] := by
  intro own shared environment setup
  have homeless : ∀ other, ¬Names shared.javaHome other := by
    rintro _ ⟨directory, named, nonempty, _⟩
    exact nonempty (Option.some.inj named).symm
  have listless : ∀ other, ¬Lists shared.searchPath other := by
    rintro _ ⟨all, set, rfl, present⟩
    obtain rfl : [] = all := Option.some.inj set
    exact present rfl
  refine ⟨.later homeless (.here ⟨"/jdk", rfl, by decide, by decide⟩), rfl,
    .later listless (.here ⟨["/lib"], rfl, by decide, by decide⟩), by decide⟩

end Settings

end JavaLauncher
